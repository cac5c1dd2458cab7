import DataCatalog.Template.Parser
import DataCatalog.Template.Renderer
import DataCatalog.Text.Case

/-!
# Rendering templates

`fragment` is a library for a part of the template language: that of `Expr` and `Stmt`, and under
strict settings only.  Nothing undefined is ever printed, tested, gone through or looked into; only
`default` and the tests for it accept what is undefined.  Other filters than `default`, `upper`,
`lower`, `length` and `join`, other tests than `defined` and `undefined`, and the functions of the
library itself are not covered, and a template that uses them is refused as malformed.

`render` is the renderer with this library.
-/

set_option autoImplicit false

namespace DataCatalog.Template

/-- How many bytes come before a stretch, and how many up to its end. -/
def Span.bytes (s : Span) (template : List Char) : Nat × Nat :=
  let bytesBefore (n : Nat) := (String.ofList (template.take n)).utf8ByteSize
  (bytesBefore s.start.offset, bytesBefore s.stop)

/-- Why an expression has no value. -/
inductive Fault where
  /-- Something undefined is used: its stretch where that is known, its line, and what else is
  said. -/
  | undefined (span : Option Span) (line : Nat) (detail : Option String)
  /-- Something impossible is asked for. -/
  | invalid
  deriving DecidableEq, Repr

namespace Fault

/-- The use of something undefined in an expression around a part that begins on a line; the stretch
is shown when it begins on that line. -/
def within (around : Option Span) (line : Nat) (detail : Option String) : Fault :=
  match around with
  | some span =>
      if span.start.line = line then .undefined (some span) line detail
      else .undefined none line detail
  | none => .undefined none line detail

/-- The use of something undefined at a site. -/
def of (site : Site) : Fault := within (some site.span) site.line none

/-- The error of a function that is called at a site. -/
def ofCall (site : Site) (e : LibraryError) : Fault :=
  match e.kind with
  | .undefined => within (some site.span) site.line e.detail
  | .other => .invalid

/-- A fault in a template, as it is reported. -/
def report (template : List Char) : Fault → LibraryError
  | .undefined span line detail => ⟨.undefined, detail, span.map (·.bytes template), some line⟩
  | .invalid => { kind := .other }

end Fault

/-- Names given to data. -/
abbrev Frame := List (String × Datum)

/-- What the names of a template stand for. -/
structure Scope where
  functions : List (String × Function)
  parameters : Datum
  /-- The names given in the template, the innermost first. -/
  frames : List Frame

namespace Scope

/-- What is given under a name in the innermost frame that has it. -/
def given? (id : String) : List Frame → Option Datum
  | [] => none
  | frame :: rest =>
      match frame.find? (·.1 == id) with
      | some (_, value) => some value
      | none => given? id rest

/-- What a name stands for. -/
def lookup (s : Scope) (id : String) : Datum :=
  match given? id s.frames with
  | some value => value
  | none => (s.parameters.member? id).getD (.undefined false)

/-- Gives a name in the innermost frame. -/
def give (frames : List Frame) (id : String) (value : Datum) : List Frame :=
  match frames with
  | [] => [[(id, value)]]
  | frame :: rest => ((id, value) :: frame) :: rest

end Scope

/-- What a look-up that found nothing gives: the undefined, unless it looked into the undefined. -/
def missing (base : Datum) (site : Site) : Except Fault Datum :=
  if base.isUndefined then .error (.of site) else .ok (.undefined false)

/-- An argument as a text. -/
def argumentText (site : Site) : Datum → Except Fault String
  | .undefined _ => .error (.of site)
  | d => .ok d.shown

/-- An optional argument as a text; none counts as not given. -/
def optionalText (site : Site) : Option Datum → Except Fault (Option String)
  | none => .ok none
  | some (.undefined _) => .error (.of site)
  | some .none => .ok none
  | some d => .ok (some d.shown)

/-- What a function makes of its arguments. -/
def applyFunction (f : Function) (site : Site) : List Datum → Except Fault Datum
  | [] => .error .invalid
  | first :: rest => do
      let text ← argumentText site first
      let other ← optionalText site rest.head?
      if 1 < rest.length then throw .invalid
      match f text other with
      | .ok result => return .string result
      | .error e => throw (.ofCall site e)

/-- The call of a function. -/
def callFunction (s : Scope) (function : String) (args : List Datum) (site : Site) :
    Except Fault Datum :=
  -- a name with a value hides the function, and values cannot be called
  if !(s.lookup function).isUndefined then .error .invalid
  else
    match s.functions.lookup function with
    | some f => applyFunction f site args
    | none => .error .invalid

/-- What a filter makes of a datum. -/
def applyFilter (filter : String) (d : Datum) (args : List Datum) (site : Site) :
    Except Fault Datum :=
  if filter == "default" then
    match args with
    | [] => .ok (if d.isUndefined then .string "" else d)
    | [other] => .ok (if d.isUndefined then other else d)
    | [other, .bool lax] =>
        .ok (if d.isUndefined || (lax && d.truth? == some false) then other else d)
    | _ => .error .invalid
  else if filter == "upper" then do
    let s ← argumentText site d
    if args.isEmpty then return .string (Text.upper s) else throw .invalid
  else if filter == "lower" then do
    let s ← argumentText site d
    if args.isEmpty then return .string (Text.lower s) else throw .invalid
  else if filter == "length" then
    match d.size?, args with
    | some n, [] => .ok (.int n)
    | _, _ => .error .invalid
  else if filter == "join" then do
    let between ← optionalText site args.head?
    if 1 < args.length then throw .invalid
    if d.isUndefined then return .string ""
    match d.elements? with
    | some items => return .string (Datum.joinFrom (between.getD "") "" items)
    | none => throw .invalid
  else .error .invalid

/-- The answer of a test. -/
def applyTest (test : String) (d : Datum) (args : List Datum) : Except Fault Datum :=
  if !args.isEmpty then .error .invalid
  else if test == "defined" then .ok (.bool !d.isUndefined)
  else if test == "undefined" then .ok (.bool d.isUndefined)
  else .error .invalid

/-- The result of an operator. -/
def operate (op : BinaryOp) (a b : Datum) : Except Fault Datum :=
  match op with
  | .add =>
      match a.add? b with
      | some d => .ok d
      | none => .error .invalid
  | .concat => .ok (.string (a.shown ++ b.shown))
  | .equal => .ok (.bool (a.same b))
  | .unequal => .ok (.bool !(a.same b))
  | .less => .ok (.bool ((a.order b).isLT))
  | .atMost => .ok (.bool ((a.order b).isLE))
  | .greater => .ok (.bool ((a.order b).isGT))
  | .atLeast => .ok (.bool ((a.order b).isGE))

/-- Whether a datum counts as true, in an expression around it. -/
def truth (around : Option Span) (line : Nat) (d : Datum) : Except Fault Bool :=
  match d.truth? with
  | some b => .ok b
  | none => .error (.within around line none)

namespace Expr

mutual

/-- The value of an expression; `around` is the stretch shown for parts without one of their own. -/
def eval (s : Scope) (around : Option Span) : Expr → Except Fault Datum
  | .literal value _ => .ok value
  | .name id _ => .ok (s.lookup id)
  | .member base id site => do
      let d ← eval s (some site.span) base
      match d.member? id with
      | some value => return value
      | none => missing d site
  | .item base key site => do
      let d ← eval s (some site.span) base
      let k ← eval s (some site.span) key
      match d.item? k with
      | some value => return value
      | none => missing d site
  | .call function args site => do
      let values ← evalAll s (some site.span) args
      callFunction s function values site
  | .invoke callee args site => do
      -- a fault in a part comes before the fault of the call
      let _ ← eval s (some site.span) callee
      let _ ← evalAll s (some site.span) args
      throw .invalid
  | .list items _ => return .list (← evalAll s around items)
  | .table entries _ => return Datum.ofEntries (← evalPairs s around entries)
  | .negative operand _ => do
      let d ← eval s around operand
      match d.negate? with
      | some value => return value
      | none => throw .invalid
  | .not operand _ => do
      let d ← eval s around operand
      return .bool !(← truth around operand.line d)
  | .and left right site => do
      let d ← eval s (some site.span) left
      if ← truth (some site.span) left.line d then eval s (some site.span) right else return d
  | .or left right site => do
      let d ← eval s (some site.span) left
      if ← truth (some site.span) left.line d then return d else eval s (some site.span) right
  | .binary op left right site => do
      let a ← eval s (some site.span) left
      let b ← eval s (some site.span) right
      operate op a b
  | .choose condition yes no _ => do
      let d ← eval s around condition
      if ← truth around condition.line d then eval s around yes else eval s around no
  | .filter id base args site => do
      let d ← eval s (some site.span) base
      let values ← evalAll s (some site.span) args
      applyFilter id d values site
  | .test id base args site => do
      let d ← eval s (some site.span) base
      let values ← evalAll s (some site.span) args
      applyTest id d values

def evalAll (s : Scope) (around : Option Span) : List Expr → Except Fault (List Datum)
  | [] => .ok []
  | e :: rest => do
      let d ← eval s around e
      let ds ← evalAll s around rest
      return d :: ds

def evalPairs (s : Scope) (around : Option Span) :
    List (Expr × Expr) → Except Fault (List (Datum × Datum))
  | [] => .ok []
  | (k, e) :: rest => do
      let key ← eval s around k
      let d ← eval s around e
      let ds ← evalPairs s around rest
      return (key, d) :: ds

end

/-- The value of an expression that is used as a whole. -/
def value (s : Scope) (e : Expr) : Except Fault Datum :=
  e.eval s (some e.site.span)

/-- The text that an expression is printed as. -/
def print (s : Scope) (e : Expr) : Except Fault String := do
  match ← e.value s with
  | .undefined false => throw (.of e.site)
  | d => return d.shown

/-- The elements that an expression goes through. -/
def iterate (s : Scope) (e : Expr) : Except Fault (List Datum) := do
  let d ← e.value s
  match d.elements? with
  | some items => return items
  | none => throw (if d.isUndefined then .of e.site else .invalid)

end Expr

/-- What the name `loop` stands for in a turn of a loop. -/
def loopDatum (index size : Nat) : Datum :=
  .ofEntries [(.string "index", .int (index + 1)), (.string "index0", .int index),
    (.string "first", .bool (index == 0)), (.string "last", .bool (index + 1 == size)),
    (.string "length", .int size), (.string "revindex", .int (size - index : Nat)),
    (.string "revindex0", .int (size - index - 1 : Nat))]

/-- Takes the turns of a loop one after the other; `turn` gives the text of one and the names that
the next one finds. -/
def takeTurns (turn : Frame → Except Fault (String × Frame)) (target : String) (size : Nat) :
    Nat → Frame → List Datum → Except Fault String
  | _, _, [] => .ok ""
  | index, frame, item :: rest => do
      let named := (target, item) :: ("loop", loopDatum index size) :: frame
      let (shown, after) ← turn named
      let later ← takeTurns turn target size (index + 1) after rest
      return shown ++ later

namespace Stmt

mutual

/-- The text of a statement, and the names given after it. -/
def run (s : Scope) : Stmt → Except Fault (String × List Frame)
  | .text cs => .ok (String.ofList cs, s.frames)
  | .output e => do return (← e.print s, s.frames)
  | .when condition yes no => do
      let d ← condition.value s
      if ← truth (some condition.site.span) condition.line d then runAll s yes else runAll s no
  | .each target range body otherwise => do
      match ← range.iterate s with
      | [] => runAll s otherwise
      | items =>
          let shown ← takeTurns
            (fun frame => do
              let (shown, frames) ← runAll { s with frames := frame :: s.frames } body
              return (shown, frames.headD []))
            target items.length 0 [] items
          return (shown, s.frames)
  | .set target e => do
      let d ← e.eval s none
      return ("", Scope.give s.frames target d)
  | .capture target body => do
      let (shown, frames) ← runAll s body
      return ("", Scope.give frames target (.string shown))

/-- The text of statements one after the other. -/
def runAll (s : Scope) : List Stmt → Except Fault (String × List Frame)
  | [] => .ok ("", s.frames)
  | first :: rest => do
      let (shown, frames) ← run s first
      let (later, frames) ← runAll { s with frames } rest
      return (shown ++ later, frames)

end

end Stmt

/-! ## The library -/

/-- The text of a template that is read and run, or its first fault. -/
def Stmt.rendered (functions : List (String × Function)) (template : List Char) (context : Datum) :
    Except Fault String :=
  match Stmt.parse? template with
  | none => .error .invalid
  | some statements => (Stmt.runAll ⟨functions, context, [[]]⟩ statements).map (·.1)

/-- Renders a template under strict settings; others are not covered. -/
def renderStrict (settings : Settings) (name text : String) (context : Datum) :
    Except LibraryError String :=
  if settings.Strict name then
    (Stmt.rendered settings.functions text.toList context).mapError (Fault.report text.toList)
  else .error { kind := .other }

/-- What is looked up in a datum; in what is undefined, nothing is. -/
def Datum.lookUp (d : Datum) (name : String) : Except LibraryError Datum :=
  if d.isUndefined then .error { kind := .undefined }
  else .ok ((d.member? name).getD (.undefined false))

/-- A part of a library for templates. -/
def fragment : Library where
  Value := Datum
  ofParameter := Datum.ofTree
  isUndefined := Datum.isUndefined
  member := Datum.lookUp
  display := Datum.shown
  render := renderStrict

/-- Renders a template against parameters and environment variables. -/
def render (environment : String → Option String) : Engine := renderer fragment environment

end DataCatalog.Template
