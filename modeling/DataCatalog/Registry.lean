import DataCatalog.Arguments
import DataCatalog.Dict
import DataCatalog.Reference

/-!
# Registries of callables

A registry holds the callables that recipes may name: factories, which build values from arguments,
and validators, which judge a source.  They run in a monad `m` of the host's choice, so that a
callable may do anything the host allows.  Registering under a reference again replaces the callable.

`resolve` finds a callable; where it finds none, it says whether the reference has the wrong form,
its module is unknown, or only its attribute is.
-/

set_option autoImplicit false

namespace DataCatalog

/-- Something that a recipe may call. -/
inductive Callable (m : Type → Type) where
  /-- Builds a value from arguments. -/
  | factory (run : Arguments → ExceptT CallError m Value)
  /-- Judges a source, given further arguments. -/
  | validator (run : Source → Arguments → ExceptT CallError m Verdict)

/-- The two kinds of callables. -/
inductive CallableKind where
  | factory
  | validator
  deriving DecidableEq, Repr

def CallableKind.name : CallableKind → String
  | .factory => "factory"
  | .validator => "validator"

def Callable.kind {m : Type → Type} : Callable m → CallableKind
  | .factory _ => .factory
  | .validator _ => .validator

/-- The debugging text of a callable. -/
def Callable.debugText {m : Type → Type} (c : Callable m) : String :=
  "Callable::" ++ c.kind.name

/-- Why a reference gives no callable. -/
inductive ReferenceError where
  /-- The reference has the wrong form; the flag says whether it has more than one colon. -/
  | malformed (reference : String) (manyColons : Bool)
  | unknownModule (reference owner : String)
  /-- The module is known but has no such attribute; `none` stands for no module. -/
  | unknownAttribute (reference : String) (owner : Option String)
      (member : String)
  | kindMismatch (reference : String) (expected found : CallableKind)
  deriving DecidableEq, Repr

/-- The callables that recipes may name, by reference. -/
structure Registry (m : Type → Type) where
  callables : Dict (Callable m)

namespace Registry

variable {m : Type → Type}

/-- The registry without callables. -/
def empty : Registry m := ⟨Dict.empty⟩

instance : Inhabited (Registry m) := ⟨empty⟩

/-- Registers a callable, in place of the one registered under the reference before. -/
def register (r : Registry m) (reference : String) (callable : Callable m) : Registry m :=
  ⟨r.callables.insert reference callable⟩

/-- Registers callables one after the other. -/
def registerAll (r : Registry m) (added : List (String × Callable m)) : Registry m :=
  added.foldl (fun acc entry => acc.register entry.1 entry.2) r

/-- Every registered reference, in order. -/
def references (r : Registry m) : List String := r.callables.keys

def contains (r : Registry m) (reference : String) : Bool := r.callables.contains reference

/-- Whether some registered reference lies in a module. -/
def knowsModule (r : Registry m) (owner : String) : Bool :=
  r.references.any (Reference.liesIn owner)

/-- Finds the callable of a reference. -/
def resolve (r : Registry m) (reference : String) : Except ReferenceError (Callable m) :=
  if Reference.isReference reference then
    match r.callables.get? reference with
    | some callable => .ok callable
    | none =>
        let owner := Reference.moduleOf reference
        if owner = "" then
          .error (.unknownAttribute reference none (Reference.attributeOf reference))
        else if r.knowsModule owner then
          .error (.unknownAttribute reference (some owner) (Reference.attributeOf reference))
        else .error (.unknownModule reference owner)
  else .error (.malformed reference (1 < Text.occurrences ':' reference))

/-- Finds a factory. -/
def resolveFactory (r : Registry m) (reference : String) :
    Except ReferenceError (Arguments → ExceptT CallError m Value) :=
  match r.resolve reference with
  | .ok (.factory run) => .ok run
  | .ok other => .error (.kindMismatch reference .factory other.kind)
  | .error e => .error e

/-- Finds a validator. -/
def resolveValidator (r : Registry m) (reference : String) :
    Except ReferenceError (Source → Arguments → ExceptT CallError m Verdict) :=
  match r.resolve reference with
  | .ok (.validator run) => .ok run
  | .ok other => .error (.kindMismatch reference .validator other.kind)
  | .error e => .error e

end Registry

end DataCatalog
