import DataCatalog.Template.Syntax

/-!
# Reading templates

A part of the template language is read.  `Expr.parse?` reads an expression from the tokens of a
tag, by falling strength of its operators: look-ups and calls, filters and tests, `~`, `+`,
comparisons, `not`, `and`, `or`, and the choice `x if c else y`.  `Stmt.parse?` reads the statements
of a template from its pieces: `if`, `for` and `set`.

The other arithmetic operators, `in`, slices, named arguments, unpacking in loops, and the
statements for macros, blocks, inclusion and scopes are not covered: a template with one of them is
not read.
-/

set_option autoImplicit false

namespace DataCatalog.Template

/-- The tokens of a tag that are left, and the stretch of the one before them. -/
structure Cursor where
  last : Span
  rest : List Token
  deriving Inhabited

namespace Cursor

/-- The next lexeme. -/
def peek (c : Cursor) : Option Lexeme := c.rest.head?.map (·.lexeme)

/-- The stretch of the next token. -/
def span (c : Cursor) : Span :=
  match c.rest with
  | [] => c.last
  | token :: _ => token.span

def advance (c : Cursor) : Cursor :=
  match c.rest with
  | [] => c
  | token :: rest => ⟨token.span, rest⟩

/-- The stretch from a place to the last token read. -/
def spanFrom (c : Cursor) (start : Span) : Span := ⟨start.start, c.last.stop⟩

/-- Whether the next token is a symbol. -/
def sees (c : Cursor) (symbol : String) : Bool := c.peek == some (.symbol symbol)

/-- Whether the next token is a word. -/
def seesName (c : Cursor) (word : String) : Bool := c.peek == some (.name word)

/-- Passes a symbol that must be next. -/
def expect? (c : Cursor) (symbol : String) : Option Cursor :=
  if c.sees symbol then some c.advance else none

/-- A name that must be next. -/
def name? (c : Cursor) : Option (String × Cursor) :=
  match c.peek with
  | some (.name s) => some (s, c.advance)
  | _ => none

end Cursor

namespace Expr

/-- The levels of operators with two operands, from the weakest on. -/
inductive Level where
  | or
  | and
  | comparison
  | sum
  | concat
  deriving DecidableEq

/-- What an operator makes of two operands. -/
def operation? (level : Level) (lexeme : Lexeme) : Option (Expr → Expr → Site → Expr) :=
  match level, lexeme with
  | .or, .name "or" => some .or
  | .and, .name "and" => some .and
  | .comparison, .symbol "==" => some (.binary .equal)
  | .comparison, .symbol "!=" => some (.binary .unequal)
  | .comparison, .symbol "<" => some (.binary .less)
  | .comparison, .symbol "<=" => some (.binary .atMost)
  | .comparison, .symbol ">" => some (.binary .greater)
  | .comparison, .symbol ">=" => some (.binary .atLeast)
  | .sum, .symbol "+" => some (.binary .add)
  | .concat, .symbol "~" => some (.binary .concat)
  | _, _ => none

/-- What a name stands for as a literal. -/
def constant? (id : String) : Option Datum :=
  if id == "true" || id == "True" then some (.bool true)
  else if id == "false" || id == "False" then some (.bool false)
  else if id == "none" || id == "None" then some .none
  else none

/-- The line on which the last of some expressions begins, else a given one. -/
def lastLine (line : Nat) (args : List Expr) : Nat :=
  (args.getLast?.map Expr.line).getD line

/-- An expression and the tokens after it. -/
abbrev Step := Option (Expr × Cursor)

mutual

/-- An expression with its choices. -/
def expression (fuel : Nat) (c : Cursor) : Step :=
  match fuel with
  | 0 => none
  | fuel + 1 =>
      match level fuel .or c with
      | none => none
      | some (e, after) => choices fuel c.last e after

/-- Goes on with choices after an expression. -/
def choices (fuel : Nat) (start : Span) (e : Expr) (c : Cursor) : Step :=
  match fuel with
  | 0 => none
  | fuel + 1 =>
      if c.seesName "if" then
        match level fuel .or c.advance with
        | none => none
        | some (condition, c) =>
            if c.seesName "else" then
              match expression fuel c.advance with
              | none => none
              | some (no, c) =>
                  choices fuel c.last
                    (.choose condition e no ⟨c.spanFrom start, no.line⟩) c
            else
              -- without an `else` the other choice is an undefined value
              let no := .literal (.undefined true) c.last
              choices fuel c.last (.choose condition e no ⟨c.spanFrom start, e.line⟩) c
      else some (e, c)

/-- An expression whose operators are at least as strong as a level's. -/
def level (fuel : Nat) (l : Level) (c : Cursor) : Step :=
  match fuel with
  | 0 => none
  | fuel + 1 =>
      match operand fuel l c with
      | none => none
      | some (e, after) => operations fuel l c.span e after

/-- Goes on with the operators of a level. -/
def operations (fuel : Nat) (l : Level) (start : Span) (left : Expr) (c : Cursor) : Step :=
  match fuel with
  | 0 => none
  | fuel + 1 =>
      match c.peek.bind (operation? l) with
      | none => some (left, c)
      | some make =>
          match operand fuel l c.advance with
          | none => none
          | some (right, c) =>
              operations fuel l start (make left right ⟨c.spanFrom start, right.line⟩) c

/-- An operand of a level. -/
def operand (fuel : Nat) (l : Level) (c : Cursor) : Step :=
  match fuel with
  | 0 => none
  | fuel + 1 =>
      match l with
      | .or => level fuel .and c
      | .and => negation fuel c
      | .comparison => level fuel .sum c
      | .sum => level fuel .concat c
      | .concat => unary fuel c

/-- An operand of `and`, which may be negated. -/
def negation (fuel : Nat) (c : Cursor) : Step :=
  match fuel with
  | 0 => none
  | fuel + 1 =>
      if c.seesName "not" then
        match negation fuel c.advance with
        | none => none
        | some (e, after) => some (.not e ⟨after.spanFrom c.span, e.line⟩, after)
      else level fuel .comparison c

/-- An operand with its look-ups, calls, filters and tests. -/
def unary (fuel : Nat) (c : Cursor) : Step :=
  match fuel with
  | 0 => none
  | fuel + 1 =>
      match signed fuel c with
      | none => none
      | some (e, after) =>
          match lookups fuel c.span e after with
          | none => none
          | some (e, after) => filters fuel e after

/-- An operand under minus signs. -/
def signed (fuel : Nat) (c : Cursor) : Step :=
  match fuel with
  | 0 => none
  | fuel + 1 =>
      if c.sees "-" then
        match signed fuel c.advance with
        | none => none
        | some (e, after) => some (.negative e ⟨after.spanFrom c.span, e.line⟩, after)
      else primary fuel c

/-- Goes on with look-ups and calls; `start` is where the last of them began. -/
def lookups (fuel : Nat) (start : Span) (e : Expr) (c : Cursor) : Step :=
  match fuel with
  | 0 => none
  | fuel + 1 =>
      if c.sees "." then
        let after := c.advance.advance
        match c.advance.peek with
        | some (.name id) =>
            lookups fuel c.span (.member e id ⟨after.spanFrom start, e.line⟩) after
        | some (.int i) =>
            let key := .literal (.int i) after.last
            lookups fuel c.span (.item e key ⟨after.spanFrom start, key.line⟩) after
        | _ => none
      else if c.sees "[" then
        match expression fuel c.advance with
        | none => none
        | some (key, after) =>
            match after.expect? "]" with
            | none => none
            | some after =>
                lookups fuel c.span (.item e key ⟨after.spanFrom start, key.line⟩) after
      else if c.sees "(" then
        match elements fuel ")" true c.advance with
        | none => none
        | some (args, after) =>
            let site : Site := ⟨after.spanFrom start, lastLine e.line args⟩
            match e with
            | .name id _ => lookups fuel c.span (.call id args site) after
            | _ => lookups fuel c.span (.invoke e args site) after
      else some (e, c)

/-- Goes on with filters and tests. -/
def filters (fuel : Nat) (e : Expr) (c : Cursor) : Step :=
  match fuel with
  | 0 => none
  | fuel + 1 =>
      if c.sees "|" then
        match c.advance.name? with
        | none => none
        | some (id, after) =>
            match arguments fuel after with
            | none => none
            | some (args, after) =>
                let site : Site := ⟨after.spanFrom c.advance.span, lastLine e.line args⟩
                filters fuel (.filter id e args site) after
      else if c.seesName "is" then
        let negated := c.advance.seesName "not"
        let start := if negated then c.advance.advance else c.advance
        match start.name? with
        | none => none
        | some (id, after) =>
            match arguments fuel after with
            | none => none
            | some (args, after) =>
                let site : Site := ⟨after.spanFrom start.span, lastLine e.line args⟩
                let tested := .test id e args site
                filters fuel (if negated then .not tested site else tested) after
      else some (e, c)

/-- The arguments of a filter or test, in brackets if there are any. -/
def arguments (fuel : Nat) (c : Cursor) : Option (List Expr × Cursor) :=
  match fuel with
  | 0 => none
  | fuel + 1 => if c.sees "(" then elements fuel ")" true c.advance else some ([], c)

/-- A name, a literal or an expression in brackets. -/
def primary (fuel : Nat) (c : Cursor) : Step :=
  match fuel with
  | 0 => none
  | fuel + 1 =>
      let after := c.advance
      match c.peek with
      | some (.name id) =>
          match constant? id with
          | some value => some (.literal value c.span, after)
          | none => some (.name id c.span, after)
      | some (.string s) => some (.literal (.string s) c.span, after)
      | some (.int i) => some (.literal (.int i) c.span, after)
      | some (.float x) => some (.literal (.float x) c.span, after)
      | some (.symbol "(") =>
          match expression fuel after with
          | none => none
          | some (e, after) => (after.expect? ")").map (e, ·)
      | some (.symbol "[") =>
          match elements fuel "]" true after with
          | none => none
          | some (items, after) =>
              some (.list items ⟨after.spanFrom c.span, lastLine c.span.start.line items⟩, after)
      | some (.symbol "\x7b") =>
          match pairs fuel true after with
          | none => none
          | some (entries, after) =>
              let line := lastLine c.span.start.line (entries.map Prod.snd)
              some (.table entries ⟨after.spanFrom c.span, line⟩, after)
      | _ => none

/-- Expressions with commas between them up to a closing bracket; a comma may come last. -/
def elements (fuel : Nat) (close : String) (first : Bool) (c : Cursor) :
    Option (List Expr × Cursor) :=
  match fuel with
  | 0 => none
  | fuel + 1 =>
      if c.sees close then some ([], c.advance)
      else
        match if first then some c else c.expect? "," with
        | none => none
        | some c =>
            if c.sees close then some ([], c.advance)
            else
              match expression fuel c with
              | none => none
              | some (e, c) =>
                  match elements fuel close false c with
                  | none => none
                  | some (es, c) => some (e :: es, c)

/-- Keys and values with commas between them up to a closing brace. -/
def pairs (fuel : Nat) (first : Bool) (c : Cursor) : Option (List (Expr × Expr) × Cursor) :=
  match fuel with
  | 0 => none
  | fuel + 1 =>
      if c.sees "\x7d" then some ([], c.advance)
      else
        match if first then some c else c.expect? "," with
        | none => none
        | some c =>
            if c.sees "\x7d" then some ([], c.advance)
            else
              match expression fuel c with
              | none => none
              | some (key, c) =>
                  match (c.expect? ":").bind (expression fuel) with
                  | none => none
                  | some (value, c) =>
                      match pairs fuel false c with
                      | none => none
                      | some (entries, c) => some ((key, value) :: entries, c)

end

/-- How many steps the reading of tokens may take. -/
def fuelFor (c : Cursor) : Nat := 16 * (c.rest.length + 1)

/-- The expression of all the tokens. -/
def parse? (c : Cursor) : Option Expr :=
  match expression (fuelFor c) c with
  | some (e, after) => if after.rest.isEmpty then some e else none
  | none => none

/-- An expression without choices of its own, of all the tokens. -/
def parsePlain? (c : Cursor) : Option Expr :=
  match level (fuelFor c) .or c with
  | some (e, after) => if after.rest.isEmpty then some e else none
  | none => none

end Expr

namespace Stmt

/-- Statements up to a closing one, which is left to the statement that they belong to. -/
structure Body where
  statements : List Stmt
  /-- The word of the closing statement and the tokens after it; none at the end of the template. -/
  stop : Option (String × Cursor)
  rest : List Piece

/-- A body with a statement before it. -/
def Body.after (s : Stmt) (b : Body) : Body := { b with statements := s :: b.statements }

/-- The names that have a meaning of their own. -/
def isReserved (id : String) : Bool :=
  (Expr.constant? id).isSome || id == "loop" || id == "self"

/-- A name that can be given a value. -/
def target? (c : Cursor) : Option (String × Cursor) :=
  c.name?.filter fun (id, _) => !isReserved id

mutual

/-- The statements up to one of the closing words. -/
def body? (fuel : Nat) (closing : List String) (pieces : List Piece) : Option Body :=
  match fuel with
  | 0 => none
  | fuel + 1 =>
      match pieces with
      | [] => some ⟨[], none, []⟩
      | .text cs :: rest => (body? fuel closing rest).map (.after (.text cs))
      | .output opening tokens :: rest =>
          match Expr.parse? ⟨opening, tokens⟩ with
          | none => none
          | some e => (body? fuel closing rest).map (.after (.output e))
      | .statement opening tokens :: rest =>
          match (⟨opening, tokens⟩ : Cursor).name? with
          | none => none
          | some (word, c) =>
              if closing.contains word then some ⟨[], some (word, c), rest⟩
              else
                match statement? fuel word c rest with
                | none => none
                | some (s, rest) => (body? fuel closing rest).map (.after s)

/-- A statement by its first word, and the pieces after it. -/
def statement? (fuel : Nat) (word : String) (c : Cursor) (pieces : List Piece) :
    Option (Stmt × List Piece) :=
  match fuel with
  | 0 => none
  | fuel + 1 =>
      if word == "if" then when? fuel c pieces
      else if word == "for" then
        match target? c with
        | none => none
        | some (id, c) =>
            if c.seesName "in" then
              match Expr.parsePlain? c.advance, closed? fuel ["else", "endfor"] pieces with
              | some range, some (statements, "else", rest) =>
                  match closed? fuel ["endfor"] rest with
                  | some (otherwise, _, rest) => some (.each id range statements otherwise, rest)
                  | none => none
              | some range, some (statements, _, rest) => some (.each id range statements [], rest)
              | _, _ => none
            else none
      else if word == "set" then
        match target? c with
        | none => none
        | some (id, c) =>
            if c.sees "=" then (Expr.parse? c.advance).map fun e => (.set id e, pieces)
            else if c.rest.isEmpty then
              (closed? fuel ["endset"] pieces).map fun (statements, _, rest) =>
                (.capture id statements, rest)
            else none
      else none

/-- A condition with its branches. -/
def when? (fuel : Nat) (c : Cursor) (pieces : List Piece) : Option (Stmt × List Piece) :=
  match fuel with
  | 0 => none
  | fuel + 1 =>
      match Expr.parse? c, body? fuel ["elif", "else", "endif"] pieces with
      | some condition, some ⟨yes, some (word, c), rest⟩ =>
          if word == "elif" then
            (when? fuel c rest).map fun (no, rest) => (.when condition yes [no], rest)
          else if c.rest.isEmpty then
            if word == "else" then
              (closed? fuel ["endif"] rest).map fun (no, _, rest) =>
                (.when condition yes no, rest)
            else some (.when condition yes [], rest)
          else none
      | _, _ => none

/-- The statements up to a closing word with nothing after it, the word, and what follows. -/
def closed? (fuel : Nat) (closing : List String) (pieces : List Piece) :
    Option (List Stmt × String × List Piece) :=
  match fuel with
  | 0 => none
  | fuel + 1 =>
      match body? fuel closing pieces with
      | some ⟨statements, some (word, c), rest⟩ =>
          if c.rest.isEmpty then some (statements, word, rest) else none
      | _ => none

end

/-- The statements of a template. -/
def parse? (template : List Char) : Option (List Stmt) :=
  match Piece.scan template with
  | none => none
  | some pieces =>
      (body? (4 * (pieces.length + 1)) [] pieces).map (·.statements)

end Stmt

end DataCatalog.Template
