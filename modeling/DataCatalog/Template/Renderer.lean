import DataCatalog.Error
import DataCatalog.Text.Blank

/-!
# The renderer of templates

Templates are rendered by a library.  `Library` is what the renderer needs of one, so that the
renderer can be told apart from the library that does its work: `settings` is how it sets a library
up, and `templateError` what it makes of a library's errors.
-/

set_option autoImplicit false

namespace DataCatalog.Template

/-! ## Libraries -/

/-- What may be done with something undefined. -/
inductive UndefinedBehavior where
  /-- It is printed as nothing, but must not be looked into. -/
  | lenient
  /-- It is printed as nothing, and what is looked up in it is undefined again. -/
  | chainable
  /-- It counts as false, and nothing else may be done with it. -/
  | semiStrict
  /-- It must not be printed, looked into, gone through or tested. -/
  | strict
  deriving DecidableEq, Repr

/-- How values are escaped when they are printed. -/
inductive AutoEscape where
  | none
  | html
  | json
  deriving DecidableEq, Repr

/-- What a library's error is about. -/
inductive ErrorKind where
  /-- Something undefined is used. -/
  | undefined
  | other
  deriving DecidableEq, Repr

/-- The error of a library. -/
structure LibraryError where
  kind : ErrorKind
  detail : Option String := none
  /-- The part of the template that is to blame: how many bytes come before it, and how many up to
  its end. -/
  range : Option (Nat × Nat) := none
  line : Option Nat := none
  deriving DecidableEq, Repr

/-- A function of a text and another one that need not be given. -/
abbrev Function := String → Option String → Except LibraryError String

/-- How a library is set up. -/
structure Settings where
  undefinedBehavior : UndefinedBehavior
  /-- How values are escaped in the template of a name. -/
  autoEscape : String → AutoEscape
  /-- Whether the line feed at the end of a template is printed. -/
  keepTrailingNewline : Bool
  /-- The functions that templates may call, beside those of the library itself. -/
  functions : List (String × Function)

/-- Settings under which nothing undefined is used in a template of a name, and everything else
comes out as it is. -/
structure Settings.Strict (s : Settings) (name : String) : Prop where
  undefinedBehavior : s.undefinedBehavior = .strict
  autoEscape : s.autoEscape name = .none
  keepTrailingNewline : s.keepTrailingNewline = true

instance (s : Settings) (name : String) : Decidable (s.Strict name) :=
  decidable_of_iff
    (s.undefinedBehavior = .strict ∧ s.autoEscape name = .none ∧ s.keepTrailingNewline = true)
    ⟨fun ⟨h, h', h''⟩ => ⟨h, h', h''⟩, fun ⟨h, h', h''⟩ => ⟨h, h', h''⟩⟩

/-- A library for templates. -/
structure Library where
  /-- What templates compute with. -/
  Value : Type
  /-- A parameter, or all of them, as a value. -/
  ofParameter : Tree → Value
  isUndefined : Value → Bool
  /-- What a value has under a name. -/
  member : Value → String → Except LibraryError Value
  /-- The text of a value. -/
  display : Value → String
  /-- Renders a template of a name against the value that holds all parameters. -/
  render : Settings → (name text : String) → Value → Except LibraryError String

/-! ## Parts of a template -/

/-- The characters after a number of bytes, if a character ends there. -/
def dropBytes? : Nat → List Char → Option (List Char)
  | 0, cs => some cs
  | _ + 1, [] => none
  | n + 1, c :: rest => if c.utf8Size ≤ n + 1 then dropBytes? (n + 1 - c.utf8Size) rest else none

/-- The characters in a part of a template, if they can be told apart from the others. -/
def excerpt? (template : List Char) (range : Nat × Nat) : Option (List Char) :=
  if range.1 ≤ range.2 then do
    let fromStart ← dropBytes? range.1 template
    let fromStop ← dropBytes? range.2 template
    return fromStart.take (fromStart.length - fromStop.length)
  else none

/-- Drops the braces at the beginning of a text. -/
def dropBraces (brace : Char) : List Char → List Char
  | c :: d :: rest => if c = brace && d = brace then dropBraces brace rest else c :: d :: rest
  | cs => cs

/-- A part of a template without the blanks and marks around it. -/
def withoutMarks (cs : List Char) : List Char :=
  let unmarked := dropBraces '{' (Text.trimChars Text.isBlank cs)
  Text.trimChars Text.isBlank (dropBraces '}' unmarked.reverse).reverse

/-! ## The renderer -/

/-- What stands for a part of a template that cannot be shown. -/
def unknown : String := "<unknown>"

/-- The text that stands in messages for the part of a template that is to blame. -/
def placeholder (template : List Char) (e : LibraryError) : String :=
  match (e.range.bind (excerpt? template)).map withoutMarks with
  | some (c :: shown) => String.ofList (c :: shown)
  | _ => e.detail.getD unknown

/-- What the renderer makes of a library's error. -/
def templateError (file template : String) (e : LibraryError) : TemplateError :=
  match e.kind with
  | .undefined => .unresolved file (placeholder template.toList e) (e.line.getD 0)
  | .other => .malformed file

/-- The value of an environment variable, or else a default. -/
def readVariable (environment : String → Option String) : Function := fun name default =>
  match environment name, default with
  | some value, _ => .ok value
  | none, some value => .ok value
  | none, none =>
      .error {
        kind := .undefined
        detail := some ("environment variable '" ++ name ++ "' is not set") }

/-- How the renderer sets up a library: an undefined placeholder is an error, nothing is escaped and
nothing is left out. -/
def settings (environment : String → Option String) : Settings where
  undefinedBehavior := .strict
  autoEscape _ := .none
  keepTrailingNewline := true
  functions := [("env", readVariable environment)]

theorem strict_settings (environment : String → Option String) (name : String) :
    (settings environment).Strict name :=
  ⟨rfl, rfl, rfl⟩

/-- Something that renders templates: it takes the name of a template, its text, and parameters. -/
abbrev Engine := String → String → List (Tree × Tree) → Except TemplateError String

/-- Renders a template against parameters by means of a library. -/
def renderer (lib : Library) (environment : String → Option String) : Engine :=
  fun file text parameters =>
    (lib.render (settings environment) file text
      (lib.ofParameter (.map parameters))).mapError (templateError file text)

end DataCatalog.Template
