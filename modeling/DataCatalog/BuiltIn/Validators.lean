import DataCatalog.Arguments
import DataCatalog.Host.Effects

/-!
# Validators of sources

The validators look at what a source is and never read it: at the payload of a source in memory, and
at whether a file is there and has content.
-/

set_option autoImplicit false

namespace DataCatalog.Validator

variable {m : Type → Type} [Monad m] [Memory m]

/-- The complaint of a validator about a kind of source that it does not judge. -/
def wrongKind (validator judged : String) (source : Source) : ExceptT CallError m Verdict := do
  let describe ← (Memory.descriptions : m (Source → String))
  throw (.failed
    (validator ++ " only applies to " ++ judged ++ " sources, not " ++ describe source))

/-- Passes for a payload that is neither null nor empty, and for a file with content. -/
def notEmpty [Files m] (source : Source) (args : Arguments) : ExceptT CallError m Verdict := do
  match args.read ArgumentReader.finish with
  | .error e => throw e
  | .ok _ =>
      match source.kind with
      | .file path _ =>
          return .check (← (Files.hasContent path : m Bool)) (path ++ " is missing or empty")
      | .memory =>
          let payload ← (Memory.payload source.identity : m Value)
          return .check (!payload.isEmpty) (payload.kind ++ " payload is empty")
      | .foreign _ _ => wrongKind "not_empty" "in-memory" source

/-- The bound that a recipe gives under a name. -/
def bound (name : String) : ArgumentReader Nat := do
  let n ← ArgumentReader.required .natural name
  ArgumentReader.finish
  return n

/-- A judgement of the length of a payload. -/
def lengthWithin (validator boundName : String) (judge : (length bound : Nat) → Verdict)
    (source : Source) (args : Arguments) : ExceptT CallError m Verdict := do
  match args.read (bound boundName) with
  | .error e => throw e
  | .ok n =>
      match source.kind with
      | .memory =>
          let payload ← (Memory.payload source.identity : m Value)
          match payload.size? with
          | some length => return judge length n
          | none => return .fail ("a " ++ payload.kind ++ " payload has no length")
      | _ => wrongKind validator "in-memory" source

/-- Passes for a payload of at least a length. -/
def minLength (source : Source) (args : Arguments) : ExceptT CallError m Verdict :=
  lengthWithin "min_length" "min"
    (fun length least => .check (least ≤ length)
      ("length " ++ toString length ++ " is below " ++ toString least))
    source args

/-- Passes for a payload of at most a length. -/
def maxLength (source : Source) (args : Arguments) : ExceptT CallError m Verdict :=
  lengthWithin "max_length" "max"
    (fun length greatest => .check (length ≤ greatest)
      ("length " ++ toString length ++ " is above " ++ toString greatest))
    source args

/-- Passes for a file that is there. -/
def fileExists [Files m] (source : Source) (args : Arguments) : ExceptT CallError m Verdict := do
  match args.read ArgumentReader.finish with
  | .error e => throw e
  | .ok _ =>
      match source.kind with
      | .file path _ =>
          return .check (← (Files.isPresent path : m Bool)) (path ++ " does not exist")
      | _ => wrongKind "file_exists" "file" source

end DataCatalog.Validator
