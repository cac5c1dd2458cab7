/-!
# Outcomes of calls

A factory builds a value or fails; a validator judges a source or fails.  `CallError` lists the ways
to fail, `Verdict` the two judgements.
-/

set_option autoImplicit false

namespace DataCatalog

/-- Why a call did not give a result. -/
inductive CallError where
  /-- A required argument is neither given nor initialised. -/
  | missingArgument (name : String)
  /-- Arguments that the callable did not ask for. -/
  | unexpectedArguments (names : List String)
  /-- An argument of the wrong kind. -/
  | invalidArgument (name expected found : String)
  /-- The callable's own complaint. -/
  | failed (message : String)
  /-- A complaint of something that the callable relies on, such as a file. -/
  | other (message : String)
  deriving DecidableEq, Repr

/-- The text of a failure. -/
def CallError.message : CallError → String
  | .missingArgument name => "missing required argument '" ++ name ++ "'"
  | .unexpectedArguments names => "unexpected argument(s): " ++ ", ".intercalate names
  | .invalidArgument name expected found =>
      "argument '" ++ name ++ "' must be " ++ expected ++ ", found " ++ found
  | .failed message => message
  | .other message => message

/-- The judgement of a validator. -/
inductive Verdict where
  | pass
  | fail (reason : String)
  deriving DecidableEq, Repr

namespace Verdict

def passed : Verdict → Bool
  | .pass => true
  | .fail _ => false

/-- Passes when the condition holds and gives the reason otherwise. -/
def check (condition : Bool) (reason : String) : Verdict :=
  if condition then .pass else .fail reason

/-- The judgement of a validator that only says yes or no. -/
def ofBool (passed : Bool) : Verdict :=
  check passed "validator returned false"

end Verdict

end DataCatalog
