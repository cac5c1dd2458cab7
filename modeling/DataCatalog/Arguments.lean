import DataCatalog.Call
import DataCatalog.Value

/-!
# Arguments of a call

A callable asks for its arguments by name and shape.  An explicit argument, given by the recipe, is
taken away when it is asked for; an initialised one, offered to every call, stays.  When the
callable has asked for all it knows, `finish` refuses explicit arguments that are left.

`Shape` lists what an argument can be asked to be, `Shape.Carrier` the type that the callable then
gets, and `Shape.read` converts, giving the whole value back when it does not fit.
-/

set_option autoImplicit false

namespace DataCatalog

/-- What an argument is asked to be. -/
inductive Shape where
  | any
  | string
  | bool
  | integer
  | natural
  | number
  | map
  | list (item : Shape)
  deriving DecidableEq, Repr

namespace Shape

/-- The type of an argument of a shape. -/
@[reducible] def Carrier : Shape → Type
  | .any => Value
  | .string => String
  | .bool => Bool
  | .integer => Int64
  | .natural => Nat
  | .number => Binary64
  | .map => Entries Value
  | .list item => List item.Carrier

/-- The words for a shape in messages. -/
def expected : Shape → String
  | .any => "any value"
  | .string => "a string"
  | .bool => "a bool"
  | .integer => "an integer"
  | .natural => "a non-negative integer"
  | .number => "a number"
  | .map => "a mapping"
  | .list _ => "a list"

/-- Converts every element, or gives up. -/
def readItems {α : Type} (read : Value → Except Value α) : List Value → Option (List α)
  | [] => some []
  | v :: rest =>
      match read v with
      | .ok a => (readItems read rest).map (a :: ·)
      | .error _ => none

/-- Converts a value to a shape; a value that does not fit comes back whole. -/
def read : (s : Shape) → Value → Except Value s.Carrier
  | .any, v => .ok v
  | .string, .string t => .ok t
  | .bool, .bool b => .ok b
  | .integer, .int i => .ok i
  | .natural, .int i => if 0 ≤ i.toInt then .ok i.toInt.toNat else .error (.int i)
  | .number, .float x => .ok x
  | .number, .int i => .ok (Binary64.ofInt i.toInt)
  | .map, .map entries => .ok entries
  | .list item, .list items =>
      match readItems item.read items with
      | some converted => .ok converted
      | none => .error (.list items)
  | _, v => .error v

end Shape

/-- Explicit arguments, and the initialised values that stand in for names not given. -/
structure Arguments where
  explicit : Dict Value
  initialised : Dict Value
  deriving Inhabited

/-- A callable's way through its arguments; a failure keeps what was taken. -/
abbrev ArgumentReader (α : Type) := ExceptT CallError (StateM Arguments) α

namespace Arguments

/-- Whether asking for a name finds a value. -/
def contains (args : Arguments) (name : String) : Bool :=
  args.explicit.contains name || args.initialised.contains name

/-- The number of explicit arguments not taken yet. -/
def size (args : Arguments) : Nat := args.explicit.size

def isEmpty (args : Arguments) : Bool := args.explicit.isEmpty

/-- Adds or replaces an explicit argument. -/
def give (args : Arguments) (name : String) (value : Value) : Arguments :=
  { args with explicit := args.explicit.insert name value }

/-- Takes an explicit argument away, or copies the initialised value of that name. -/
def take (args : Arguments) (name : String) : Option Value × Arguments :=
  match args.explicit.get? name with
  | some value => (some value, { args with explicit := args.explicit.erase name })
  | none => (args.initialised.get? name, args)

/-- Converts the value of an argument to the shape asked for. -/
def convert (shape : Shape) (name : String) (value : Value) : Except CallError shape.Carrier :=
  match shape.read value with
  | .ok converted => .ok converted
  | .error whole => .error (.invalidArgument name shape.expected whole.kind)

/-- What a reader makes of the arguments. -/
def read {α : Type} (args : Arguments) (reader : ArgumentReader α) : Except CallError α :=
  (reader.run.run args).1

end Arguments

namespace ArgumentReader

/-- An argument that must be there. -/
def required (shape : Shape) (name : String) : ArgumentReader shape.Carrier :=
  ExceptT.mk fun args =>
    match args.take name with
    | (none, left) => (.error (.missingArgument name), left)
    | (some value, left) => (Arguments.convert shape name value, left)

/-- An argument that may be missing; null counts as missing. -/
def optional (shape : Shape) (name : String) : ArgumentReader (Option shape.Carrier) :=
  ExceptT.mk fun args =>
    match args.take name with
    | (none, left) => (.ok none, left)
    | (some .null, left) => (.ok none, left)
    | (some value, left) => ((Arguments.convert shape name value).map some, left)

/-- An argument with a default. -/
def optionalOr (shape : Shape) (name : String) (default : shape.Carrier) :
    ArgumentReader shape.Carrier := do
  return (← optional shape name).getD default

/-- Takes every explicit argument that is left. -/
def remaining : ArgumentReader (Entries Value) :=
  ExceptT.mk fun args => (.ok args.explicit.entries, { args with explicit := Dict.empty })

/-- Refuses explicit arguments that are left. -/
def finish : ArgumentReader Unit :=
  ExceptT.mk fun args =>
    if args.explicit.isEmpty then (.ok (), args)
    else (.error (.unexpectedArguments args.explicit.keys), args)

end ArgumentReader

end DataCatalog
