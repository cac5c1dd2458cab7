import DataCatalog.Dict
import DataCatalog.Number.Layout
import DataCatalog.Number.Numeral
import DataCatalog.Source
import DataCatalog.Text.Blank
import DataCatalog.Text.Quoted

/-!
# Values

Values are what recipes build and what sources hold: plain data, opaque objects and sources.  The
keys of a map are texts in increasing order.  Plain data compares by content, numbers as numbers;
built things compare by identity.

Main statements: `lookup_append` says that a dotted path of two halves is followed one half after
the other.
-/

set_option autoImplicit false

namespace DataCatalog

/-- Plain data, opaque objects and data sources. -/
inductive Value where
  | null
  | bool (b : Bool)
  | int (i : Int64)
  | float (x : Binary64)
  | string (s : String)
  | list (items : List Value)
  | map (entries : List (String × Value))
  | object (o : Object)
  | source (s : Source)
  deriving Inhabited

namespace Value

/-- The word for a value's kind in messages. -/
def kind : Value → String
  | .null => "null"
  | .bool _ => "bool"
  | .int _ => "int"
  | .float _ => "float"
  | .string _ => "string"
  | .list _ => "list"
  | .map _ => "map"
  | .object _ => "object"
  | .source _ => "data source"

def isNull : Value → Bool
  | .null => true
  | _ => false

def asBool? : Value → Option Bool
  | .bool b => some b
  | _ => none

def asInt? : Value → Option Int64
  | .int i => some i
  | _ => none

/-- A float, or an integer rounded to one. -/
def asFloat? : Value → Option Binary64
  | .float x => some x
  | .int i => some (Binary64.ofInt i.toInt)
  | _ => none

def asString? : Value → Option String
  | .string s => some s
  | _ => none

def asList? : Value → Option (List Value)
  | .list items => some items
  | _ => none

def asMap? : Value → Option (Entries Value)
  | .map entries => some entries
  | _ => none

def asSource? : Value → Option Source
  | .source s => some s
  | _ => none

def asObject? : Value → Option Object
  | .object o => some o
  | _ => none

/-- The number of elements of a list, entries of a map or characters of a string. -/
def size? : Value → Option Nat
  | .string s => some s.toList.length
  | .list items => some items.length
  | .map entries => some entries.length
  | _ => none

/-- Null, or something that has elements but holds none. -/
def isEmpty (v : Value) : Bool :=
  v.isNull || v.size? == some 0

/-- One step of a dotted path: an entry of a map or an element of a list. -/
def child? (v : Value) (part : List Char) : Option Value :=
  match v with
  | .map entries => Entries.get? (String.ofList part) entries
  | .list items =>
      match Numeral.index? part with
      | some i => items[i]?
      | none => none
  | _ => none

/-- Follows the parts of a path one by one. -/
def follow (v : Value) : List (List Char) → Option Value
  | [] => some v
  | part :: rest =>
      match v.child? part with
      | some w => w.follow rest
      | none => none

/-- Follows a dotted path such as `a.b.0` through maps and lists. -/
def lookup (v : Value) (dotted : String) : Option Value :=
  v.follow (Text.splitChars '.' dotted.toList)

theorem follow_append (v : Value) (first second : List (List Char)) :
    v.follow (first ++ second) = (v.follow first).bind (·.follow second) := by
  induction first generalizing v with
  | nil => rfl
  | cons part rest ih =>
      simp only [List.cons_append, follow]
      cases v.child? part with
      | none => rfl
      | some w => exact ih w

theorem lookup_append (v : Value) (p q : String) :
    v.lookup (p ++ "." ++ q) = (v.lookup p).bind (·.lookup q) := by
  unfold lookup
  rw [String.toList_append, String.toList_append]
  have : p.toList ++ ".".toList ++ q.toList = p.toList ++ '.' :: q.toList := by simp
  rw [this, Text.splitChars_append, follow_append]

mutual

/-- Equality of content for plain data, of identity for built things. -/
def same : Value → Value → Bool
  | .null, .null => true
  | .bool a, .bool b => a == b
  | .int a, .int b => a == b
  | .float a, .float b => a.same b
  | .string a, .string b => a == b
  | .list a, .list b => sameItems a b
  | .map a, .map b => sameEntries a b
  | .object a, .object b => a.identity == b.identity
  | .source a, .source b => a.identity == b.identity
  | _, _ => false

def sameItems : List Value → List Value → Bool
  | [], [] => true
  | a :: as, b :: bs => same a b && sameItems as bs
  | _, _ => false

def sameEntries : List (String × Value) → List (String × Value) → Bool
  | [], [] => true
  | (k, a) :: as, (l, b) :: bs => k == l && same a b && sameEntries as bs
  | _, _ => false

end

mutual

/-- The debugging text of a value; a source shows its description. -/
def debugText (describe : Source → String) : Value → String
  | .null => "Null"
  | .bool b => if b then "true" else "false"
  | .int i => toString i.toInt
  | .float x => x.text .debug
  | .string s => Text.quoted s
  | .list items => "[" ++ ", ".intercalate (debugItems describe items) ++ "]"
  | .map entries => "\x7b" ++ ", ".intercalate (debugEntries describe entries) ++ "\x7d"
  | .object o => "Object<" ++ o.typeName ++ ">"
  | .source s => "Source<" ++ describe s ++ ">"

def debugItems (describe : Source → String) : List Value → List String
  | [] => []
  | v :: rest => debugText describe v :: debugItems describe rest

def debugEntries (describe : Source → String) : List (String × Value) → List String
  | [] => []
  | (k, v) :: rest => (Text.quoted k ++ ": " ++ debugText describe v) :: debugEntries describe rest

end

end Value

end DataCatalog
