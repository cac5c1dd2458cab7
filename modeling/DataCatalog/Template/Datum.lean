import DataCatalog.Document.Tree
import DataCatalog.Text.Blank
import DataCatalog.Text.Quoted

/-!
# What templates compute with

A datum is what a template's expressions stand for: the parameters, what is computed from them, and
the undefined.  Mappings are in the order of their keys, which may be any data; a datum of one kind
comes before those of a later kind.  Truth values count as numbers where numbers are wanted.

`Datum.shown` is the text that a template prints, `Datum.inner` the text inside a list or mapping.
-/

set_option autoImplicit false

namespace DataCatalog.Template

/-- The data of templates. -/
inductive Datum where
  /-- What is not there; a quiet one is printed as nothing, any other one not at all. -/
  | undefined (quiet : Bool)
  | none
  | bool (b : Bool)
  | int (i : Int)
  | float (x : Binary64)
  | string (s : String)
  | list (items : List Datum)
  | map (entries : List (Datum × Datum))
  deriving Inhabited

namespace Datum

def isUndefined : Datum → Bool
  | .undefined _ => true
  | _ => false

/-- The rank of a datum's kind. -/
def rank : Datum → Nat
  | .undefined _ => 0
  | .none => 1
  | .bool _ => 2
  | .int _ => 3
  | .float _ => 3
  | .string _ => 4
  | .list _ => 5
  | .map _ => 6

/-- A truth value or an integer as an integer. -/
def int? : Datum → Option Int
  | .bool b => some (if b then 1 else 0)
  | .int i => some i
  | _ => .none

/-- A truth value or a number as a floating-point number. -/
def float? : Datum → Option Binary64
  | .float x => some x
  | d => d.int?.map Binary64.ofInt

/-- The order of two numbers; a NaN comes after every other number. -/
def orderFloats (x y : Binary64) : Ordering :=
  if x.isNaN || y.isNaN then compare (if x.isNaN then 1 else 0) (if y.isNaN then 1 else 0)
  else x.order y

mutual

/-- The order of data. -/
def order : Datum → Datum → Ordering
  | .bool a, .bool b => compare a.toNat b.toNat
  | .int a, .int b => compare a b
  | .int a, .float y => orderFloats (Binary64.ofInt a) y
  | .float x, .int b => orderFloats x (Binary64.ofInt b)
  | .float x, .float y => orderFloats x y
  | .string a, .string b => if a < b then .lt else if a = b then .eq else .gt
  | .list a, .list b => orderItems a b
  | .map a, .map b => orderEntries a b
  | a, b => compare a.rank b.rank

def orderItems : List Datum → List Datum → Ordering
  | [], [] => .eq
  | [], _ :: _ => .lt
  | _ :: _, [] => .gt
  | a :: as, b :: bs => (order a b).then (orderItems as bs)

def orderEntries : List (Datum × Datum) → List (Datum × Datum) → Ordering
  | [], [] => .eq
  | [], _ :: _ => .lt
  | _ :: _, [] => .gt
  | (k, a) :: as, (l, b) :: bs =>
      (order k l).then ((order a b).then (orderEntries as bs))

end

/-- Puts a value under a key: it replaces the value there, or takes its place in the order. -/
def put (key value : Datum) : List (Datum × Datum) → List (Datum × Datum)
  | [] => [(key, value)]
  | (k, old) :: rest =>
      match order key k with
      | .lt => (key, value) :: (k, old) :: rest
      | .eq => (k, value) :: rest
      | .gt => (k, old) :: put key value rest

/-- A mapping of entries; the last value with a key counts. -/
def ofEntries (entries : List (Datum × Datum)) : Datum :=
  .map (entries.foldl (fun acc entry => put entry.1 entry.2 acc) [])

/-- The value under a key of a mapping's entries. -/
def find? (key : Datum) : List (Datum × Datum) → Option Datum
  | [] => .none
  | (k, value) :: rest => if order key k = .eq then some value else find? key rest

mutual

/-- A parameter as a datum; what is tagged becomes a mapping from the tag. -/
def ofTree : Tree → Datum
  | .null => .none
  | .bool b => .bool b
  | .int i => .int i
  | .float x => .float x
  | .string s => .string s
  | .seq items => .list (ofTrees items)
  | .map entries => ofEntries (ofTreeEntries entries)
  | .tagged tag value => .map [(.string tag, ofTree value)]

def ofTrees : List Tree → List Datum
  | [] => []
  | t :: rest => ofTree t :: ofTrees rest

def ofTreeEntries : List (Tree × Tree) → List (Datum × Datum)
  | [] => []
  | (k, v) :: rest => (ofTree k, ofTree v) :: ofTreeEntries rest

end

mutual

/-- Equality: numbers compare as numbers, mappings entry by entry. -/
def same : Datum → Datum → Bool
  | .undefined _, .undefined _ => true
  | .none, .none => true
  | .string a, .string b => a == b
  | .list a, .list b => sameItems a b
  | .map a, .map b => sameEntries a b
  | a, b =>
      match a.int?, b.int? with
      | some i, some j => i == j
      | _, _ =>
          match a.float?, b.float? with
          | some x, some y => x.same y
          | _, _ => false

def sameItems : List Datum → List Datum → Bool
  | [], [] => true
  | a :: as, b :: bs => same a b && sameItems as bs
  | _, _ => false

def sameEntries : List (Datum × Datum) → List (Datum × Datum) → Bool
  | [], [] => true
  | (k, a) :: as, (l, b) :: bs => same k l && same a b && sameEntries as bs
  | _, _ => false

end

mutual

/-- The text of a datum inside a list or mapping. -/
def inner : Datum → String
  | .undefined _ => "undefined"
  | .none => "None"
  | .bool b => if b then "True" else "False"
  | .int i => toString i
  | .float x => x.text .debug
  | .string s => Text.quoted s
  | .list items => "[" ++ ", ".intercalate (innerItems items) ++ "]"
  | .map entries => "\x7b" ++ ", ".intercalate (innerEntries entries) ++ "\x7d"

def innerItems : List Datum → List String
  | [] => []
  | d :: rest => inner d :: innerItems rest

def innerEntries : List (Datum × Datum) → List String
  | [] => []
  | (k, d) :: rest => (inner k ++ ": " ++ inner d) :: innerEntries rest

end

/-- The text that a template prints for a datum. -/
def shown : Datum → String
  | .undefined _ => ""
  | .float x => x.text .template
  | .string s => s
  | d => d.inner

/-- Whether a datum counts as true; what is undefined and not quiet is neither true nor false. -/
def truth? : Datum → Option Bool
  | .undefined false => .none
  | .undefined true => some false
  | .none => some false
  | .bool b => some b
  | .int i => some (i != 0)
  | .float x => some (!x.isZero)
  | .string s => some (s != "")
  | .list items => some (!items.isEmpty)
  | .map entries => some (!entries.isEmpty)

/-- The number of characters, elements or entries. -/
def size? : Datum → Option Nat
  | .string s => some s.toList.length
  | .list items => some items.length
  | .map entries => some entries.length
  | _ => .none

/-- The element at an index; a negative index counts from the end. -/
def at? (items : List Datum) (i : Int) : Option Datum :=
  let position := if i < 0 then i + items.length else i
  if position < 0 then .none else items[position.toNat]?

/-- What is under a name. -/
def member? (d : Datum) (name : String) : Option Datum :=
  match d with
  | .map entries => find? (.string name) entries
  | _ => .none

/-- What is under a key or at an index. -/
def item? (d key : Datum) : Option Datum :=
  match d, key with
  | .map entries, key => find? key entries
  | .list items, key => key.int?.bind (at? items)
  | _, _ => .none

/-- What a loop goes through: elements, keys or characters. -/
def elements? : Datum → Option (List Datum)
  | .undefined quiet => if quiet then some [] else .none
  | .none => some []
  | .string s => some (s.toList.map fun c => .string (String.singleton c))
  | .list items => some items
  | .map entries => some (entries.map Prod.fst)
  | _ => .none

/-- An integer of at most 128 bits. -/
def ofInt? (i : Int) : Option Datum :=
  if -Int.pow 2 127 ≤ i ∧ i < Int.pow 2 127 then some (.int i) else .none

/-- The sum of numbers, and texts or lists one after the other. -/
def add? (a b : Datum) : Option Datum :=
  match a, b with
  | .string s, .string t => some (.string (s ++ t))
  | .list as, .list bs => some (.list (as ++ bs))
  | a, b =>
      match a.int?, b.int? with
      | some i, some j => ofInt? (i + j)
      | _, _ =>
          match a.float?, b.float? with
          | some x, some y => some (.float (x.add y))
          | _, _ => .none

/-- A number with the other sign. -/
def negate? : Datum → Option Datum
  | .int i => ofInt? (-i)
  | .float x => some (.float x.negate)
  | _ => .none

/-- The texts of elements with a text between them; nothing stands before the first text that is not
empty. -/
def joinFrom (between : String) (done : String) : List Datum → String
  | [] => done
  | d :: rest =>
      joinFrom between (done ++ (if done = "" then "" else between) ++ d.shown) rest

end Datum

end DataCatalog.Template
