import DataCatalog.Number.Layout

/-!
# Document trees

A tree is a parsed document: scalars, sequences, mappings in the order of the text with any trees as
keys, and tagged values.  Integers are unbounded here; a reader delivers those between the least
signed and the greatest unsigned number of 64 bits.

`Tree.same` is the equality under which a mapping may not have two equal keys: the order of entries
does not matter, a NaN equals itself, and a tag counts with or without its leading mark.
-/

set_option autoImplicit false

namespace DataCatalog

/-- A parsed document. -/
inductive Tree where
  | null
  | bool (b : Bool)
  | int (i : Int)
  | float (x : Binary64)
  | string (s : String)
  | seq (items : List Tree)
  | map (entries : List (Tree × Tree))
  | tagged (tag : String) (value : Tree)
  deriving Inhabited

namespace Tree

/-- The value under any number of tags. -/
def untagged : Tree → Tree
  | .tagged _ value => untagged value
  | t => t

/-- A text, looked for under tags. -/
def text? (t : Tree) : Option String :=
  match t.untagged with
  | .string s => some s
  | _ => none

/-- The entries of a mapping, looked for under tags. -/
def mapping? (t : Tree) : Option (List (Tree × Tree)) :=
  match t.untagged with
  | .map entries => some entries
  | _ => none

/-- A tag without its leading exclamation mark; the mark alone stays. -/
def bareTag (tag : String) : String :=
  match tag.toList with
  | '!' :: c :: rest => String.ofList (c :: rest)
  | _ => tag

/-- Equality of floating-point keys: numerical, and a NaN equals itself. -/
def sameFloat (x y : Binary64) : Bool :=
  x.same y || (x.isNaN && y.isNaN)

mutual

/-- Equality of trees as mapping keys. -/
def same : Tree → Tree → Bool
  | .null, .null => true
  | .bool a, .bool b => a == b
  | .int a, .int b => a == b
  | .float a, .float b => sameFloat a b
  | .string a, .string b => a == b
  | .seq a, .seq b => sameItems a b
  | .map a, .map b => a.length == b.length && sameEntries a b
  | .tagged s a, .tagged t b => bareTag s == bareTag t && same a b
  | _, _ => false

def sameItems : List Tree → List Tree → Bool
  | [], [] => true
  | a :: as, b :: bs => same a b && sameItems as bs
  | _, _ => false

/-- Whether every entry has an equal one among the entries of the other mapping. -/
def sameEntries : List (Tree × Tree) → List (Tree × Tree) → Bool
  | [], _ => true
  | (k, v) :: rest, other =>
      (other.any fun entry => same k entry.1 && same v entry.2) && sameEntries rest other

end

/-- Whether a mapping has a key. -/
def hasKey (key : Tree) (entries : List (Tree × Tree)) : Bool :=
  entries.any fun entry => same key entry.1

/-- Sets a key: an equal key keeps its place and gets the value, a new one comes last. -/
def setKey (key value : Tree) : List (Tree × Tree) → List (Tree × Tree)
  | [] => [(key, value)]
  | (k, old) :: rest =>
      if same key k then (k, value) :: rest else (k, old) :: setKey key value rest

/-- The value under a key. -/
def get? (key : Tree) : List (Tree × Tree) → Option Tree
  | [] => none
  | (k, value) :: rest => if same key k then some value else get? key rest

end Tree

end DataCatalog
