import DataCatalog.Dict
import DataCatalog.Document.Tree

/-!
# Outlines

An outline is a document tree as a catalog looks at it: the keys of every mapping are texts, in
increasing order and distinct, and positions go through keys and indices only.  A mapping whose
keys cannot be made so is kept as the fault that was met first in the order of the text.
-/

set_option autoImplicit false

namespace DataCatalog

/-- Why the keys of a mapping are no distinct texts. -/
inductive KeyFault where
  /-- A key that is a sequence, a mapping or tagged. -/
  | notScalar
  /-- Two keys with the same text. -/
  | duplicate (key : String)
  deriving DecidableEq, Repr

/-- A document with texts as keys. -/
inductive Outline where
  | null
  | bool (b : Bool)
  | int (i : Int)
  | float (x : Binary64)
  | string (s : String)
  | seq (items : List Outline)
  | map (entries : List (String × Outline))
  | faulty (fault : KeyFault)
  | tagged (value : Outline)
  deriving Inhabited

namespace Tree

/-- The text of a scalar as a key of a mapping. -/
def keyText? : Tree → Option String
  | .string s => some s
  | .int i => some (toString i)
  | .float x => some (x.text .yaml)
  | .bool b => some (if b then "true" else "false")
  | .null => some "null"
  | _ => none

end Tree

namespace Outline

/-- Collects entries under the texts of their keys, up to the first key that has none or repeats. -/
def collect (acc : Entries Outline) : List (Tree × Outline) → Except KeyFault (Entries Outline)
  | [] => .ok acc
  | (k, value) :: rest =>
      match k.keyText? with
      | none => .error .notScalar
      | some key =>
          if Entries.has key acc then .error (.duplicate key)
          else collect (Entries.put key value acc) rest

/-- The mapping of entries, or the fault of their keys. -/
def ofEntries (entries : List (Tree × Outline)) : Outline :=
  match collect [] entries with
  | .ok collected => .map collected
  | .error fault => .faulty fault

/-- The outline under any number of tags. -/
def untagged : Outline → Outline
  | .tagged value => untagged value
  | o => o

mutual

/-- The outline of a tree. -/
def ofTree : Tree → Outline
  | .null => .null
  | .bool b => .bool b
  | .int i => .int i
  | .float x => .float x
  | .string s => .string s
  | .seq items => .seq (ofTrees items)
  | .map entries => ofEntries (ofTreeEntries entries)
  | .tagged _ value => .tagged (ofTree value)

def ofTrees : List Tree → List Outline
  | [] => []
  | t :: rest => ofTree t :: ofTrees rest

def ofTreeEntries : List (Tree × Tree) → List (Tree × Outline)
  | [] => []
  | (k, v) :: rest => (k, ofTree v) :: ofTreeEntries rest

end

end Outline

end DataCatalog
