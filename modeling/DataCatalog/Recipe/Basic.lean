import DataCatalog.Dict
import DataCatalog.Document.Tree
import DataCatalog.Position

/-!
# Recipes

A configuration is a tree of plain data and recipes.  A recipe names a callable and the arguments
to call it with, which are configurations again.  Whether a mapping is a recipe is decided once,
when a document is read; nothing else looks for the key `callable`.

`Node.toTree` writes a configuration as a document, a recipe as a mapping of its callable and its
arguments.  As in any document, there is one NaN for all of them.
-/

set_option autoImplicit false

namespace DataCatalog

/-- A configuration: plain data with recipes in it. -/
inductive Node where
  | null
  | bool (b : Bool)
  | int (i : Int64)
  | float (x : Binary64)
  | string (s : String)
  | seq (items : List Node)
  | map (entries : List (String × Node))
  | recipe (callable : String) (args : List (String × Node))
  deriving Inhabited

/-- What to call, and with which arguments. -/
structure Recipe where
  callable : String
  args : Entries Node
  deriving Inhabited

/-- A dataset: the recipe of its source, and the recipes of its validators in order. -/
structure DatasetEntry where
  source : Recipe
  validations : List Recipe
  deriving Inhabited

namespace Recipe

def callableKey : String := "callable"

def argsKey : String := "args"

def validationsKey : String := "validations"

/-- A recipe as a configuration. -/
def node (r : Recipe) : Node := .recipe r.callable r.args

/-- Adds or replaces an argument. -/
def give (r : Recipe) (name : String) (value : Node) : Recipe :=
  { r with args := Entries.put name value r.args }

end Recipe

namespace Node

mutual

/-- Whether no recipe occurs in a configuration. -/
def isPlain : Node → Bool
  | .recipe _ _ => false
  | .seq items => arePlain items
  | .map entries => entriesArePlain entries
  | _ => true

def arePlain : List Node → Bool
  | [] => true
  | n :: rest => isPlain n && arePlain rest

def entriesArePlain : List (String × Node) → Bool
  | [] => true
  | (_, n) :: rest => isPlain n && entriesArePlain rest

end

mutual

/-- A configuration as a document. -/
def toTree : Node → Tree
  | .null => .null
  | .bool b => .bool b
  | .int i => .int i.toInt
  | .float x => .float x.canonical
  | .string s => .string s
  | .seq items => .seq (toTrees items)
  | .map entries => .map (toTreeEntries entries)
  | .recipe callable args =>
      .map [(.string Recipe.callableKey, .string callable),
        (.string Recipe.argsKey, .map (toTreeEntries args))]

def toTrees : List Node → List Tree
  | [] => []
  | n :: rest => toTree n :: toTrees rest

def toTreeEntries : List (String × Node) → List (Tree × Tree)
  | [] => []
  | (k, n) :: rest => (.string k, toTree n) :: toTreeEntries rest

end

end Node

end DataCatalog
