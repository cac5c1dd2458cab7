import DataCatalog.Document.Reading
import DataCatalog.Recipe.Basic
import DataCatalog.Recipe.Malformed
import DataCatalog.Text.Blank

/-!
# Reading configurations from documents

`Node.parse` reads any document: a mapping with the key `callable` is a recipe, every other mapping
is data.  `Recipe.parse` wants a recipe.  `DatasetEntry.parse` wants a recipe that may also list
validations.  All three visit sequences by index and mappings in the order of their keys, and report
the first rule that is broken on the way together with its position.
-/

set_option autoImplicit false

namespace DataCatalog

namespace Outline

/-- The name in the entry `callable`, without blanks around it. -/
def callableName (p : Position) (entries : Entries Outline) : Except Malformed String :=
  match Entries.get? Recipe.callableKey entries with
  | some (.string s) =>
      if Text.isAllBlank s then .error ⟨p.key Recipe.callableKey, .callableNotText⟩
      else .ok (Text.trim s)
  | some _ => .error ⟨p.key Recipe.callableKey, .callableNotText⟩
  | none => .error ⟨p, .callableMissing⟩

/-- The keys of a recipe that have no meaning in it. -/
def unknownKeys (allowed : List String) (entries : Entries Outline) : List String :=
  (Entries.keys entries).filter fun k =>
    !(k == Recipe.callableKey || k == Recipe.argsKey || allowed.contains k)

/-- The callable of a recipe without unknown keys. -/
def recipeHead (p : Position) (allowed : List String) (entries : Entries Outline) :
    Except Malformed String :=
  match callableName p entries with
  | .error e => .error e
  | .ok callable =>
      match unknownKeys allowed entries with
      | [] => .ok callable
      | unknown => .error ⟨p, .unknownKeys callable unknown⟩

mutual

/-- The configuration at a position. -/
def node (p : Position) : Outline → Except Malformed Node
  | .null => .ok .null
  | .bool b => .ok (.bool b)
  | .int i =>
      match int64? i with
      | some n => .ok (.int n)
      | none => .error ⟨p, .integerRange i⟩
  | .float x => .ok (.float x)
  | .string s => .ok (.string s)
  | .seq items =>
      match itemNodes p 0 items with
      | .ok nodes => .ok (.seq nodes)
      | .error e => .error e
  | .map entries =>
      if Entries.has Recipe.callableKey entries then
        match recipeHead p [] entries with
        | .error e => .error e
        | .ok callable =>
            match argsIn p entries with
            | .ok args => .ok (.recipe callable args)
            | .error e => .error e
      else
        match entryNodes p entries with
        | .ok nodes => .ok (.map nodes)
        | .error e => .error e
  | .faulty fault => .error ⟨p, fault.malformation⟩
  | .tagged value => node p value

/-- The elements of a sequence from an index on. -/
def itemNodes (p : Position) (i : Nat) : List Outline → Except Malformed (List Node)
  | [] => .ok []
  | o :: rest =>
      match node (p.index i) o with
      | .error e => .error e
      | .ok n =>
          match itemNodes p (i + 1) rest with
          | .ok nodes => .ok (n :: nodes)
          | .error e => .error e

/-- The entries of a mapping, in the order of their keys. -/
def entryNodes (p : Position) : List (String × Outline) → Except Malformed (Entries Node)
  | [] => .ok []
  | (k, o) :: rest =>
      match node (p.key k) o with
      | .error e => .error e
      | .ok n =>
          match entryNodes p rest with
          | .ok nodes => .ok ((k, n) :: nodes)
          | .error e => .error e

/-- The arguments among the entries of a recipe. -/
def argsIn (p : Position) : List (String × Outline) → Except Malformed (Entries Node)
  | [] => .ok []
  | (k, o) :: rest =>
      if k = Recipe.argsKey then argsOf (p.key Recipe.argsKey) o else argsIn p rest

/-- The arguments of a recipe: a mapping, or null for none. -/
def argsOf (p : Position) : Outline → Except Malformed (Entries Node)
  | .null => .ok []
  | .map entries => entryNodes p entries
  | .faulty fault => .error ⟨p, fault.malformation⟩
  | _ => .error ⟨p, .argsNotMapping⟩

end

/-- The recipe in the entries of a mapping that may have further keys. -/
def recipe (p : Position) (allowed : List String) (entries : Entries Outline) :
    Except Malformed Recipe :=
  match recipeHead p allowed entries with
  | .error e => .error e
  | .ok callable =>
      match argsIn p entries with
      | .ok args => .ok ⟨callable, args⟩
      | .error e => .error e

/-- The recipe at a position where nothing else may stand. -/
def recipeOnly (p : Position) (o : Outline) : Except Malformed Recipe :=
  match o.untagged with
  | .map entries => recipe p [] entries
  | .faulty fault => .error ⟨p, fault.malformation⟩
  | _ => .error ⟨p, .recipeNotMapping⟩

/-- The recipes of a list from an index on. -/
def recipesFrom (p : Position) (i : Nat) : List Outline → Except Malformed (List Recipe)
  | [] => .ok []
  | o :: rest =>
      match recipeOnly (p.index i) o with
      | .error e => .error e
      | .ok r =>
          match recipesFrom p (i + 1) rest with
          | .ok recipes => .ok (r :: recipes)
          | .error e => .error e

/-- The validators of a dataset: a list of recipes, or null for none. -/
def validations (p : Position) (entries : Entries Outline) : Except Malformed (List Recipe) :=
  match Entries.get? Recipe.validationsKey entries with
  | none => .ok []
  | some .null => .ok []
  | some (.seq items) => recipesFrom (p.key Recipe.validationsKey) 0 items
  | some _ => .error ⟨p.key Recipe.validationsKey, .validationsNotList⟩

/-- The dataset at a position; its validations are read before its recipe. -/
def dataset (p : Position) (o : Outline) : Except Malformed DatasetEntry :=
  match o.untagged with
  | .map entries =>
      match validations p entries with
      | .error e => .error e
      | .ok recipes =>
          match recipe p [Recipe.validationsKey] entries with
          | .ok source => .ok ⟨source, recipes⟩
          | .error e => .error e
  | .faulty fault => .error ⟨p, fault.malformation⟩
  | _ => .error ⟨p, .datasetNotMapping⟩

end Outline

/-- Reads a document as a configuration. -/
def Node.parse (t : Tree) (p : Position) : Except Malformed Node :=
  (Outline.ofTree t).node p

/-- Reads a document as a recipe. -/
def Recipe.parse (t : Tree) (p : Position) : Except Malformed Recipe :=
  (Outline.ofTree t).recipeOnly p

/-- Reads a document as the dataset of a name. -/
def DatasetEntry.parse (name : String) (t : Tree) : Except Malformed DatasetEntry :=
  (Outline.ofTree t).dataset (Position.root.key name)

end DataCatalog
