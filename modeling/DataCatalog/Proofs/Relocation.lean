import DataCatalog.Proofs.ParserSteps

/-!
# The parser and positions

The position at which a document is parsed is a prefix of the positions in its errors, and nothing
else: `node_append` says so of the parser of outlines, `Node.parse_relocate` and its companions of
the three parsers of documents.  What succeeds at one position succeeds at every other with the same
result.
-/

set_option autoImplicit false

namespace DataCatalog

namespace Position

theorem key_append (p q : Position) (name : String) : key (p ++ q) name = p ++ key q name :=
  List.append_assoc p q _

theorem index_append (p q : Position) (i : Nat) : index (p ++ q) i = p ++ index q i :=
  List.append_assoc p q _

end Position

/-- The same broken rule, in a document that stands at a position of a larger one. -/
def Malformed.under (p : Position) (e : Malformed) : Malformed := ⟨p ++ e.position, e.rule⟩

namespace Outline

open Position

variable (p : Position)

theorem callableName_append (q : Position) (entries : Entries Outline) :
    callableName (p ++ q) entries = (callableName q entries).mapError (.under p) := by
  simp only [callableName, key_append]
  split
  · split <;> rfl
  · rfl
  · rfl

theorem recipeHead_append (q : Position) (allowed : List String) (entries : Entries Outline) :
    recipeHead (p ++ q) allowed entries = (recipeHead q allowed entries).mapError (.under p) := by
  simp only [recipeHead, callableName_append]
  cases callableName q entries with
  | error e => rfl
  | ok callable => cases unknownKeys allowed entries <;> rfl

-- the arguments are left to the caller, who is in the middle of a recursion over them
theorem recipe_append (q : Position) (allowed : List String) {entries : Entries Outline}
    (hargs : argsIn (p ++ q) entries = (argsIn q entries).mapError (.under p)) :
    recipe (p ++ q) allowed entries = (recipe q allowed entries).mapError (.under p) := by
  rw [recipe_eq, recipe_eq, recipeHead_append, hargs, mapError_bind]
  simp only [mapError_map]

mutual

/-- A position in front of a document is in front of every error in it. -/
theorem node_append (q : Position) : (o : Outline) →
    node (p ++ q) o = (node q o).mapError (.under p)
  | .null => rfl
  | .bool _ => rfl
  | .int i => by
      simp only [node]
      cases int64? i <;> rfl
  | .float _ => rfl
  | .string _ => rfl
  | .seq items => by
      rw [node_seq, node_seq, itemNodes_append q 0 items, mapError_map]
  | .map entries => by
      have hrecipe := recipe_append p q [] (argsIn_append q entries)
      rw [node_map, node_map, hrecipe, entryNodes_append q entries]
      split <;> rw [mapError_map]
  | .faulty _ => rfl
  | .tagged value => node_append q value

theorem itemNodes_append (q : Position) (i : Nat) : (items : List Outline) →
    itemNodes (p ++ q) i items = (itemNodes q i items).mapError (.under p)
  | [] => rfl
  | o :: rest => by
      rw [itemNodes_cons, itemNodes_cons, index_append, node_append (q.index i) o,
        itemNodes_append q (i + 1) rest, mapError_bind]
      simp only [mapError_map]

theorem entryNodes_append (q : Position) : (entries : List (String × Outline)) →
    entryNodes (p ++ q) entries = (entryNodes q entries).mapError (.under p)
  | [] => rfl
  | (k, o) :: rest => by
      rw [entryNodes_cons, entryNodes_cons, key_append, node_append (q.key k) o,
        entryNodes_append q rest, mapError_bind]
      simp only [mapError_map]

theorem argsIn_append (q : Position) : (entries : List (String × Outline)) →
    argsIn (p ++ q) entries = (argsIn q entries).mapError (.under p)
  | [] => rfl
  | (k, o) :: rest => by
      -- one entry is the arguments; what stands under other keys is not looked at
      rw [argsIn_cons, argsIn_cons, key_append, argsOf_append (q.key Recipe.argsKey) o,
        argsIn_append q rest]
      split <;> rfl

theorem argsOf_append (q : Position) : (o : Outline) →
    argsOf (p ++ q) o = (argsOf q o).mapError (.under p)
  | .null => rfl
  | .map entries => entryNodes_append q entries
  | .bool _ | .int _ | .float _ | .string _ | .seq _ | .faulty _ | .tagged _ => rfl

end

theorem recipeOnly_append (q : Position) (o : Outline) :
    recipeOnly (p ++ q) o = (recipeOnly q o).mapError (.under p) := by
  rw [recipeOnly, recipeOnly]
  split
  · rename_i entries _
    exact recipe_append p q [] (argsIn_append p q entries)
  · rfl
  · rfl

theorem recipesFrom_append (q : Position) (i : Nat) (items : List Outline) :
    recipesFrom (p ++ q) i items = (recipesFrom q i items).mapError (.under p) := by
  induction items generalizing i with
  | nil => rfl
  | cons o rest ih =>
      rw [recipesFrom_cons, recipesFrom_cons, index_append, recipeOnly_append, ih, mapError_bind]
      simp only [mapError_map]

theorem validations_append (q : Position) (entries : Entries Outline) :
    validations (p ++ q) entries = (validations q entries).mapError (.under p) := by
  simp only [validations, key_append, recipesFrom_append]
  split <;> rfl

theorem dataset_append (q : Position) (o : Outline) :
    dataset (p ++ q) o = (dataset q o).mapError (.under p) := by
  cases hshape : o.untagged with
  | map entries =>
      have hrecipe := recipe_append p q [Recipe.validationsKey] (argsIn_append p q entries)
      rw [dataset_of_map _ hshape, dataset_of_map _ hshape, validations_append, hrecipe,
        mapError_bind]
      simp only [mapError_map]
  | _ =>
      simp only [dataset, hshape]
      rfl

end Outline

/-! ## Documents at other positions -/

open Outline

/-- A document is parsed at a position as it is parsed by itself. -/
theorem Node.parse_relocate (t : Tree) (p : Position) :
    Node.parse t p = (Node.parse t Position.root).mapError (.under p) := by
  have happend := node_append p Position.root (ofTree t)
  rwa [Position.root, List.append_nil] at happend

theorem Recipe.parse_relocate (t : Tree) (p : Position) :
    Recipe.parse t p = (Recipe.parse t Position.root).mapError (.under p) := by
  have happend := recipeOnly_append p Position.root (ofTree t)
  rwa [Position.root, List.append_nil] at happend

/-- A dataset is parsed under its name as it is parsed by itself. -/
theorem DatasetEntry.parse_relocate (name : String) (t : Tree) :
    DatasetEntry.parse name t =
      ((ofTree t).dataset Position.root).mapError (.under (Position.root.key name)) := by
  have happend := dataset_append (Position.root.key name) Position.root (ofTree t)
  rwa [Position.root, List.append_nil] at happend

/-- What is parsed at one position is parsed at every other. -/
theorem Node.parse_eq_ok_iff_at {t : Tree} {n : Node} (p q : Position) :
    Node.parse t p = .ok n ↔ Node.parse t q = .ok n := by
  rw [Node.parse_relocate t p, Node.parse_relocate t q, mapError_eq_ok_iff, mapError_eq_ok_iff]

end DataCatalog
