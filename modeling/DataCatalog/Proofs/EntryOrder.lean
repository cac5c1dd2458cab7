import DataCatalog.Proofs.ParserSteps
import DataCatalog.Proofs.PlainData
import DataCatalog.Proofs.Recording

/-!
# The order of entries

Two documents that differ in the order of the entries of their mappings, at whatever depth, are
parsed alike: `entry_order_irrelevant`.  The outline of a document is what the parser looks at, and
it lists the entries of every mapping in the order of their texts.  The one trace that the order of
the text leaves in it is the first fault among the keys of a mapping, so that outlines are compared
without their faults (`Outline.blurred`); the parser tells these apart in its errors only.
-/

set_option autoImplicit false

namespace DataCatalog

/-! ## Documents in another order -/

/-- Two documents that differ in the order of the entries of mappings only: the entries of the one
mapping, moved, are those of the other, whose keys and values may be in another order themselves. -/
inductive Tree.Reordered : Tree → Tree → Prop where
  | null : Reordered .null .null
  | bool (b : Bool) : Reordered (.bool b) (.bool b)
  | int (i : Int) : Reordered (.int i) (.int i)
  | float (x : Binary64) : Reordered (.float x) (.float x)
  | string (s : String) : Reordered (.string s) (.string s)
  | seq {items others : List Tree} (length : items.length = others.length)
      (each : ∀ (i : Nat) (t u : Tree), items[i]? = some t → others[i]? = some u →
        Reordered t u) :
      Reordered (.seq items) (.seq others)
  | map {entries moved others : List (Tree × Tree)} (perm : moved.Perm entries)
      (length : moved.length = others.length)
      (keys : ∀ (i : Nat) (a b : Tree × Tree), moved[i]? = some a → others[i]? = some b →
        Reordered a.1 b.1)
      (values : ∀ (i : Nat) (a b : Tree × Tree), moved[i]? = some a → others[i]? = some b →
        Reordered a.2 b.2) :
      Reordered (.map entries) (.map others)
  | tagged {tag : String} {t u : Tree} (value : Reordered t u) :
      Reordered (.tagged tag t) (.tagged tag u)

namespace Tree

/-- A scalar has no other order, and nothing else has a text. -/
theorem Reordered.keyText?_eq {k k' : Tree} (h : k.Reordered k') : k.keyText? = k'.keyText? := by
  cases h <;> rfl

theorem Reordered.map_of_forall₂ {entries moved others : List (Tree × Tree)}
    (perm : moved.Perm entries)
    (h : List.Forall₂ (fun a b => Reordered a.1 b.1 ∧ Reordered a.2 b.2) moved others) :
    Reordered (.map entries) (.map others) := by
  have heach : ∀ (i : Nat) (a b : Tree × Tree), moved[i]? = some a → others[i]? = some b →
      Reordered a.1 b.1 ∧ Reordered a.2 b.2 := by
    intro i a b ha hb
    obtain ⟨hi, rfl⟩ := List.getElem?_eq_some_iff.1 ha
    obtain ⟨hj, rfl⟩ := List.getElem?_eq_some_iff.1 hb
    exact h.get hi hj
  exact .map perm h.length_eq (fun i a b ha hb => (heach i a b ha hb).1)
    fun i a b ha hb => (heach i a b ha hb).2

variable {α : Type}

/-- Keys are distinct scalars when all have texts and no text comes twice. -/
theorem distinctKeys_iff_texts {entries : List (Tree × α)} :
    DistinctKeys entries ↔
      none ∉ entries.map (fun entry => entry.1.keyText?) ∧
        (entries.map fun entry => entry.1.keyText?).Nodup := by
  have hscalar : (∀ entry ∈ entries, entry.1.IsScalar) ↔
      none ∉ entries.map fun entry => entry.1.keyText? := by
    simp only [List.mem_map, not_exists, not_and, ← exists_keyText?_iff]
    refine forall₂_congr fun entry _ => ?_
    rw [← Option.isSome_iff_exists, Option.isSome_iff_ne_none]
  rw [List.Nodup, List.pairwise_map, ← hscalar]
  exact ⟨fun h => ⟨h.scalar, h.distinct⟩, fun h => ⟨h.1, h.2⟩⟩

end Tree

/-! ## Outlines without their faults -/

namespace Outline

open DataCatalog.Tree

mutual

/-- The outline in which all faults are the same. -/
def blurred : Outline → Outline
  | .null => .null
  | .bool b => .bool b
  | .int i => .int i
  | .float x => .float x
  | .string s => .string s
  | .seq items => .seq (blurredItems items)
  | .map entries => .map (blurredEntries entries)
  | .faulty _ => .faulty .notScalar
  | .tagged value => .tagged (blurred value)

def blurredItems : List Outline → List Outline
  | [] => []
  | o :: rest => blurred o :: blurredItems rest

def blurredEntries : List (String × Outline) → List (String × Outline)
  | [] => []
  | (k, o) :: rest => (k, blurred o) :: blurredEntries rest

end

theorem blurredItems_eq_map (items : List Outline) : blurredItems items = items.map blurred := by
  induction items with
  | nil => rfl
  | cons o rest ih => rw [blurredItems, ih, List.map_cons]

theorem blurredEntries_eq_map (entries : Entries Outline) :
    blurredEntries entries = entries.map fun entry => (entry.1, entry.2.blurred) := by
  induction entries with
  | nil => rfl
  | cons head rest ih =>
      obtain ⟨k, o⟩ := head
      rw [blurredEntries, ih, List.map_cons]

@[simp] theorem keys_blurredEntries (entries : Entries Outline) :
    Entries.keys (blurredEntries entries) = Entries.keys entries := by
  simp [blurredEntries_eq_map, Entries.keys, Function.comp_def]

@[simp] theorem get?_blurredEntries (key : String) (entries : Entries Outline) :
    Entries.get? key (blurredEntries entries) = (Entries.get? key entries).map blurred := by
  induction entries with
  | nil => rfl
  | cons head rest ih =>
      obtain ⟨k, o⟩ := head
      rw [blurredEntries, Entries.get?, Entries.get?, ih]
      split <;> rfl

@[simp] theorem has_blurredEntries (key : String) (entries : Entries Outline) :
    Entries.has key (blurredEntries entries) = Entries.has key entries := by
  rw [Entries.has_eq_isSome_get?, Entries.has_eq_isSome_get?, get?_blurredEntries,
    Option.isSome_map]

theorem untagged_blurred (o : Outline) : o.blurred.untagged = o.untagged.blurred := by
  induction o using Outline.untagged.induct with
  | case1 value ih => exact ih
  | case2 o hnot =>
      cases o with
      | tagged value => exact absurd rfl (hnot value)
      | _ => rfl

/-- Mappings whose keys and values are alike, in whatever order, have the same outline but for
faults. -/
theorem blurred_map_eq {entries others : List (Tree × Tree)}
    (h : (entries.map fun entry => (entry.1.keyText?, (ofTree entry.2).blurred)).Perm
      (others.map fun entry => (entry.1.keyText?, (ofTree entry.2).blurred))) :
    (ofTree (.map entries)).blurred = (ofTree (.map others)).blurred := by
  have htexts := h.map Prod.fst
  simp only [List.map_map, Function.comp_def] at htexts
  have hkeys : DistinctKeys entries ↔ DistinctKeys others := by
    rw [distinctKeys_iff_texts, distinctKeys_iff_texts, htexts.mem_iff, htexts.nodup_iff]
  -- the entries of an outline are those of its mapping, each under the text of its key
  have hlists {found : List (Tree × Tree)} {collected : Entries Outline}
      (hcollects : Collects found collected) :
      ((blurredEntries collected).map fun entry => (some entry.1, entry.2)).Perm
        (found.map fun entry => (entry.1.keyText?, (ofTree entry.2).blurred)) := by
    have hperm := hcollects.perm.map (Prod.map id blurred)
    rw [blurredEntries_eq_map]
    simpa [Function.comp_def] using hperm
  have hordered {found : List (Tree × Tree)} {collected : Entries Outline}
      (hcollects : Collects found collected) : Entries.Ordered (blurredEntries collected) := by
    rw [Entries.ordered_iff_keys, keys_blurredEntries, ← Entries.ordered_iff_keys]
    exact hcollects.ordered
  by_cases distinct : DistinctKeys entries
  · -- two lists in order with the same entries are one
    obtain ⟨first, hfirst⟩ := exists_collects_iff.2 distinct
    obtain ⟨second, hsecond⟩ := exists_collects_iff.2 (hkeys.1 distinct)
    have hperm : (blurredEntries first).Perm (blurredEntries second) := by
      have hmapped := (hlists hfirst).trans (h.trans (hlists hsecond).symm)
      apply (List.map_perm_map_iff ?_).1 hmapped
      rintro ⟨k, o⟩ ⟨k', o'⟩ heq
      cases heq
      rfl
    rw [ofTree_map_of_collects hfirst, ofTree_map_of_collects hsecond, blurred, blurred,
      Entries.eq_of_perm (hordered hfirst) (hordered hsecond) hperm]
  · -- both are at fault, for reasons that may differ
    have hfaulty {found : List (Tree × Tree)} (hnot : ¬DistinctKeys found) :
        (ofTree (.map found)).blurred = .faulty .notScalar := by
      rw [ofTree, ofEntries]
      cases hcollect : collect [] (ofTreeEntries found) with
      | error fault => rfl
      | ok collected => exact absurd (exists_collects_iff.1 ⟨collected, hcollect⟩) hnot
    rw [hfaulty distinct, hfaulty (mt hkeys.2 distinct)]

/-- Documents that differ in order have the same outline but for faults. -/
theorem blurred_ofTree_eq {t u : Tree} (h : t.Reordered u) :
    (ofTree t).blurred = (ofTree u).blurred := by
  induction h with
  | null => rfl
  | bool b => rfl
  | int i => rfl
  | float x => rfl
  | string s => rfl
  | tagged value ih => rw [ofTree, ofTree, blurred, blurred, ih]
  | @seq items others length each ih =>
      have hitems : items.map (fun t => (ofTree t).blurred) =
          others.map fun t => (ofTree t).blurred := map_eq_map_of_each length ih
      rw [ofTree, ofTree, blurred, blurred, ofTrees_eq_map, ofTrees_eq_map, blurredItems_eq_map,
        blurredItems_eq_map, List.map_map, List.map_map]
      exact congrArg Outline.seq hitems
  | @map entries moved others perm length keys values _ ih =>
      apply blurred_map_eq
      -- moving the entries gives a permutation, and what is then at the same place is alike
      have hmoved : moved.map (fun entry => (entry.1.keyText?, (ofTree entry.2).blurred)) =
          others.map fun entry => (entry.1.keyText?, (ofTree entry.2).blurred) :=
        map_eq_map_of_each length fun i a b ha hb =>
          Prod.ext (keys i a b ha hb).keyText?_eq (ih i a b ha hb)
      rw [← hmoved]
      exact (perm.map _).symm

/-! ## The parser of outlines without their faults -/

variable (p : Position)

theorem recipeHead_blurred (allowed : List String) (entries : Entries Outline) :
    recipeHead p allowed (blurredEntries entries) = recipeHead p allowed entries := by
  have hname : callableName p (blurredEntries entries) = callableName p entries := by
    rw [callableName, callableName, get?_blurredEntries]
    cases Entries.get? Recipe.callableKey entries with
    | none => rfl
    | some o => cases o <;> rfl
  rw [recipeHead, recipeHead, hname, unknownKeys, unknownKeys, keys_blurredEntries]

theorem recipe_blurred (allowed : List String) {entries : Entries Outline}
    (hargs : (argsIn p (blurredEntries entries)).toOption = (argsIn p entries).toOption) :
    (recipe p allowed (blurredEntries entries)).toOption = (recipe p allowed entries).toOption := by
  rw [recipe_eq, recipe_eq, recipeHead_blurred, toOption_bind, toOption_bind]
  simp only [toOption_map, hargs]

mutual

/-- Which fault it is does not matter to what is parsed. -/
theorem node_blurred : (p : Position) → (o : Outline) →
    (node p o.blurred).toOption = (node p o).toOption
  | _, .null => rfl
  | _, .bool _ => rfl
  | _, .int _ => rfl
  | _, .float _ => rfl
  | _, .string _ => rfl
  | p, .seq items => by
      rw [blurred, node_seq, node_seq, toOption_map, toOption_map, itemNodes_blurred p 0 items]
  | p, .map entries => by
      have hrecipe := recipe_blurred p [] (argsIn_blurred p entries)
      rw [blurred, node_map, node_map, has_blurredEntries]
      split
      · rw [toOption_map, toOption_map, hrecipe]
      · rw [toOption_map, toOption_map, entryNodes_blurred p entries]
  | _, .faulty _ => rfl
  | p, .tagged value => node_blurred p value

theorem itemNodes_blurred : (p : Position) → (i : Nat) → (items : List Outline) →
    (itemNodes p i (blurredItems items)).toOption = (itemNodes p i items).toOption
  | _, _, [] => rfl
  | p, i, o :: rest => by
      rw [blurredItems, itemNodes_cons, itemNodes_cons, toOption_bind, toOption_bind,
        node_blurred (p.index i) o]
      simp only [toOption_map, itemNodes_blurred p (i + 1) rest]

theorem entryNodes_blurred : (p : Position) → (entries : List (String × Outline)) →
    (entryNodes p (blurredEntries entries)).toOption = (entryNodes p entries).toOption
  | _, [] => rfl
  | p, (k, o) :: rest => by
      rw [blurredEntries, entryNodes_cons, entryNodes_cons, toOption_bind, toOption_bind,
        node_blurred (p.key k) o]
      simp only [toOption_map, entryNodes_blurred p rest]

theorem argsIn_blurred : (p : Position) → (entries : List (String × Outline)) →
    (argsIn p (blurredEntries entries)).toOption = (argsIn p entries).toOption
  | _, [] => rfl
  | p, (k, o) :: rest => by
      rw [blurredEntries, argsIn_cons, argsIn_cons]
      split
      · exact argsOf_blurred (p.key Recipe.argsKey) o
      · exact argsIn_blurred p rest

theorem argsOf_blurred : (p : Position) → (o : Outline) →
    (argsOf p o.blurred).toOption = (argsOf p o).toOption
  | p, .map entries => entryNodes_blurred p entries
  | _, .null | _, .bool _ | _, .int _ | _, .float _ | _, .string _ | _, .seq _ | _, .faulty _
  | _, .tagged _ => rfl

end

theorem recipeOnly_blurred (o : Outline) :
    (recipeOnly p o.blurred).toOption = (recipeOnly p o).toOption := by
  rw [recipeOnly, recipeOnly, untagged_blurred]
  cases o.untagged with
  | map entries => exact recipe_blurred p [] (argsIn_blurred p entries)
  | _ => rfl

theorem recipesFrom_blurred (i : Nat) (items : List Outline) :
    (recipesFrom p i (blurredItems items)).toOption = (recipesFrom p i items).toOption := by
  induction items generalizing i with
  | nil => rfl
  | cons o rest ih =>
      rw [blurredItems, recipesFrom_cons, recipesFrom_cons, toOption_bind, toOption_bind,
        recipeOnly_blurred]
      simp only [toOption_map, ih]

theorem validations_blurred (entries : Entries Outline) :
    (validations p (blurredEntries entries)).toOption = (validations p entries).toOption := by
  rw [validations, validations, get?_blurredEntries]
  cases Entries.get? Recipe.validationsKey entries with
  | none => rfl
  | some o =>
      cases o with
      | seq items => exact recipesFrom_blurred (p.key Recipe.validationsKey) 0 items
      | _ => rfl

theorem dataset_blurred (o : Outline) :
    (dataset p o.blurred).toOption = (dataset p o).toOption := by
  have hblurred := untagged_blurred o
  cases hshape : o.untagged with
  | map entries =>
      have hrecipe := recipe_blurred p [Recipe.validationsKey] (argsIn_blurred p entries)
      rw [hshape, blurred] at hblurred
      rw [dataset_of_map p hblurred, dataset_of_map p hshape, toOption_bind, toOption_bind,
        validations_blurred]
      simp only [toOption_map, hrecipe]
  | _ =>
      rw [dataset, dataset, hblurred, hshape]
      rfl

end Outline

/-! ## Documents -/

open Outline

/-- A parser that does not tell faults apart does not see the order of entries. -/
theorem Tree.Reordered.eq_ok_iff {α : Type} {parse : Outline → Except Malformed α}
    (hblurred : ∀ o, (parse o.blurred).toOption = (parse o).toOption) {t u : Tree}
    (h : t.Reordered u) (a : α) : parse (ofTree t) = .ok a ↔ parse (ofTree u) = .ok a := by
  apply toOption_eq_iff.1
  rw [← hblurred (ofTree t), blurred_ofTree_eq h, hblurred (ofTree u)]

/-- Two attempts to read something come to the same: both fail, or both give the same result, and
what is done with it takes the same course. -/
structure ReadAlike {σ α β : Type} (x y : Except Malformed α)
    (use : α → ExceptT CatalogError (Recorded (StateM σ)) β) : Prop where
  result : ∀ a, x = .ok a ↔ y = .ok a
  course : ∀ a b, x = .ok a → y = .ok b → ∀ s, observe (use a) s = observe (use b) s

theorem readAlike_of_result {σ α β : Type} {x y : Except Malformed α}
    {use : α → ExceptT CatalogError (Recorded (StateM σ)) β} (h : ∀ a, x = .ok a ↔ y = .ok a) :
    ReadAlike x y use := by
  refine ⟨h, fun a b ha hb s => ?_⟩
  have hsame := (h a).1 ha
  rw [hb] at hsame
  cases hsame
  rfl

/-- The order of keys does not matter.  Documents that differ in the order of the entries of their
mappings only are both refused or both accepted, with the same result: as configurations, as recipes
and as datasets.  So whatever is built from them, or judged by their validators, takes the same
course. -/
theorem entry_order_irrelevant {σ : Type} {t u : Tree} (h : t.Reordered u) (p q : Position)
    (name : String) (c : Catalog (StateM σ)) :
    ReadAlike (Node.parse t p) (Node.parse u p) (c.recorded.builder.resolve q) ∧
      ReadAlike (Recipe.parse t p) (Recipe.parse u p) (c.recorded.builder.build q) ∧
      ReadAlike (DatasetEntry.parse name t) (DatasetEntry.parse name u) fun entry =>
        c.recorded.buildSource name entry >>= fun source =>
          c.recorded.builder.validate name source entry.validations := by
  refine ⟨?_, ?_, ?_⟩
  · exact readAlike_of_result (h.eq_ok_iff (node_blurred p))
  · exact readAlike_of_result (h.eq_ok_iff (recipeOnly_blurred p))
  · exact readAlike_of_result (h.eq_ok_iff (dataset_blurred (Position.root.key name)))

/-- A dataset whose keys, and those of its arguments, stand in one order. -/
def shelvedForth : Tree :=
  .map [(.string "callable", .string "shelf"),
    (.string "args", .map [(.string "a", .int 1), (.int 2, .seq [.bool true])])]

/-- The same dataset with all keys in another order. -/
def shelvedBack : Tree :=
  .map [(.string "args", .map [(.int 2, .seq [.bool true]), (.string "a", .int 1)]),
    (.string "callable", .string "shelf")]

theorem reordered_shelved : shelvedForth.Reordered shelvedBack := by
  have hlist : (Tree.seq [.bool true]).Reordered (.seq [.bool true]) := by
    refine .seq rfl ?_
    intro i t u ht hu
    rw [ht] at hu
    cases hu
    cases List.mem_singleton.1 (List.mem_of_getElem? ht)
    exact .bool true
  have hargs : (Tree.map [(.string "a", .int 1), (.int 2, .seq [.bool true])]).Reordered
      (.map [(.int 2, .seq [.bool true]), (.string "a", .int 1)]) :=
    .map_of_forall₂ (List.Perm.swap _ _ [])
      (.cons ⟨.int 2, hlist⟩ (.cons ⟨.string "a", .int 1⟩ .nil))
  exact .map_of_forall₂ (List.Perm.swap _ _ [])
    (.cons ⟨.string "args", hargs⟩ (.cons ⟨.string "callable", .string "shelf"⟩ .nil))

/-- The two orders of a dataset are read as the same recipe. -/
theorem entry_order_irrelevant_shelved :
    shelvedForth.Reordered shelvedBack ∧ ∃ n,
      Node.parse shelvedForth Position.root = .ok n ∧
        Node.parse shelvedBack Position.root = .ok n := by
  have halike := entry_order_irrelevant reordered_shelved Position.root Position.root "shelved"
    (⟨Dict.empty, Registry.empty, Dict.empty⟩ : Catalog (StateM Unit))
  have hforth : Node.parse shelvedForth Position.root =
      .ok (.recipe "shelf" [("2", .seq [.bool true]), ("a", .int 1)]) := by
    rfl
  exact ⟨reordered_shelved, _, hforth, (halike.1.result _).1 hforth⟩

end DataCatalog
