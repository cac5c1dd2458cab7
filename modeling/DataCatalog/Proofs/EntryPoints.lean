import DataCatalog.Proofs.KeyEquality
import DataCatalog.Proofs.Relocation
import DataCatalog.Proofs.Tags

/-!
# The three entry points of the parser

A recipe can be read as a configuration, as a recipe, or, with a list of validators beside it, as a
dataset.  `entry_points_agree` says that the three make the same of it: a recipe is what is read as
a configuration that is a recipe, with the same errors wherever a mapping has the key `callable`;
and a dataset is read from a mapping that, without its validators, is read as the source, and that
lists the validators.
-/

set_option autoImplicit false

namespace DataCatalog

open DataCatalog.Tree Outline

/-! ## Recipes -/

/-- A mapping with the key `callable` is read alike as a recipe and as a configuration, whether it
is accepted or not. -/
theorem Node.parse_eq_map_node {t : Tree} {entries : List (Tree × Tree)} {callable : Tree}
    (hentries : t.untagged = .map entries)
    (hcallable : (.string Recipe.callableKey, callable) ∈ entries) (p : Position) :
    Node.parse t p = (Recipe.parse t p).map Recipe.node := by
  have hshape : (ofTree t).untagged = ofEntries (ofTreeEntries entries) := by
    rw [untagged_ofTree, hentries, ofTree]
  rw [← parse_untagged, hentries]
  simp only [Node.parse, Recipe.parse, recipeOnly, hshape, ofTree]
  cases hcollect : collect [] (ofTreeEntries entries) with
  | error fault => simp only [ofEntries, hcollect, node, Except.map]
  | ok collected =>
      -- the key is found among the collected ones, so that the mapping is taken for a recipe
      have hget : Entries.get? Recipe.callableKey collected = some (ofTree callable) :=
        (Collects.get?_word_iff hcollect isWord_callableKey).2 ⟨callable, hcallable, rfl⟩
      have hhas : Entries.has Recipe.callableKey collected = true := by
        rw [Entries.has_eq_isSome_get?, hget, Option.isSome_some]
      simp only [ofEntries, hcollect, node_map, hhas, if_true]

/-! ## Datasets -/

/-- The entries without the one under a key. -/
def Tree.withoutKey (key : Tree) : List (Tree × Tree) → List (Tree × Tree)
  | [] => []
  | (k, t) :: rest => if same key k then rest else (k, t) :: withoutKey key rest

/-- The entries that the source of a dataset is read from. -/
def Tree.sourceEntries (entries : List (Tree × Tree)) : List (Tree × Tree) :=
  withoutKey (.string Recipe.validationsKey) entries

/-- The validators that a mapping lists: none, or those of an untagged list, each of which is read
as a configuration. -/
inductive ListsValidators (p : Position) (entries : List (Tree × Tree)) :
    List Recipe → Prop where
  | absent (free : Tree.get? (.string Recipe.validationsKey) entries = none) :
      ListsValidators p entries []
  | null (found : Tree.get? (.string Recipe.validationsKey) entries = some .null) :
      ListsValidators p entries []
  | list {items : List Tree} {recipes : List Recipe}
      (found : Tree.get? (.string Recipe.validationsKey) entries = some (.seq items))
      (each : List.Forall₂ (fun t r => Node.parse t p = .ok r.node) items recipes) :
      ListsValidators p entries recipes

theorem Tree.get?_string_eq_none_iff {key : String} {entries : List (Tree × Tree)} :
    Tree.get? (.string key) entries = none ↔ ∀ t, (.string key, t) ∉ entries := by
  induction entries with
  | nil => simp [Tree.get?]
  | cons head rest ih =>
      obtain ⟨k, t⟩ := head
      rw [Tree.get?]
      split
      · rename_i hsame
        obtain rfl := eq_string_of_same hsame
        constructor
        · intro h
          cases h
        · intro h
          exact absurd List.mem_cons_self (h t)
      · rename_i hother
        rw [ih]
        constructor
        · intro h u hmem
          rcases List.mem_cons.1 hmem with heq | hmem
          · obtain ⟨rfl, -⟩ := Prod.mk.inj heq
            exact hother (same_string_iff.2 rfl)
          · exact h u hmem
        · intro h u hmem
          exact h u (List.mem_cons_of_mem _ hmem)

/-- What is found under a text stands there, and removing it leaves the rest. -/
theorem Tree.perm_withoutKey {key : String} {entries : List (Tree × Tree)} {t : Tree}
    (h : Tree.get? (.string key) entries = some t) :
    entries.Perm ((.string key, t) :: withoutKey (.string key) entries) := by
  induction entries with
  | nil => cases h
  | cons head rest ih =>
      obtain ⟨k, u⟩ := head
      rw [Tree.get?] at h
      rw [withoutKey]
      split at h
      · rename_i hsame
        cases h
        rw [if_pos hsame, eq_string_of_same hsame]
      · rename_i hother
        rw [if_neg hother]
        exact ((ih h).cons (k, u)).trans (List.Perm.swap _ _ _)

theorem Tree.withoutKey_of_absent {key : String} {entries : List (Tree × Tree)}
    (h : ∀ t, (.string key, t) ∉ entries) : withoutKey (.string key) entries = entries := by
  induction entries with
  | nil => rfl
  | cons head rest ih =>
      obtain ⟨k, u⟩ := head
      have hother : ¬same (.string key) k = true := by
        intro hsame
        obtain rfl := eq_string_of_same hsame
        exact h u List.mem_cons_self
      rw [withoutKey, if_neg hother, ih fun t hmem => h t (List.mem_cons_of_mem _ hmem)]

/-- The arguments of a recipe are not touched by other keys. -/
theorem Outline.ParsesArgs.congr {p : Position} {entries others : List (Tree × Tree)}
    {nodes : Entries Node} (h : ParsesArgs p entries nodes)
    (hargs : ∀ t, (.string Recipe.argsKey, t) ∈ entries ↔ (.string Recipe.argsKey, t) ∈ others) :
    ParsesArgs p others nodes := by
  cases h with
  | absent free => exact .absent fun t hmem => free t ((hargs t).2 hmem)
  | null found => exact .null ((hargs _).1 found)
  | map found parses => exact .map ((hargs _).1 found) parses

theorem parsesRecipe_allowed_iff {p : Position} {entries : List (Tree × Tree)} {r : Recipe}
    (free : ∀ t, (.string Recipe.validationsKey, t) ∉ entries) :
    ParsesRecipe p [Recipe.validationsKey] entries r ↔ ParsesRecipe p [] entries r := by
  constructor
  · rintro ⟨keys, name, only, args⟩
    refine ⟨keys, name, ?_, args⟩
    rintro ⟨key, t⟩ hmem
    obtain ⟨k, rfl, hk⟩ := only _ hmem
    refine ⟨k, rfl, hk.imp_right (Or.imp_right fun hallowed => ?_)⟩
    rw [List.mem_singleton.1 hallowed] at hmem
    exact absurd hmem (free t)
  · rintro ⟨keys, name, only, args⟩
    refine ⟨keys, name, ?_, args⟩
    intro entry hmem
    obtain ⟨k, hk, hcases⟩ := only entry hmem
    exact ⟨k, hk, hcases.imp_right (Or.imp_right fun hnone => absurd hnone List.not_mem_nil)⟩

/-- A recipe that may list validators is a recipe with one entry more. -/
theorem parsesRecipe_validations_iff {p : Position} {entries rest : List (Tree × Tree)} {t : Tree}
    {r : Recipe} (perm : entries.Perm ((.string Recipe.validationsKey, t) :: rest)) :
    ParsesRecipe p [Recipe.validationsKey] entries r ↔ ParsesRecipe p [] rest r := by
  -- an entry under another key is in the one list when it is in the other
  have hother {k : String} (hne : k ≠ Recipe.validationsKey) (u : Tree) :
      (.string k, u) ∈ entries ↔ (.string k, u) ∈ rest := by
    rw [perm.mem_iff, List.mem_cons]
    constructor
    · rintro (heq | hmem)
      · cases heq
        exact absurd rfl hne
      · exact hmem
    · exact .inr
  have hcallable : Recipe.callableKey ≠ Recipe.validationsKey := by decide
  have hargs : Recipe.argsKey ≠ Recipe.validationsKey := by decide
  constructor
  · rintro ⟨keys, ⟨s, hname, hs⟩, only, args⟩
    have hkeys := distinctKeys_cons_iff.1 (keys.perm perm.symm)
    refine ⟨hkeys.2.2, ⟨s, (hother hcallable _).1 hname, hs⟩, ?_, args.congr (hother hargs)⟩
    rintro ⟨key, u⟩ hmem
    obtain ⟨k, rfl, hk⟩ := only _ (perm.mem_iff.2 (List.mem_cons_of_mem _ hmem))
    refine ⟨k, rfl, hk.imp_right (Or.imp_right fun hallowed => ?_)⟩
    -- the key is taken by the entry that was removed
    rw [List.mem_singleton.1 hallowed] at hmem
    exact absurd rfl (hkeys.2.1 _ hmem)
  · rintro ⟨keys, ⟨s, hname, hs⟩, only, args⟩
    have hfree : ∀ entry ∈ rest,
        (Tree.string Recipe.validationsKey).keyText? ≠ entry.1.keyText? := by
      intro entry hmem
      obtain ⟨k, hk, hcases⟩ := only entry hmem
      rw [hk]
      rcases hcases with rfl | rfl | hnone
      · decide
      · decide
      · exact absurd hnone List.not_mem_nil
    have hkeys : DistinctKeys ((.string Recipe.validationsKey, t) :: rest) :=
      distinctKeys_cons_iff.2 ⟨trivial, hfree, keys⟩
    refine ⟨hkeys.perm perm, ⟨s, (hother hcallable _).2 hname, hs⟩, ?_,
      args.congr fun u => (hother hargs u).symm⟩
    intro entry hmem
    rcases List.mem_cons.1 (perm.mem_iff.1 hmem) with rfl | hmem
    · exact ⟨_, rfl, .inr (.inr (List.mem_singleton.2 rfl))⟩
    · obtain ⟨k, hk, hcases⟩ := only entry hmem
      exact ⟨k, hk, hcases.imp_right (Or.imp_right fun hnone => absurd hnone List.not_mem_nil)⟩

/-- Validators are read one by one, each of them as a configuration at whatever position. -/
theorem recipesFrom_eq_ok_iff {q : Position} {i : Nat} {items : List Tree} {recipes : List Recipe}
    (p : Position) :
    recipesFrom q i (items.map ofTree) = .ok recipes ↔
      List.Forall₂ (fun t r => Node.parse t p = .ok r.node) items recipes := by
  have hrecipe (t : Tree) (r : Recipe) (j : Nat) :
      recipeOnly (q.index j) (ofTree t) = .ok r ↔ Node.parse t p = .ok r.node :=
    Recipe.parse_eq_ok_iff.trans (Node.parse_eq_ok_iff_at (q.index j) p)
  induction items generalizing i recipes with
  | nil =>
      rw [List.forall₂_nil_left_iff]
      constructor
      · intro h
        cases h
        rfl
      · rintro rfl
        rfl
  | cons t rest ih =>
      rw [List.map_cons, recipesFrom_cons_eq_ok_iff, List.forall₂_cons_left_iff]
      constructor
      · rintro ⟨r, later, hr, hlater, rfl⟩
        exact ⟨r, later, (hrecipe t r i).1 hr, ih.1 hlater, rfl⟩
      · rintro ⟨r, later, hr, hlater, rfl⟩
        exact ⟨r, later, (hrecipe t r i).2 hr, ih.2 hlater, rfl⟩

theorem parsesValidations_iff_listsValidators {p q : Position} {entries : List (Tree × Tree)}
    {recipes : List Recipe} (distinct : DistinctKeys entries) :
    ParsesValidations q entries recipes ↔ ListsValidators p entries recipes := by
  cases hget : Tree.get? (.string Recipe.validationsKey) entries with
  | none =>
      have hfree := Tree.get?_string_eq_none_iff.1 hget
      constructor
      · intro h
        cases h with
        | absent _ => exact .absent hget
        | null found => exact absurd found (hfree _)
        | list found _ => exact absurd found (hfree _)
      · intro h
        cases h with
        | absent _ => exact .absent hfree
        | null found => simp [hget] at found
        | list found _ => simp [hget] at found
  | some t =>
      have hmem : (.string Recipe.validationsKey, t) ∈ entries :=
        (Tree.perm_withoutKey hget).mem_iff.2 List.mem_cons_self
      constructor
      · intro h
        cases h with
        | absent free => exact absurd hmem (free t)
        | null found =>
            obtain rfl := distinct.eq_of_text found hmem
            exact .null hget
        | list found parses =>
            obtain rfl := distinct.eq_of_text found hmem
            exact .list hget ((recipesFrom_eq_ok_iff p).1 parses)
      · intro h
        cases h with
        | absent free => simp [hget] at free
        | null found =>
            obtain rfl := Option.some.inj (hget.symm.trans found)
            exact .null hmem
        | list found each =>
            obtain rfl := Option.some.inj (hget.symm.trans found)
            exact .list hmem ((recipesFrom_eq_ok_iff p).2 each)

theorem parsesRecipe_iff_sourceEntries {p : Position} {entries : List (Tree × Tree)}
    {r : Recipe} :
    ParsesRecipe p [Recipe.validationsKey] entries r ↔
      ParsesRecipe p [] (sourceEntries entries) r := by
  cases hget : Tree.get? (.string Recipe.validationsKey) entries with
  | none =>
      have hfree := Tree.get?_string_eq_none_iff.1 hget
      rw [sourceEntries, Tree.withoutKey_of_absent hfree]
      exact parsesRecipe_allowed_iff hfree
  | some t => exact parsesRecipe_validations_iff (Tree.perm_withoutKey hget)

theorem parse_map_eq_ok_node_iff {p : Position} {entries : List (Tree × Tree)} {r : Recipe} :
    Node.parse (.map entries) p = .ok r.node ↔ ParsesRecipe p [] entries r := by
  refine Recipe.parse_eq_ok_iff.symm.trans (recipeOnly_eq_ok_iff.trans ?_)
  constructor
  · rintro ⟨_, heq, hr⟩
    cases heq
    exact hr
  · intro hr
    exact ⟨entries, rfl, hr⟩

/-- A dataset is a recipe with a list of validators beside it. -/
theorem DatasetEntry.parse_eq_ok_iff {name : String} {t : Tree} {p : Position}
    {entry : DatasetEntry} :
    DatasetEntry.parse name t = .ok entry ↔
      ∃ entries, t.untagged = .map entries ∧ ListsValidators p entries entry.validations ∧
        Node.parse (.map (sourceEntries entries)) p = .ok entry.source.node := by
  have hsource (entries : List (Tree × Tree)) :
      ParsesRecipe (Position.root.key name) [Recipe.validationsKey] entries entry.source ↔
        Node.parse (.map (sourceEntries entries)) p = .ok entry.source.node := by
    rw [parsesRecipe_iff_sourceEntries, ← parse_map_eq_ok_node_iff]
    exact Node.parse_eq_ok_iff_at _ p
  rw [DatasetEntry.parse, dataset_eq_ok_iff]
  constructor
  · rintro ⟨entries, hentries, hrecipe, hvalidations⟩
    exact ⟨entries, hentries, (parsesValidations_iff_listsValidators hrecipe.keys).1 hvalidations,
      (hsource entries).1 hrecipe⟩
  · rintro ⟨entries, hentries, hvalidators, hnode⟩
    have hrecipe := (hsource entries).2 hnode
    exact ⟨entries, hentries, hrecipe,
      (parsesValidations_iff_listsValidators hrecipe.keys).2 hvalidators⟩

/-- The entry points of the parser agree.  What is read as a recipe is what is read as a
configuration that is a recipe, and where a mapping has the key `callable` the errors are the same
too.  A dataset is read from a mapping whose validations are absent, null or a list of recipes and
which without them is read as a recipe; it holds that recipe and those of the list, in their
order. -/
theorem entry_points_agree (t : Tree) (p : Position) (name : String) :
    (∀ r, Recipe.parse t p = .ok r ↔ Node.parse t p = .ok r.node) ∧
      (∀ entries callable, t.untagged = .map entries →
        (.string Recipe.callableKey, callable) ∈ entries →
        ∀ e, Recipe.parse t p = .error e ↔ Node.parse t p = .error e) ∧
      ∀ entry, DatasetEntry.parse name t = .ok entry ↔
        ∃ entries, t.untagged = .map entries ∧ ListsValidators p entries entry.validations ∧
          Node.parse (.map (sourceEntries entries)) p = .ok entry.source.node := by
  refine ⟨fun r => Recipe.parse_eq_ok_iff, ?_, fun entry => DatasetEntry.parse_eq_ok_iff⟩
  intro entries callable hentries hcallable e
  rw [Node.parse_eq_map_node hentries hcallable]
  cases Recipe.parse t p <;> simp [Except.map]

/-- A list of validators has no place in a recipe inside a configuration: it is refused there and
accepted in a dataset. -/
example :
    let t : Tree := .map [(.string "callable", .string "pkg.make"),
      (.string "validations", .seq [])]
    Node.parse t Position.root =
        .error ⟨Position.root, .unknownKeys "pkg.make" ["validations"]⟩ ∧
      DatasetEntry.parse "d" t = .ok ⟨⟨"pkg.make", []⟩, []⟩ :=
  ⟨rfl, rfl⟩

end DataCatalog
