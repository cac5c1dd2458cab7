import DataCatalog.Proofs.Grammar

/-!
# Tags in configurations

A tag on a value says nothing to a catalog, and `Tree.stripped` takes all of them off.  The parsers
look through tags, with three exceptions: the callable of a recipe, its arguments and the
validations of a dataset are taken as they stand, and a tag on one of them is an error.

Main statement: `tags_looked_through` says that this is all.  A document is parsed as what it is
without its tags, or else it is not parsed because of a tag in one of the three places.
-/

set_option autoImplicit false

namespace DataCatalog

namespace Tree

/-! ## Documents without tags -/

mutual

/-- A document without the tags on its values, at any depth; the keys of mappings stay. -/
def stripped : Tree → Tree
  | .seq items => .seq (strippedItems items)
  | .map entries => .map (strippedEntries entries)
  | .tagged _ value => stripped value
  | t => t

def strippedItems : List Tree → List Tree
  | [] => []
  | t :: rest => stripped t :: strippedItems rest

def strippedEntries : List (Tree × Tree) → List (Tree × Tree)
  | [] => []
  | (k, t) :: rest => (k, stripped t) :: strippedEntries rest

end

/-- Whether a value has a tag of its own. -/
def IsTagged : Tree → Prop
  | .tagged _ _ => True
  | _ => False

theorem strippedEntries_eq_map (entries : List (Tree × Tree)) :
    strippedEntries entries = entries.map fun entry => (entry.1, entry.2.stripped) := by
  induction entries with
  | nil => rfl
  | cons head rest ih =>
      obtain ⟨k, t⟩ := head
      rw [strippedEntries, ih, List.map_cons]

theorem mem_strippedEntries_iff {entries : List (Tree × Tree)} {k t : Tree} :
    (k, t) ∈ strippedEntries entries ↔ ∃ u, (k, u) ∈ entries ∧ t = u.stripped := by
  rw [strippedEntries_eq_map]
  constructor
  · intro hmem
    obtain ⟨⟨k', u⟩, hin, heq⟩ := List.mem_map.1 hmem
    obtain ⟨rfl, rfl⟩ := Prod.mk.inj heq
    exact ⟨u, hin, rfl⟩
  · rintro ⟨u, hin, rfl⟩
    exact List.mem_map.2 ⟨(k, u), hin, rfl⟩

theorem mem_strippedEntries {entries : List (Tree × Tree)} {k u : Tree} (h : (k, u) ∈ entries) :
    (k, u.stripped) ∈ strippedEntries entries :=
  mem_strippedEntries_iff.2 ⟨u, h, rfl⟩

theorem distinctKeys_strippedEntries_iff {entries : List (Tree × Tree)} :
    DistinctKeys (strippedEntries entries) ↔ DistinctKeys entries := by
  rw [strippedEntries_eq_map]
  exact distinctKeys_map_iff stripped

/-- An untagged value keeps its shape: only what stands in it is stripped. -/
theorem eq_of_stripped_eq_null {t : Tree} (h : ¬t.IsTagged) (heq : t.stripped = .null) :
    t = .null := by
  cases t with
  | tagged tag value => exact absurd trivial h
  | null => rfl
  | _ => cases heq

theorem eq_of_stripped_eq_string {t : Tree} {s : String} (h : ¬t.IsTagged)
    (heq : t.stripped = .string s) : t = .string s := by
  cases t with
  | tagged tag value => exact absurd trivial h
  | string s' => exact heq
  | _ => cases heq

theorem exists_of_stripped_eq_map {t : Tree} {entries : List (Tree × Tree)} (h : ¬t.IsTagged)
    (heq : t.stripped = .map entries) :
    ∃ found, t = .map found ∧ entries = strippedEntries found := by
  cases t with
  | tagged tag value => exact absurd trivial h
  | map found => exact ⟨found, rfl, (Tree.map.inj heq).symm⟩
  | _ => cases heq

theorem exists_of_stripped_eq_seq {t : Tree} {items : List Tree} (h : ¬t.IsTagged)
    (heq : t.stripped = .seq items) : ∃ found, t = .seq found ∧ items = strippedItems found := by
  cases t with
  | tagged tag value => exact absurd trivial h
  | seq found => exact ⟨found, rfl, (Tree.seq.inj heq).symm⟩
  | _ => cases heq

theorem not_isTagged_untagged (t : Tree) : ¬t.untagged.IsTagged := by
  induction t using Tree.untagged.induct with
  | case1 tag value ih => exact ih
  | case2 t hnot =>
      cases t with
      | tagged tag value => exact absurd rfl (hnot tag value)
      | _ => exact id

theorem stripped_untagged (t : Tree) : t.untagged.stripped = t.stripped := by
  induction t using Tree.untagged.induct with
  | case1 tag value ih => exact ih
  | case2 t hnot =>
      cases t with
      | tagged tag value => exact absurd rfl (hnot tag value)
      | _ => rfl

theorem untagged_stripped (t : Tree) : t.stripped.untagged = t.stripped := by
  rw [← stripped_untagged]
  have h := not_isTagged_untagged t
  cases htop : t.untagged with
  | tagged tag value =>
      rw [htop] at h
      exact absurd trivial h
  | _ => rfl

/-- A document is a mapping under its tags when it is one without them. -/
theorem exists_untagged_map_iff {t : Tree} {entries : List (Tree × Tree)} :
    t.stripped.untagged = .map entries ↔
      ∃ found, t.untagged = .map found ∧ entries = strippedEntries found := by
  rw [untagged_stripped, ← stripped_untagged]
  constructor
  · exact exists_of_stripped_eq_map (not_isTagged_untagged t)
  · rintro ⟨found, hfound, rfl⟩
    rw [hfound, stripped]

/-! ## Where tags matter -/

/-- No value under a key has a tag of its own. -/
def Bare (entries : List (Tree × Tree)) (key : String) : Prop :=
  ∀ t, (.string key, t) ∈ entries → ¬t.IsTagged

/-- What is asked of a value by itself: a recipe names its callable and its arguments without
tags. -/
def NamesBare : Tree → Prop
  | .map entries => ∀ callable, (.string Recipe.callableKey, callable) ∈ entries →
      Bare entries Recipe.callableKey ∧ Bare entries Recipe.argsKey
  | _ => True

/-- All recipes in a document name their callables and arguments without tags. -/
def RecipesBare (t : Tree) : Prop :=
  ∀ u, t.ValuePosition u → u.NamesBare

/-- A dataset lists its validations without a tag on the list, and each of them is such that its
recipes name their callables and arguments without tags. -/
def ValidationsBare (t : Tree) : Prop :=
  ∀ entries, t.untagged = .map entries → Bare entries Recipe.validationsKey ∧
    ∀ items, (.string Recipe.validationsKey, .seq items) ∈ entries → ∀ u ∈ items, u.RecipesBare

theorem recipesBare_tagged_iff {tag : String} {t : Tree} :
    (Tree.tagged tag t).RecipesBare ↔ t.RecipesBare := by
  refine forall_valuePosition_iff.trans ⟨fun h => h.2 t .tagged, fun h => ⟨trivial, ?_⟩⟩
  intro u hchild
  cases hchild
  exact h

theorem recipesBare_untagged_iff (t : Tree) : t.untagged.RecipesBare ↔ t.RecipesBare := by
  induction t using Tree.untagged.induct with
  | case1 tag value ih => exact ih.trans recipesBare_tagged_iff.symm
  | case2 t hnot =>
      cases t with
      | tagged tag value => exact absurd rfl (hnot tag value)
      | _ => exact Iff.rfl

theorem recipesBare_seq_iff {items : List Tree} :
    (Tree.seq items).RecipesBare ↔ ∀ t ∈ items, t.RecipesBare := by
  refine forall_valuePosition_iff.trans ⟨fun h t hmem => h.2 t (.item hmem), fun h => ⟨trivial, ?_⟩⟩
  intro u hchild
  cases hchild with
  | item hmem => exact h u hmem

theorem recipesBare_data_iff {entries : List (Tree × Tree)}
    (data : ∀ t, (.string Recipe.callableKey, t) ∉ entries) :
    (Tree.map entries).RecipesBare ↔ ∀ k t, (k, t) ∈ entries → t.RecipesBare := by
  refine forall_valuePosition_iff.trans ⟨fun h k t hmem => h.2 t (.value data hmem), fun h => ?_⟩
  refine ⟨fun callable hmem => absurd hmem (data callable), ?_⟩
  intro u hchild
  cases hchild with
  | @value _ k _ _ hmem => exact h k u hmem
  | argument hrecipe _ _ => exact absurd hrecipe (data _)

theorem recipesBare_recipe_iff {entries : List (Tree × Tree)} {callable : Tree}
    (recipe : (.string Recipe.callableKey, callable) ∈ entries) :
    (Tree.map entries).RecipesBare ↔
      (Bare entries Recipe.callableKey ∧ Bare entries Recipe.argsKey) ∧
        ∀ args k t, (.string Recipe.argsKey, .map args) ∈ entries → (k, t) ∈ args →
          t.RecipesBare := by
  refine forall_valuePosition_iff.trans ⟨fun h => ⟨h.1 callable recipe, ?_⟩, fun h => ⟨?_, ?_⟩⟩
  · intro args k t found hmem
    exact h.2 t (.argument recipe found hmem)
  · exact fun _ _ => h.1
  · intro u hchild
    cases hchild with
    | value data _ => exact absurd recipe (data _)
    | @argument _ args _ k _ _ found hmem => exact h.2 args k u found hmem

end Tree

/-! ## Parsing with and without tags -/

open DataCatalog.Tree Outline

section Parts

variable {V : Tree → Prop}

/-- The elements of a sequence are parsed when they are without their tags and `V` holds of each,
provided that this is so of every element by itself. -/
theorem itemNodes_iff_stripped {items : List Tree}
    (hitems : ∀ t ∈ items, ∀ p n,
      Node.parse t p = .ok n ↔ Node.parse t.stripped p = .ok n ∧ V t)
    (p : Position) (i : Nat) (nodes : List Node) :
    itemNodes p i (ofTrees items) = .ok nodes ↔
      itemNodes p i (ofTrees (strippedItems items)) = .ok nodes ∧ ∀ t ∈ items, V t := by
  induction items generalizing i nodes with
  | nil =>
      refine ⟨fun h => ⟨h, ?_⟩, fun h => h.1⟩
      intro t hmem
      exact absurd hmem List.not_mem_nil
  | cons t rest ih =>
      have hfirst := hitems t List.mem_cons_self
      have hrest := ih fun u hmem => hitems u (List.mem_cons_of_mem _ hmem)
      rw [ofTrees, strippedItems, ofTrees, itemNodes_cons_eq_ok_iff, itemNodes_cons_eq_ok_iff]
      constructor
      · rintro ⟨n, later, hn, hlater, rfl⟩
        obtain ⟨hn', ht⟩ := (hfirst _ n).1 hn
        obtain ⟨hlater', heach⟩ := (hrest _ later).1 hlater
        exact ⟨⟨n, later, hn', hlater', rfl⟩, List.forall_mem_cons.2 ⟨ht, heach⟩⟩
      · rintro ⟨⟨n, later, hn, hlater, rfl⟩, heach⟩
        obtain ⟨ht, heach⟩ := List.forall_mem_cons.1 heach
        exact ⟨n, later, (hfirst _ n).2 ⟨hn, ht⟩, (hrest _ later).2 ⟨hlater, heach⟩, rfl⟩

theorem parsesEntries_iff_stripped {entries : List (Tree × Tree)}
    (hvalues : ∀ k t, (k, t) ∈ entries → ∀ p n,
      Node.parse t p = .ok n ↔ Node.parse t.stripped p = .ok n ∧ V t)
    {p : Position} {nodes : Entries Node} :
    ParsesEntries p entries nodes ↔
      ParsesEntries p (strippedEntries entries) nodes ∧ ∀ k t, (k, t) ∈ entries → V t := by
  rw [parsesEntries_iff_mem, parsesEntries_iff_mem, distinctKeys_strippedEntries_iff]
  constructor
  · rintro ⟨distinct, ordered, hkeys, heach⟩
    refine ⟨⟨distinct, ordered, ?_, ?_⟩, ?_⟩
    · intro name n hin
      obtain ⟨k, t, hmem, hk⟩ := hkeys name n hin
      exact ⟨k, t.stripped, mem_strippedEntries hmem, hk⟩
    · intro k t' name hmem' hk
      obtain ⟨t, hmem, rfl⟩ := mem_strippedEntries_iff.1 hmem'
      obtain ⟨n, hin, hparse⟩ := heach k t name hmem hk
      exact ⟨n, hin, ((hvalues k t hmem _ n).1 hparse).1⟩
    · intro k t hmem
      obtain ⟨name, hk⟩ := exists_keyText?_iff.2 (distinct.scalar (k, t) hmem)
      obtain ⟨n, -, hparse⟩ := heach k t name hmem hk
      exact ((hvalues k t hmem _ n).1 hparse).2
  · rintro ⟨⟨distinct, ordered, hkeys, heach⟩, hV⟩
    refine ⟨distinct, ordered, ?_, ?_⟩
    · intro name n hin
      obtain ⟨k, t', hmem', hk⟩ := hkeys name n hin
      obtain ⟨t, hmem, -⟩ := mem_strippedEntries_iff.1 hmem'
      exact ⟨k, t, hmem, hk⟩
    · intro k t name hmem hk
      obtain ⟨n, hin, hparse⟩ := heach k t.stripped name (mem_strippedEntries hmem) hk
      exact ⟨n, hin, (hvalues k t hmem _ n).2 ⟨hparse, hV k t hmem⟩⟩

/-- Arguments are taken as they stand: they are parsed when they are without their tags and have no
tag of their own. -/
theorem parsesArgs_iff_stripped {entries : List (Tree × Tree)} (distinct : DistinctKeys entries)
    (hvalues : ∀ args k t, (.string Recipe.argsKey, .map args) ∈ entries → (k, t) ∈ args →
      ∀ p n, Node.parse t p = .ok n ↔ Node.parse t.stripped p = .ok n ∧ V t)
    {p : Position} {nodes : Entries Node} :
    ParsesArgs p entries nodes ↔
      ParsesArgs p (strippedEntries entries) nodes ∧ Bare entries Recipe.argsKey ∧
        ∀ args k t, (.string Recipe.argsKey, .map args) ∈ entries → (k, t) ∈ args → V t := by
  constructor
  · intro h
    cases h with
    | absent free =>
        refine ⟨.absent fun t' hmem' => ?_, fun t hmem => absurd hmem (free t), ?_⟩
        · obtain ⟨t, hmem, -⟩ := mem_strippedEntries_iff.1 hmem'
          exact free t hmem
        · exact fun args _ _ found => absurd found (free _)
    | null found =>
        refine ⟨.null (mem_strippedEntries found), fun t hmem => ?_, fun args _ _ found' => ?_⟩
        · rw [distinct.eq_of_text hmem found]
          exact id
        · cases distinct.eq_of_text found' found
    | @map args _ found parses =>
        obtain ⟨hparses, hV⟩ := (parsesEntries_iff_stripped (hvalues args · · found)).1 parses
        refine ⟨.map (mem_strippedEntries found) hparses, fun t hmem => ?_, ?_⟩
        · rw [distinct.eq_of_text hmem found]
          exact id
        · intro args' k t found' hmem
          cases distinct.eq_of_text found' found
          exact hV k t hmem
  · rintro ⟨h, bare, hV⟩
    cases h with
    | absent free => exact .absent fun t hmem => free t.stripped (mem_strippedEntries hmem)
    | null found =>
        obtain ⟨t, hmem, heq⟩ := mem_strippedEntries_iff.1 found
        rw [eq_of_stripped_eq_null (bare t hmem) heq.symm] at hmem
        exact .null hmem
    | map found parses =>
        obtain ⟨t, hmem, heq⟩ := mem_strippedEntries_iff.1 found
        obtain ⟨args, rfl, rfl⟩ := exists_of_stripped_eq_map (bare t hmem) heq.symm
        refine .map hmem ((parsesEntries_iff_stripped (hvalues args · · hmem)).2 ⟨parses, ?_⟩)
        exact fun k u hin => hV args k u hmem hin

theorem parsesRecipe_iff_stripped {allowed : List String} {entries : List (Tree × Tree)}
    (hvalues : ∀ args k t, (.string Recipe.argsKey, .map args) ∈ entries → (k, t) ∈ args →
      ∀ p n, Node.parse t p = .ok n ↔ Node.parse t.stripped p = .ok n ∧ V t)
    {p : Position} {r : Recipe} :
    ParsesRecipe p allowed entries r ↔
      ParsesRecipe p allowed (strippedEntries entries) r ∧
        (Bare entries Recipe.callableKey ∧ Bare entries Recipe.argsKey) ∧
        ∀ args k t, (.string Recipe.argsKey, .map args) ∈ entries → (k, t) ∈ args → V t := by
  constructor
  · rintro ⟨distinct, ⟨s, hname, hblank, hcallable⟩, only, hargs⟩
    obtain ⟨hargs', bare, hV⟩ := (parsesArgs_iff_stripped distinct hvalues).1 hargs
    refine ⟨⟨distinctKeys_strippedEntries_iff.2 distinct,
      ⟨s, mem_strippedEntries hname, hblank, hcallable⟩, ?_, hargs'⟩, ⟨?_, bare⟩, hV⟩
    · rintro ⟨k, t'⟩ hmem'
      obtain ⟨t, hmem, -⟩ := mem_strippedEntries_iff.1 hmem'
      exact only (k, t) hmem
    · intro t hmem
      rw [distinct.eq_of_text hmem hname]
      exact id
  · rintro ⟨⟨distinct', ⟨s, hname', hblank, hcallable⟩, only, hargs⟩, ⟨bareName, bareArgs⟩, hV⟩
    have distinct := distinctKeys_strippedEntries_iff.1 distinct'
    obtain ⟨t, hname, heq⟩ := mem_strippedEntries_iff.1 hname'
    rw [eq_of_stripped_eq_string (bareName t hname) heq.symm] at hname
    refine ⟨distinct, ⟨s, hname, hblank, hcallable⟩, ?_, ?_⟩
    · rintro ⟨k, u⟩ hmem
      exact only (k, u.stripped) (mem_strippedEntries hmem)
    · exact (parsesArgs_iff_stripped distinct hvalues).2 ⟨hargs, bareArgs, hV⟩

end Parts

theorem parse_map_eq_ok_iff_stripped {entries : List (Tree × Tree)}
    (hvalues : ∀ u, Child (.map entries) u → ∀ p n,
      Node.parse u p = .ok n ↔ Node.parse u.stripped p = .ok n ∧ u.RecipesBare)
    (p : Position) (n : Node) :
    Node.parse (.map entries) p = .ok n ↔
      Node.parse (.map (strippedEntries entries)) p = .ok n ∧ (Tree.map entries).RecipesBare := by
  have hfree : (∀ t, (.string Recipe.callableKey, t) ∉ strippedEntries entries) ↔
      ∀ t, (.string Recipe.callableKey, t) ∉ entries := by
    constructor
    · intro h t hmem
      exact h t.stripped (mem_strippedEntries hmem)
    · intro h t' hmem'
      obtain ⟨t, hmem, -⟩ := mem_strippedEntries_iff.1 hmem'
      exact h t hmem
  have hparse (found : List (Tree × Tree)) := @node_map_eq_ok_iff p found n
  unfold Node.parse
  rw [hparse, hparse, hfree]
  by_cases data : ∀ t, (.string Recipe.callableKey, t) ∉ entries
  · -- data on both sides: a recipe would have the key
    have hnone {found : List (Tree × Tree)}
        (free : ∀ t, (.string Recipe.callableKey, t) ∉ found) :
        ¬∃ r, ParsesRecipe p [] found r ∧ n = r.node := by
      rintro ⟨r, hr, -⟩
      obtain ⟨s, hname, -⟩ := hr.name
      exact free _ hname
    have hentries (nodes : Entries Node) : ParsesEntries p entries nodes ↔
        ParsesEntries p (strippedEntries entries) nodes ∧
          ∀ k t, (k, t) ∈ entries → t.RecipesBare :=
      parsesEntries_iff_stripped fun k t hmem => hvalues t (.value data hmem)
    simp only [data, hnone data, hnone (hfree.2 data), hentries, recipesBare_data_iff data,
      or_false, not_false_eq_true, implies_true, true_and]
    rw [← exists_and_right]
    exact exists_congr fun nodes => and_right_comm
  · obtain ⟨callable, hcallable⟩ : ∃ t, (.string Recipe.callableKey, t) ∈ entries := by
      simpa [Classical.not_forall] using data
    have hrecipe (r : Recipe) : ParsesRecipe p [] entries r ↔ _ :=
      parsesRecipe_iff_stripped fun args k t found hmem =>
        hvalues t (.argument hcallable found hmem)
    simp only [data, false_and, false_or, hrecipe, recipesBare_recipe_iff hcallable]
    rw [← exists_and_right]
    exact exists_congr fun r => and_right_comm

/-- A document is parsed as a configuration when it is without its tags and its recipes name their
callables and arguments without tags. -/
theorem parse_eq_ok_iff_stripped (t : Tree) : ∀ p n,
    Node.parse t p = .ok n ↔ Node.parse t.stripped p = .ok n ∧ t.RecipesBare := by
  induction t using child_induction with
  | step t ih =>
      intro p n
      cases t with
      | map entries => exact parse_map_eq_ok_iff_stripped ih p n
      | tagged tag value =>
          rw [recipesBare_tagged_iff]
          exact ih value .tagged p n
      | seq items =>
          have hitems (nodes : List Node) :=
            itemNodes_iff_stripped (fun t hmem => ih t (.item hmem)) p 0 nodes
          rw [recipesBare_seq_iff]
          show Outline.node p (.seq (ofTrees items)) = .ok n ↔
            Outline.node p (.seq (ofTrees (strippedItems items))) = .ok n ∧ _
          simp only [node_seq_eq_ok_iff, hitems]
          rw [← exists_and_right]
          exact exists_congr fun nodes => and_right_comm
      | _ =>
          refine ⟨fun h => ⟨h, forall_valuePosition_iff.2 ⟨trivial, ?_⟩⟩, fun h => h.1⟩
          intro u hchild
          cases hchild

/-! ## Recipes and datasets -/

theorem parse_untagged (t : Tree) (p : Position) : Node.parse t.untagged p = Node.parse t p := by
  induction t using Tree.untagged.induct with
  | case1 tag value ih => exact ih
  | case2 t hnot =>
      cases t with
      | tagged tag value => exact absurd rfl (hnot tag value)
      | _ => rfl

/-- What is read as a recipe is what is read as a configuration that is a recipe. -/
theorem Recipe.parse_eq_ok_iff {t : Tree} {p : Position} {r : Recipe} :
    Recipe.parse t p = .ok r ↔ Node.parse t p = .ok r.node := by
  rw [← parse_untagged]
  refine recipeOnly_eq_ok_iff.trans ⟨?_, ?_⟩
  · rintro ⟨entries, hentries, hr⟩
    rw [hentries]
    exact node_map_eq_ok_iff.2 (.inr ⟨r, hr, rfl⟩)
  · intro h
    have htop := not_isTagged_untagged t
    cases hshape : t.untagged with
    | tagged tag value =>
        rw [hshape] at htop
        exact absurd trivial htop
    | map entries =>
        rw [hshape] at h
        rcases node_map_eq_ok_iff.1 h with ⟨-, nodes, -, heq⟩ | ⟨r', hr', heq⟩
        · cases heq
        · cases r
          cases r'
          cases heq
          exact ⟨entries, rfl, hr'⟩
    | int i =>
        rw [hshape] at h
        obtain ⟨k, -, heq⟩ := parse_int_eq_ok_iff.1 h
        cases heq
    | seq items =>
        rw [hshape] at h
        obtain ⟨nodes, -, heq⟩ := node_seq_eq_ok_iff.1 h
        cases heq
    | _ =>
        rw [hshape] at h
        cases h

theorem Recipe.parse_eq_ok_iff_stripped (t : Tree) (p : Position) (r : Recipe) :
    Recipe.parse t p = .ok r ↔ Recipe.parse t.stripped p = .ok r ∧ t.RecipesBare := by
  rw [Recipe.parse_eq_ok_iff, Recipe.parse_eq_ok_iff]
  exact DataCatalog.parse_eq_ok_iff_stripped t p r.node

theorem recipesFrom_iff_stripped {items : List Tree} (p : Position) (i : Nat)
    (recipes : List Recipe) :
    recipesFrom p i (items.map ofTree) = .ok recipes ↔
      recipesFrom p i ((strippedItems items).map ofTree) = .ok recipes ∧
        ∀ t ∈ items, t.RecipesBare := by
  induction items generalizing i recipes with
  | nil =>
      refine ⟨fun h => ⟨h, ?_⟩, fun h => h.1⟩
      intro t hmem
      exact absurd hmem List.not_mem_nil
  | cons t rest ih =>
      have hfirst := Recipe.parse_eq_ok_iff_stripped t (p.index i)
      rw [strippedItems, List.map_cons, List.map_cons, recipesFrom_cons_eq_ok_iff,
        recipesFrom_cons_eq_ok_iff]
      constructor
      · rintro ⟨r, later, hr, hlater, rfl⟩
        obtain ⟨hr', ht⟩ := (hfirst r).1 hr
        obtain ⟨hlater', heach⟩ := (ih _ later).1 hlater
        exact ⟨⟨r, later, hr', hlater', rfl⟩, List.forall_mem_cons.2 ⟨ht, heach⟩⟩
      · rintro ⟨⟨r, later, hr, hlater, rfl⟩, heach⟩
        obtain ⟨ht, heach⟩ := List.forall_mem_cons.1 heach
        exact ⟨r, later, (hfirst r).2 ⟨hr, ht⟩, (ih _ later).2 ⟨hlater, heach⟩, rfl⟩

/-- Validations are taken as they stand, and each of them is a recipe of its own. -/
theorem parsesValidations_iff_stripped {entries : List (Tree × Tree)}
    (distinct : DistinctKeys entries) {p : Position} {recipes : List Recipe} :
    ParsesValidations p entries recipes ↔
      ParsesValidations p (strippedEntries entries) recipes ∧
        Bare entries Recipe.validationsKey ∧
        ∀ items, (.string Recipe.validationsKey, .seq items) ∈ entries →
          ∀ u ∈ items, u.RecipesBare := by
  constructor
  · intro h
    cases h with
    | absent free =>
        refine ⟨.absent fun t' hmem' => ?_, fun t hmem => absurd hmem (free t), ?_⟩
        · obtain ⟨t, hmem, -⟩ := mem_strippedEntries_iff.1 hmem'
          exact free t hmem
        · exact fun items found => absurd found (free _)
    | null found =>
        refine ⟨.null (mem_strippedEntries found), fun t hmem => ?_, fun items found' => ?_⟩
        · rw [distinct.eq_of_text hmem found]
          exact id
        · cases distinct.eq_of_text found' found
    | @list items _ found parses =>
        obtain ⟨hparses, hbare⟩ := (recipesFrom_iff_stripped _ _ _).1 parses
        refine ⟨.list (mem_strippedEntries found) hparses, fun t hmem => ?_, ?_⟩
        · rw [distinct.eq_of_text hmem found]
          exact id
        · intro items' found'
          cases distinct.eq_of_text found' found
          exact hbare
  · rintro ⟨h, bare, hbare⟩
    cases h with
    | absent free => exact .absent fun t hmem => free t.stripped (mem_strippedEntries hmem)
    | null found =>
        obtain ⟨t, hmem, heq⟩ := mem_strippedEntries_iff.1 found
        rw [eq_of_stripped_eq_null (bare t hmem) heq.symm] at hmem
        exact .null hmem
    | list found parses =>
        obtain ⟨t, hmem, heq⟩ := mem_strippedEntries_iff.1 found
        obtain ⟨items, rfl, rfl⟩ := exists_of_stripped_eq_seq (bare t hmem) heq.symm
        exact .list hmem ((recipesFrom_iff_stripped _ _ _).2 ⟨parses, hbare items hmem⟩)

theorem DatasetEntry.parse_eq_ok_iff_stripped (name : String) (t : Tree) (entry : DatasetEntry) :
    DatasetEntry.parse name t = .ok entry ↔
      DatasetEntry.parse name t.stripped = .ok entry ∧ t.RecipesBare ∧ t.ValidationsBare := by
  have hvalues (found : List (Tree × Tree)) :
      ∀ args k u, (.string Recipe.argsKey, .map args) ∈ found → (k, u) ∈ args → ∀ p n,
        Node.parse u p = .ok n ↔ Node.parse u.stripped p = .ok n ∧ u.RecipesBare :=
    fun args k u _ _ => DataCatalog.parse_eq_ok_iff_stripped u
  unfold DatasetEntry.parse
  rw [dataset_eq_ok_iff, dataset_eq_ok_iff]
  constructor
  · rintro ⟨entries, hentries, hsource, hvalidations⟩
    obtain ⟨hvalidations', hbare⟩ := (parsesValidations_iff_stripped hsource.keys).1 hvalidations
    obtain ⟨s, hname, -⟩ := hsource.name
    obtain ⟨hsource', hrecipe⟩ := (parsesRecipe_iff_stripped (hvalues entries)).1 hsource
    refine ⟨⟨strippedEntries entries, exists_untagged_map_iff.2 ⟨entries, hentries, rfl⟩, hsource',
      hvalidations'⟩, ?_, ?_⟩
    · rw [← recipesBare_untagged_iff, hentries]
      exact (recipesBare_recipe_iff hname).2 hrecipe
    · intro entries' hentries'
      rw [hentries] at hentries'
      cases hentries'
      exact hbare
  · rintro ⟨⟨entries', hentries', hsource, hvalidations⟩, hrecipes, hbare⟩
    obtain ⟨entries, hentries, rfl⟩ := exists_untagged_map_iff.1 hentries'
    have distinct := distinctKeys_strippedEntries_iff.1 hsource.keys
    obtain ⟨s, hname', -⟩ := hsource.name
    obtain ⟨callable, hname, -⟩ := mem_strippedEntries_iff.1 hname'
    rw [← recipesBare_untagged_iff, hentries, recipesBare_recipe_iff hname] at hrecipes
    refine ⟨entries, hentries, ?_, ?_⟩
    · exact (parsesRecipe_iff_stripped (hvalues entries)).2 ⟨hsource, hrecipes⟩
    · exact (parsesValidations_iff_stripped distinct).2 ⟨hvalidations, hbare entries hentries⟩

/-- Tags are looked through but in three places.  A document is read as a configuration, a recipe or
a dataset exactly when it is read as the same without its tags and none of them stands on the
callable of a recipe, on its arguments or on the validations of a dataset. -/
theorem tags_looked_through (t : Tree) (p : Position) (name : String) :
    (∀ n, Node.parse t p = .ok n ↔ Node.parse t.stripped p = .ok n ∧ t.RecipesBare) ∧
      (∀ r, Recipe.parse t p = .ok r ↔ Recipe.parse t.stripped p = .ok r ∧ t.RecipesBare) ∧
      ∀ entry, DatasetEntry.parse name t = .ok entry ↔
        DatasetEntry.parse name t.stripped = .ok entry ∧ t.RecipesBare ∧ t.ValidationsBare :=
  ⟨parse_eq_ok_iff_stripped t p, Recipe.parse_eq_ok_iff_stripped t p,
    DatasetEntry.parse_eq_ok_iff_stripped name t⟩

/-- A tag on a callable is not looked through. -/
theorem tagged_callable_refused :
    let t : Tree := .map [(.string "callable", .tagged "!name" (.string "pkg.make"))]
    Node.parse t Position.root =
        .error ⟨Position.root.key "callable", .callableNotText⟩ ∧
      Node.parse t.stripped Position.root = .ok (.recipe "pkg.make" []) :=
  ⟨rfl, rfl⟩

end DataCatalog
