import DataCatalog.Error
import DataCatalog.Proofs.DocumentSlots
import DataCatalog.Proofs.KeyEquality
import DataCatalog.Proofs.Tags

/-!
# Where a malformed document is reported

An error of the parser names a position and a rule.  `reported_in_place` says that the position,
less the one at which the document was parsed, leads to a part of the document that breaks the rule.
There is one lemma for each function of the parser; an error that comes from a part is located in
the part first, and then one step further up.
-/

set_option autoImplicit false

namespace DataCatalog

/-! ## Errors of the parser -/

namespace Outline

open DataCatalog.Tree

/-- Keys are at fault when one of them has no text, or one has a text that is taken already: by what
was collected before, or by another key. -/
theorem of_collect_eq_error {acc : Entries Outline} {raw : List (Tree × Outline)}
    {fault : KeyFault} (h : collect acc raw = .error fault) :
    (fault = .notScalar ∧ ∃ entry ∈ raw, ¬entry.1.IsScalar) ∨
      ∃ key, fault = .duplicate key ∧
        (List.Duplicate (some key) (raw.map fun entry => entry.1.keyText?) ∨
          Entries.has key acc = true ∧ some key ∈ raw.map fun entry => entry.1.keyText?) := by
  induction raw generalizing acc with
  | nil => cases h
  | cons head rest ih =>
      obtain ⟨k, o⟩ := head
      rw [collect] at h
      cases hk : k.keyText? with
      | none =>
          rw [hk] at h
          cases h
          refine .inl ⟨rfl, (k, o), List.mem_cons_self, fun scalar => ?_⟩
          obtain ⟨name, hname⟩ := exists_keyText?_iff.2 scalar
          rw [hk] at hname
          cases hname
      | some key =>
          simp only [hk] at h
          rw [List.map_cons, hk]
          split at h
          · rename_i htaken
            cases h
            exact .inr ⟨key, rfl, .inr ⟨htaken, List.mem_cons_self⟩⟩
          · rcases ih h with ⟨rfl, entry, hmem, hentry⟩ | ⟨other, rfl, htwice | ⟨htaken, hmem⟩⟩
            · exact .inl ⟨rfl, entry, List.mem_cons_of_mem _ hmem, hentry⟩
            · exact .inr ⟨other, rfl, .inl (htwice.duplicate_cons _)⟩
            · -- taken by the key at hand or before it
              rw [Entries.has_put, Bool.or_eq_true, decide_eq_true_iff] at htaken
              rcases htaken with rfl | htaken
              · exact .inr ⟨key, rfl, .inl (List.Mem.duplicate_cons_self hmem)⟩
              · exact .inr ⟨other, rfl, .inr ⟨htaken, List.mem_cons_of_mem _ hmem⟩⟩

/-- The keys without a meaning are found in the document, in the order of their texts. -/
theorem mem_unknownKeys_iff {allowed : List String} {entries : List (Tree × Tree)}
    {collected : Entries Outline} (hcollects : Collects entries collected) {k : String} :
    k ∈ unknownKeys allowed collected ↔
      ¬(k = Recipe.callableKey ∨ k = Recipe.argsKey ∨ k ∈ allowed) ∧
        ∃ entry ∈ entries, entry.1.keyText? = some k := by
  have hkeys : k ∈ Entries.keys collected ↔ ∃ entry ∈ entries, entry.1.keyText? = some k := by
    have hperm := hcollects.keys_perm.mem_iff (a := some k)
    simpa [Entries.keys] using hperm.symm
  rw [unknownKeys, List.mem_filter, hkeys, and_comm]
  simp [and_assoc]

theorem ordered_unknownKeys (allowed : List String) {entries : Entries Outline}
    (ordered : Entries.Ordered entries) : (unknownKeys allowed entries).Pairwise (· < ·) :=
  (Entries.ordered_iff_keys.1 ordered).filter _

/-- A document that is no mapping under its tags has an outline of another kind. -/
theorem mapping?_eq_none {t : Tree} (hmap : ∀ collected, (ofTree t).untagged ≠ .map collected)
    (hfaulty : ∀ fault, (ofTree t).untagged ≠ .faulty fault) : t.mapping? = none := by
  rw [untagged_ofTree] at hmap hfaulty
  rw [mapping?]
  split
  · rename_i entries hentries
    rw [hentries, ofTree, ofEntries] at hmap hfaulty
    cases hcollect : collect [] (ofTreeEntries entries) with
    | error fault => exact absurd (by rw [hcollect]) (hfaulty fault)
    | ok collected => exact absurd (by rw [hcollect]) (hmap collected)
  · rfl

/-- A mapping under tags whose outline is faulty has faulty keys. -/
theorem exists_fault_of_untagged {t : Tree} {fault : KeyFault}
    (h : (ofTree t).untagged = .faulty fault) :
    ∃ entries, t.mapping? = some entries ∧ collect [] (ofTreeEntries entries) = .error fault := by
  rw [untagged_ofTree] at h
  cases hshape : t.untagged with
  | map entries =>
      rw [hshape, ofTree, ofEntries] at h
      split at h
      · cases h
      · rename_i found hfound
        cases h
        exact ⟨entries, by rw [mapping?, hshape], hfound⟩
  | _ =>
      rw [hshape] at h
      cases h

theorem exists_collects_of_untagged {t : Tree} {collected : Entries Outline}
    (h : (ofTree t).untagged = .map collected) :
    ∃ entries, t.mapping? = some entries ∧ Collects entries collected := by
  rw [untagged_ofTree] at h
  obtain ⟨entries, hentries, hcollects⟩ := ofTree_eq_map h
  exact ⟨entries, by rw [mapping?, hentries], hcollects⟩

end Outline

/-! ## Errors lead to what is malformed -/

namespace Slot

open DataCatalog.Tree Outline

section Entries

variable {slot : Slot} {t : Tree} {entries : List (Tree × Tree)}
  (shape : slot.entries? t = some entries)

include shape

theorem breaks_of_fault {fault : KeyFault}
    (h : collect [] (ofTreeEntries entries) = .error fault) : slot.Breaks t fault.malformation := by
  have htexts : ((ofTreeEntries entries).map fun entry => entry.1.keyText?) =
      entries.map fun entry => entry.1.keyText? := by
    rw [ofTreeEntries_eq_map, List.map_map]
    rfl
  rcases of_collect_eq_error h with ⟨rfl, ⟨k, o⟩, hmem, hk⟩ | ⟨key, rfl, htwice | ⟨htaken, -⟩⟩
  · rw [ofTreeEntries_eq_map] at hmem
    obtain ⟨entry, hentry, heq⟩ := List.mem_map.1 hmem
    cases heq
    exact .keyNotScalar shape ⟨entry, hentry, hk⟩
  · rw [htexts] at htwice
    exact .duplicateKey shape htwice
  · cases htaken

variable {collected : Entries Outline} (hcollects : Collects entries collected)

include hcollects

/-- An error in an entry of data is an error in its value. -/
theorem locates_of_entryNodes {e : Malformed} (data : slot.isRecipe entries = false)
    (hvalues : ∀ k u, (k, u) ∈ entries → ∀ e, Node.parse u Position.root = .error e →
      Slot.value.Locates u e)
    (h : entryNodes Position.root collected = .error e) : slot.Locates t e := by
  obtain ⟨name, o, hmem, hnode⟩ := of_entryNodes_eq_error h
  obtain ⟨k, u, hentry, hk, rfl⟩ := hcollects.mem_iff.1 hmem
  exact .of_part hnode (node_append [.key name] Position.root (ofTree u)) (hvalues k u hentry)
    (below_of_data shape data name) (child?_of_entries? shape hcollects.distinct hentry hk)

/-- An error in the head of a recipe is at the recipe or at its callable. -/
theorem locates_of_recipeHead {e : Malformed} {allowed : List String}
    (recipe : slot.isRecipe entries = true)
    (hkeys : ∀ k, k ∈ slot.keys ↔ k = Recipe.callableKey ∨ k = Recipe.argsKey ∨ k ∈ allowed)
    (h : recipeHead Position.root allowed collected = .error e) : slot.Locates t e := by
  rcases recipeHead_eq_error h with hname | ⟨callable, hname, hunknown, rfl⟩
  · rcases callableName_eq_error hname with ⟨hget, rfl⟩ | ⟨o, hget, hblank, rfl⟩
    · exact .here (.callableMissing shape recipe
        ((hcollects.get?_word_eq_none_iff isWord_callableKey).1 hget))
    · obtain ⟨u, hentry, rfl⟩ := (hcollects.get?_word_iff isWord_callableKey).1 hget
      have hbreaks : Slot.callable.Breaks u .callableNotText :=
        .callableNotText fun s hs => hblank s (hs ▸ rfl)
      exact (Locates.here hbreaks).step (below_of_recipe shape recipe _)
        (child?_of_entries? shape hcollects.distinct hentry rfl)
  · obtain ⟨s, hget, -, rfl⟩ := callableName_eq_ok_iff.1 hname
    obtain ⟨u, hentry, hu⟩ := (hcollects.get?_word_iff isWord_callableKey).1 hget
    obtain rfl := ofTree_eq_string_iff.1 hu.symm
    refine .here (.unknownKeys shape recipe hentry ?_ (ordered_unknownKeys _ hcollects.ordered)
      hunknown)
    intro k
    rw [hkeys, mem_unknownKeys_iff hcollects]

end Entries

/-- An error in arguments is at the arguments or in one of their values. -/
theorem locates_of_argsOf {t : Tree} {e : Malformed}
    (hvalues : ∀ args k u, t = .map args → (k, u) ∈ args → ∀ e,
      Node.parse u Position.root = .error e → Slot.value.Locates u e)
    (h : argsOf Position.root (ofTree t) = .error e) : Slot.arguments.Locates t e := by
  cases t with
  | null => cases h
  | map args =>
      rw [ofTree, ofEntries] at h
      cases hcollect : collect [] (ofTreeEntries args) with
      | error fault =>
          rw [hcollect] at h
          cases h
          exact .here (breaks_of_fault rfl hcollect)
      | ok collected =>
          rw [hcollect] at h
          exact locates_of_entryNodes rfl hcollect rfl
            (fun k u hmem => hvalues args k u rfl hmem) h
  | _ =>
      cases h
      exact .here (.argsNotMapping (fun heq => by cases heq) fun entries heq => by cases heq)

/-- An error in a recipe is in its head or in its arguments. -/
theorem locates_of_recipe {slot : Slot} {t : Tree} {entries : List (Tree × Tree)}
    (shape : slot.entries? t = some entries) {collected : Entries Outline}
    (hcollects : Collects entries collected) {allowed : List String} {e : Malformed}
    (isRecipe : slot.isRecipe entries = true)
    (hkeys : ∀ k, k ∈ slot.keys ↔ k = Recipe.callableKey ∨ k = Recipe.argsKey ∨ k ∈ allowed)
    (hvalues : ∀ args k u, (.string Recipe.argsKey, .map args) ∈ entries → (k, u) ∈ args → ∀ e,
      Node.parse u Position.root = .error e → Slot.value.Locates u e)
    (h : Outline.recipe Position.root allowed collected = .error e) : slot.Locates t e := by
  rw [recipe_eq] at h
  rcases bind_eq_error_iff.1 h with hhead | ⟨callable, -, hargs⟩
  · exact locates_of_recipeHead shape hcollects isRecipe hkeys hhead
  · rw [map_eq_error_iff, argsIn_eq] at hargs
    cases hget : Entries.get? Recipe.argsKey collected with
    | none =>
        rw [hget] at hargs
        cases hargs
    | some o =>
        rw [hget] at hargs
        obtain ⟨u, hentry, rfl⟩ := (hcollects.get?_word_iff isWord_argsKey).1 hget
        have hlocates : ∀ inner, argsOf Position.root (ofTree u) = .error inner →
            Slot.arguments.Locates u inner := fun inner =>
          locates_of_argsOf fun args k v hu hmem => hvalues args k v (hu ▸ hentry) hmem
        exact .of_part hargs (argsOf_append [.key Recipe.argsKey] Position.root (ofTree u)) hlocates
          (below_of_recipe shape isRecipe _)
          (child?_of_entries? shape hcollects.distinct hentry rfl)

/-- A mapping is taken for a recipe where the parser finds its callable. -/
theorem isRecipe_value {entries : List (Tree × Tree)} {collected : Entries Outline}
    (hcollects : Collects entries collected) :
    Slot.value.isRecipe entries = Entries.has Recipe.callableKey collected := by
  rw [Bool.eq_iff_iff, Entries.has_eq_isSome_get?, Option.isSome_iff_exists]
  simp only [isRecipe, hasKey, List.any_eq_true, same_string_iff,
    hcollects.get?_word_iff isWord_callableKey]
  constructor
  · rintro ⟨⟨k, v⟩, hmem, rfl⟩
    exact ⟨ofTree v, v, hmem, rfl⟩
  · rintro ⟨_, v, hmem, -⟩
    exact ⟨(_, v), hmem, rfl⟩

theorem exists_callable_of_isRecipe {entries : List (Tree × Tree)}
    (h : Slot.value.isRecipe entries = true) :
    ∃ callable, (.string Recipe.callableKey, callable) ∈ entries := by
  obtain ⟨⟨k, v⟩, hmem, hsame⟩ := List.any_eq_true.1 h
  obtain rfl := eq_string_of_same hsame
  exact ⟨v, hmem⟩

/-- An error in a mapping is at its keys, in its values, or in the recipe that it is. -/
theorem locates_of_map {entries : List (Tree × Tree)} {e : Malformed}
    (hparts : ∀ u, Child (.map entries) u → ∀ e, Node.parse u Position.root = .error e →
      Slot.value.Locates u e)
    (h : Node.parse (.map entries) Position.root = .error e) :
    Slot.value.Locates (.map entries) e := by
  rw [Node.parse, ofTree, ofEntries] at h
  cases hcollect : collect [] (ofTreeEntries entries) with
  | error fault =>
      rw [hcollect] at h
      cases h
      exact .here (breaks_of_fault rfl hcollect)
  | ok collected =>
      simp only [hcollect, node_map, ← isRecipe_value hcollect] at h
      split at h
      · -- a recipe: the values in its arguments are its parts
        rename_i hrecipe
        obtain ⟨callable, hcallable⟩ := exists_callable_of_isRecipe hrecipe
        apply locates_of_recipe rfl hcollect hrecipe _ _ (map_eq_error_iff.1 h)
        · intro k
          simp [keys]
        · intro args k u found hmem
          exact hparts u (.argument hcallable found hmem)
      · -- data: the values under its keys are its parts
        rename_i hdata
        have hfree : ∀ v, (.string Recipe.callableKey, v) ∉ entries := by
          intro v hmem
          exact hdata (List.any_eq_true.2 ⟨_, hmem, same_string_iff.2 rfl⟩)
        apply locates_of_entryNodes rfl hcollect (Bool.not_eq_true _ ▸ hdata) _
          (map_eq_error_iff.1 h)
        intro k u hmem
        exact hparts u (.value hfree hmem)

/-- An error in a value is somewhere in it. -/
theorem locates_of_parse (t : Tree) :
    ∀ e, Node.parse t Position.root = .error e → Slot.value.Locates t e := by
  -- the induction is on what stands in a value, so that the arguments of a recipe can be assumed
  -- to be done when the recipe is met
  induction t using child_induction with
  | step t ih =>
      intro e h
      cases t with
      | int i =>
          rw [Node.parse, ofTree, node] at h
          cases hi : int64? i with
          | some n =>
              rw [hi] at h
              cases h
          | none =>
              rw [hi] at h
              cases h
              have hnot : ¬(Int64.minValue.toInt ≤ i ∧ i ≤ Int64.maxValue.toInt) := by
                rw [← exists_int64?_iff]
                rintro ⟨n, hn⟩
                rw [hi] at hn
                cases hn
              exact .here (.integerRange rfl (by omega))
      | tagged tag value => exact (ih value .tagged e h).tagged
      | seq items =>
          have hitems : itemNodes Position.root 0 (ofTrees items) = .error e := by
            rwa [Node.parse, ofTree, node_seq, map_eq_error_iff] at h
          obtain ⟨j, o, hj, hnode⟩ := of_itemNodes_eq_error hitems
          rw [ofTrees_eq_map, List.getElem?_map] at hj
          obtain ⟨u, hu, rfl⟩ := Option.map_eq_some_iff.1 hj
          rw [Nat.zero_add] at hnode
          exact .of_part hnode (node_append [.index j] Position.root (ofTree u))
            (ih u (.item (List.mem_of_getElem? hu))) rfl hu
      | map entries => exact locates_of_map ih h
      | _ => cases h

/-- An error in a recipe that stands alone is at the recipe or somewhere in it. -/
theorem locates_of_recipeOnly {t : Tree} {e : Malformed}
    (h : recipeOnly Position.root (ofTree t) = .error e) : Slot.recipe.Locates t e := by
  rw [recipeOnly] at h
  split at h
  · rename_i collected hmap
    obtain ⟨entries, hentries, hcollects⟩ := exists_collects_of_untagged hmap
    have shape : Slot.recipe.entries? t = some entries := hentries
    apply locates_of_recipe shape hcollects rfl _ _ h
    · intro k
      simp [keys]
    · exact fun args k u _ _ => locates_of_parse u
  · rename_i fault hfault
    obtain ⟨entries, hentries, hcollect⟩ := exists_fault_of_untagged hfault
    have shape : Slot.recipe.entries? t = some entries := hentries
    cases h
    exact .here (breaks_of_fault shape hcollect)
  · rename_i hmap hfaulty
    cases h
    exact .here (.recipeNotMapping (mapping?_eq_none hmap hfaulty))

/-- An error in a list of validations is in one of them. -/
theorem locates_of_recipesFrom {items : List Tree} {e : Malformed}
    (h : recipesFrom Position.root 0 (items.map ofTree) = .error e) :
    Slot.validations.Locates (.seq items) e := by
  obtain ⟨j, o, hj, hrecipe⟩ := of_recipesFrom_eq_error h
  rw [List.getElem?_map] at hj
  obtain ⟨u, hu, rfl⟩ := Option.map_eq_some_iff.1 hj
  rw [Nat.zero_add] at hrecipe
  exact .of_part hrecipe (recipeOnly_append [.index j] Position.root (ofTree u))
    (fun _ => locates_of_recipeOnly) rfl hu

/-- An error in the validations of a dataset is at their list or in one of them. -/
theorem locates_of_validations {t : Tree} {entries : List (Tree × Tree)}
    (shape : Slot.dataset.entries? t = some entries) {collected : Entries Outline}
    (hcollects : Collects entries collected) {e : Malformed}
    (h : Outline.validations Position.root collected = .error e) : Slot.dataset.Locates t e := by
  have hbelow : Slot.dataset.below t (.key Recipe.validationsKey) = some .validations := by
    rw [below_of_recipe shape rfl]
    decide
  have hfind {o : Outline} (hget : Entries.get? Recipe.validationsKey collected = some o) :
      ∃ u, t.child? (.key Recipe.validationsKey) = some u ∧ o = ofTree u := by
    obtain ⟨u, hmem, ho⟩ := (hcollects.get?_word_iff isWord_validationsKey).1 hget
    exact ⟨u, child?_of_entries? shape hcollects.distinct hmem rfl, ho⟩
  rw [Outline.validations] at h
  split at h
  · cases h
  · cases h
  · rename_i items hget
    obtain ⟨u, hchild, hu⟩ := hfind hget
    obtain ⟨elements, rfl, rfl⟩ := ofTree_eq_seq hu.symm
    exact .of_part h (recipesFrom_append [.key Recipe.validationsKey] Position.root 0 _)
      (fun _ => locates_of_recipesFrom) hbelow hchild
  · rename_i o hnull hseq hget
    cases h
    obtain ⟨u, hchild, rfl⟩ := hfind hget
    have hbreaks : Slot.validations.Breaks u .validationsNotList := by
      apply Breaks.validationsNotList
      · rintro rfl
        exact hnull rfl
      · rintro items rfl
        exact hseq _ rfl
    exact (Locates.here hbreaks).step hbelow hchild

/-- An error in a dataset is at the dataset, in its validations or in its source. -/
theorem locates_of_dataset {t : Tree} {e : Malformed}
    (h : Outline.dataset Position.root (ofTree t) = .error e) : Slot.dataset.Locates t e := by
  cases hshape : (ofTree t).untagged with
  | map collected =>
      obtain ⟨entries, hentries, hcollects⟩ := exists_collects_of_untagged hshape
      have shape : Slot.dataset.entries? t = some entries := hentries
      rw [dataset_of_map _ hshape] at h
      rcases bind_eq_error_iff.1 h with hvalidations | ⟨recipes, -, hsource⟩
      · exact locates_of_validations shape hcollects hvalidations
      · apply locates_of_recipe shape hcollects rfl _ _ (map_eq_error_iff.1 hsource)
        · intro k
          simp [keys]
        · exact fun args k u _ _ => locates_of_parse u
  | faulty fault =>
      obtain ⟨entries, hentries, hcollect⟩ := exists_fault_of_untagged hshape
      have shape : Slot.dataset.entries? t = some entries := hentries
      simp only [Outline.dataset, hshape] at h
      cases h
      exact .here (breaks_of_fault shape hcollect)
  | _ =>
      have hnone : t.mapping? = none := mapping?_eq_none
        (fun collected heq => by rw [hshape] at heq; cases heq)
        fun fault heq => by rw [hshape] at heq; cases heq
      simp only [Outline.dataset, hshape] at h
      cases h
      exact .here (.datasetNotMapping hnone)

end Slot

/-- A document is read wherever it stands, or it is malformed: then there are a rule and a part of
it, the same for all places, such that the part breaks the rule and every error names, and shows,
the position of the part below the place of the document. -/
def ReportsInPlace {ι α : Type} (slot : Slot) (t : Tree) (place : ι → Position)
    (parse : ι → Except Malformed α) : Prop :=
  (∃ a, ∀ i, parse i = .ok a) ∨
    ∃ q rule part u,
      (∀ i, parse i = .error ⟨place i ++ q, rule⟩ ∧
        (CatalogError.malformed ⟨place i ++ q, rule⟩).message =
          "Malformed configuration at " ++ Position.display (place i ++ q) ++ ": " ++
            rule.reason) ∧
        slot.descend t q = some (part, u) ∧ t.follow q = some u ∧ part.Breaks u rule

theorem reportsInPlace_of_locates {ι α : Type} {slot : Slot} {t : Tree} {place : ι → Position}
    {parse : ι → Except Malformed α} {x : Except Malformed α}
    (hrelocate : ∀ i, parse i = x.mapError (.under (place i)))
    (hlocates : ∀ e, x = .error e → slot.Locates t e) : ReportsInPlace slot t place parse := by
  cases hx : x with
  | ok a =>
      refine .inl ⟨a, fun i => ?_⟩
      rw [hrelocate, hx]
      rfl
  | error e =>
      obtain ⟨part, u, hdescend, hbreaks⟩ := hlocates e hx
      refine .inr ⟨e.position, e.rule, part, u, fun i => ⟨?_, rfl⟩, hdescend,
        Slot.follow_of_descend hdescend, hbreaks⟩
      rw [hrelocate, hx]
      rfl

/-- A malformed configuration is reported where it is.  When a document is not read, the error names
the position of a part that breaks the rule of the error, and neither the part nor the rule depends
on where the document stands.  For a dataset this is its name. -/
theorem reported_in_place (t : Tree) :
    ReportsInPlace .value t id (Node.parse t) ∧
      ReportsInPlace .recipe t id (Recipe.parse t) ∧
      ReportsInPlace .dataset t Position.root.key fun name => DatasetEntry.parse name t := by
  refine ⟨?_, ?_, ?_⟩
  · exact reportsInPlace_of_locates (Node.parse_relocate t) (Slot.locates_of_parse t)
  · exact reportsInPlace_of_locates (Recipe.parse_relocate t) fun _ h =>
      Slot.locates_of_recipeOnly h
  · exact reportsInPlace_of_locates (fun name => DatasetEntry.parse_relocate name t) fun _ h =>
      Slot.locates_of_dataset h

/-- The name of a validator is no text: the error of the dataset leads to it. -/
example :
    let t : Tree := .map [(.string "callable", .string "pkg.make"),
      (.string "validations", .seq [.map [(.string "callable", .int 1)]])]
    let q : Position := [.key "validations", .index 0, .key "callable"]
    DatasetEntry.parse "d" t = .error ⟨.key "d" :: q, .callableNotText⟩ ∧
      Slot.dataset.descend t q = some (.callable, .int 1) :=
  ⟨rfl, rfl⟩

end DataCatalog
