import DataCatalog.Catalog
import DataCatalog.Proofs.BottomUp
import DataCatalog.Proofs.Grammar

/-!
# Positions in a document

`Tree.follow` takes a position down a document: a key leads to the value under the first key with
its text, an index to an element, and tags are passed over.  `names_of_mem_recipes` says that the
positions at which the recipes of a configuration are built lead, in the document that the
configuration was read from, to the mappings that name their callables; `reads_of_dataset` and
`dataset_of_entry?` say from which parts of a document the recipes of a dataset are read.
-/

set_option autoImplicit false

namespace DataCatalog

namespace Tree

/-- The value under the first key with a text; tags on keys are passed over. -/
def valueNamed? (name : String) : List (Tree × Tree) → Option Tree
  | [] => none
  | (k, t) :: rest => if k.untagged.keyText? = some name then some t else valueNamed? name rest

/-- One step down a document, under any number of tags. -/
def child? (t : Tree) : Step → Option Tree
  | .key name =>
      match t.untagged with
      | .map entries => valueNamed? name entries
      | _ => none
  | .index i =>
      match t.untagged with
      | .seq items => items[i]?
      | _ => none

/-- The value that a position leads to. -/
def follow (t : Tree) : Position → Option Tree
  | [] => some t
  | step :: rest => (t.child? step).bind fun u => u.follow rest

theorem follow_cons {t u : Tree} {step : Step} (h : t.child? step = some u) (rest : Position) :
    t.follow (step :: rest) = u.follow rest := by
  show (t.child? step).bind (fun v => v.follow rest) = u.follow rest
  rw [h]
  rfl

theorem untagged_of_isScalar {k : Tree} (h : k.IsScalar) : k.untagged = k := by
  cases k with
  | tagged tag value => exact h.elim
  | _ => rfl

/-- Where no two keys have the same text, the value under a text is found. -/
theorem valueNamed?_eq_some {name : String} {entries : List (Tree × Tree)}
    (distinct : entries.Pairwise fun a b => a.1.untagged.keyText? ≠ b.1.untagged.keyText?)
    {k t : Tree} (hmem : (k, t) ∈ entries) (hk : k.untagged.keyText? = some name) :
    valueNamed? name entries = some t := by
  induction entries with
  | nil => cases hmem
  | cons head rest ih =>
      obtain ⟨hhead, hrest⟩ := List.pairwise_cons.1 distinct
      unfold valueNamed?
      rcases List.mem_cons.1 hmem with rfl | hlater
      · exact if_pos hk
      · have hne := hhead (k, t) hlater
        rw [hk] at hne
        rw [if_neg hne]
        exact ih hrest hlater

theorem DistinctKeys.valueNamed? {entries : List (Tree × Tree)} (h : DistinctKeys entries)
    {name : String} {k t : Tree} (hmem : (k, t) ∈ entries) (hk : k.keyText? = some name) :
    valueNamed? name entries = some t := by
  have hscalar := fun entry hentry => untagged_of_isScalar (h.scalar entry hentry)
  refine valueNamed?_eq_some ?_ hmem ?_
  · apply List.Pairwise.imp_of_mem _ h.distinct
    intro a b ha hb hne
    rw [hscalar a ha, hscalar b hb]
    exact hne
  · rw [hscalar (k, t) hmem]
    exact hk

/-- A mapping that is read has distinct keys, each with its entry in what is read. -/
theorem SameKeys.distinct {entries : List (Tree × Tree)} {nodes : Entries Node}
    (h : SameKeys entries nodes) : DistinctKeys entries := by
  refine ⟨?_, ?_⟩
  · intro entry hmem
    have htext := h.perm.mem_iff.1 (List.mem_map.2 ⟨entry, hmem, rfl⟩)
    obtain ⟨node, -, heq⟩ := List.mem_map.1 htext
    exact exists_keyText?_iff.1 ⟨node.1, heq.symm⟩
  · have hnames : (nodes.map fun entry => some entry.1).Nodup := by
      have hkeys := Entries.keys_nodup h.ordered
      have hmap := List.Nodup.map (fun _ _ => Option.some.inj) hkeys
      simpa [Entries.keys, Function.comp_def] using hmap
    have htexts := h.perm.nodup_iff.2 hnames
    rw [List.Nodup, List.pairwise_map] at htexts
    exact htexts

theorem SameKeys.exists_key {entries : List (Tree × Tree)} {nodes : Entries Node}
    (h : SameKeys entries nodes) {name : String} {n : Node} (hmem : (name, n) ∈ nodes) :
    ∃ k t, (k, t) ∈ entries ∧ k.keyText? = some name := by
  have htext := h.perm.mem_iff.2 (List.mem_map.2 ⟨(name, n), hmem, rfl⟩)
  obtain ⟨⟨k, t⟩, hentry, heq⟩ := List.mem_map.1 htext
  exact ⟨k, t, hentry, heq⟩

end Tree

namespace Node

theorem mem_itemRecipes {p q : Position} {r : Recipe} {i : Nat} {items : List Node}
    (h : (q, r) ∈ itemRecipes p i items) :
    ∃ (j : Nat) (n : Node), items[j]? = some n ∧ (q, r) ∈ n.recipes (p.index (i + j)) := by
  induction items generalizing i with
  | nil => simp [itemRecipes] at h
  | cons n rest ih =>
      rcases List.mem_append.1 h with h | h
      · exact ⟨0, n, rfl, h⟩
      · obtain ⟨j, m, hj, hm⟩ := ih h
        have heq : i + 1 + j = i + (j + 1) := by omega
        rw [heq] at hm
        exact ⟨j + 1, m, hj, hm⟩

theorem mem_entryRecipes {p q : Position} {r : Recipe} {entries : Entries Node}
    (h : (q, r) ∈ entryRecipes p entries) :
    ∃ name n, (name, n) ∈ entries ∧ (q, r) ∈ n.recipes (p.key name) := by
  induction entries with
  | nil => simp [entryRecipes] at h
  | cons head rest ih =>
      obtain ⟨k, n⟩ := head
      rcases List.mem_append.1 h with h | h
      · exact ⟨k, n, List.mem_cons_self, h⟩
      · obtain ⟨name, m, hmem, hm⟩ := ih h
        exact ⟨name, m, List.mem_cons_of_mem _ hmem, hm⟩

end Node

namespace Tree

open Node

/-- A position leads to a mapping whose `callable` is a name, but for blanks around it. -/
def Names (t : Tree) (p : Position) (callable : String) : Prop :=
  ∃ s, t.follow (p.key Recipe.callableKey) = some (.string s) ∧ Text.trim s = callable

theorem Names.step {t u : Tree} {step : Step} (h : t.child? step = some u) {p : Position}
    {callable : String} (names : u.Names p callable) : t.Names (step :: p) callable := by
  obtain ⟨s, hfollow, hs⟩ := names
  refine ⟨s, ?_, hs⟩
  show t.follow (step :: (p ++ [.key Recipe.callableKey])) = _
  rw [follow_cons h]
  exact hfollow

theorem Names.tagged {tag : String} {t : Tree} {p : Position} {callable : String}
    (names : t.Names p callable) : (Tree.tagged tag t).Names p callable := by
  obtain ⟨s, hfollow, hs⟩ := names
  refine ⟨s, ?_, hs⟩
  -- the first step goes through the tag
  cases p with
  | nil => exact hfollow
  | cons step rest => exact hfollow

theorem names_root {entries : List (Tree × Tree)} {s : String} (distinct : DistinctKeys entries)
    (hname : (.string Recipe.callableKey, .string s) ∈ entries) :
    (Tree.map entries).Names [] (Text.trim s) := by
  have hchild : (Tree.map entries).child? (.key Recipe.callableKey) = some (.string s) :=
    distinct.valueNamed? hname rfl
  exact ⟨s, follow_cons hchild [], rfl⟩

/-- The recipes of the entries of a mapping are where the mapping has their keys. -/
theorem names_of_mem_entryRecipes {entries : List (Tree × Tree)} {nodes : Entries Node}
    (keys : SameKeys entries nodes) {p q : Position} {r : Recipe}
    (hmem : (q, r) ∈ entryRecipes p nodes)
    (each : ∀ k t name n, (k, t) ∈ entries → k.keyText? = some name → (name, n) ∈ nodes →
      ∀ p, (q, r) ∈ n.recipes p → ∃ d, q = p ++ d ∧ t.Names d r.callable) :
    ∃ d, q = p ++ d ∧ (Tree.map entries).Names d r.callable := by
  obtain ⟨name, n, hnode, hrecipe⟩ := mem_entryRecipes hmem
  obtain ⟨k, t, hentry, hk⟩ := keys.exists_key hnode
  obtain ⟨d, rfl, hd⟩ := each k t name n hentry hk hnode (p.key name) hrecipe
  have hchild : (Tree.map entries).child? (.key name) = some t :=
    keys.distinct.valueNamed? hentry hk
  exact ⟨.key name :: d, List.append_assoc _ _ _, hd.step hchild⟩

/-- The position at which a recipe is built leads to its mapping in the document. -/
theorem names_of_mem_recipes {t : Tree} {n : Node} (h : t.Reads n) {q : Position} {r : Recipe} :
    ∀ p, (q, r) ∈ n.recipes p → ∃ d, q = p ++ d ∧ t.Names d r.callable := by
  induction h with
  | null => exact fun p hmem => by simp [recipes] at hmem
  | bool b => exact fun p hmem => by simp [recipes] at hmem
  | int same => exact fun p hmem => by simp [recipes] at hmem
  | float x => exact fun p hmem => by simp [recipes] at hmem
  | string s => exact fun p hmem => by simp [recipes] at hmem
  | tagged value ih =>
      intro p hmem
      obtain ⟨d, hq, hd⟩ := ih p hmem
      exact ⟨d, hq, hd.tagged⟩
  | @seq items nodes length each ih =>
      intro p hmem
      obtain ⟨j, n, hn, hrecipe⟩ := mem_itemRecipes hmem
      rw [Nat.zero_add] at hrecipe
      -- the element of the same index is where the node was read from
      have hj : j < items.length := by
        rw [← length]
        exact (List.getElem?_eq_some_iff.1 hn).1
      have hitem : items[j]? = some items[j] := List.getElem?_eq_getElem hj
      obtain ⟨d, rfl, hd⟩ := ih j items[j] n hitem hn (p.index j) hrecipe
      have hchild : (Tree.seq items).child? (.index j) = some items[j] := hitem
      exact ⟨.index j :: d, List.append_assoc _ _ _, hd.step hchild⟩
  | map data keys each ih =>
      intro p hmem
      exact names_of_mem_entryRecipes keys hmem ih
  | recipe distinct name none =>
      intro p hmem
      simp only [recipes, entryRecipes, List.nil_append, List.mem_singleton] at hmem
      cases hmem
      exact ⟨[], (List.append_nil _).symm, names_root distinct name⟩
  | @recipeWith entries args s nodes distinct name found keys each ih =>
      intro p hmem
      rcases List.mem_append.1 hmem with hmem | hmem
      · -- among the arguments, one step further down
        obtain ⟨d, rfl, hd⟩ := names_of_mem_entryRecipes keys hmem ih
        have hchild : (Tree.map entries).child? (.key Recipe.argsKey) = some (.map args) :=
          distinct.valueNamed? found rfl
        exact ⟨.key Recipe.argsKey :: d, List.append_assoc _ _ _, hd.step hchild⟩
      · cases List.mem_singleton.1 hmem
        exact ⟨[], (List.append_nil _).symm, names_root distinct name⟩

/-! ## Datasets of a document -/

theorem Reads.of_untagged {t : Tree} {n : Node} (h : t.untagged.Reads n) : t.Reads n := by
  induction t using Tree.untagged.induct with
  | case1 tag value ih => exact .tagged (ih h)
  | case2 t hnot =>
      cases t with
      | tagged tag value => exact absurd rfl (hnot tag value)
      | _ => exact h

theorem untagged_untagged (t : Tree) : t.untagged.untagged = t.untagged := by
  induction t using Tree.untagged.induct with
  | case1 tag value ih => exact ih
  | case2 t hnot =>
      cases t with
      | tagged tag value => exact absurd rfl (hnot tag value)
      | _ => rfl

theorem child?_untagged (t : Tree) (step : Step) : t.untagged.child? step = t.child? step := by
  unfold child?
  rw [untagged_untagged]

/-- The source of a dataset says what the dataset's mapping says, and every validator what the
mapping at its place among the validations says. -/
theorem reads_of_dataset {name : String} {t : Tree} {entry : DatasetEntry}
    (h : DatasetEntry.parse name t = .ok entry) :
    t.Reads entry.source.node ∧ ∀ i r, entry.validations[i]? = some r →
      ∃ list u, t.child? (.key Recipe.validationsKey) = some list ∧
        list.child? (.index i) = some u ∧ u.Reads r.node := by
  obtain ⟨entries, huntagged, source, validations⟩ := Outline.of_dataset_eq_ok h
  constructor
  · apply Reads.of_untagged
    rw [huntagged]
    exact reads_of_parsesRecipe source fun args k u _ _ => reads_of_parse u
  · intro i r hr
    obtain ⟨items, u, hmem, hu, hparse⟩ := validations i r hr
    refine ⟨.seq items, u, ?_, hu, ?_⟩
    · rw [← child?_untagged, huntagged]
      exact source.keys.valueNamed? hmem rfl
    · obtain ⟨entries', huntagged', hrecipe⟩ := Outline.recipeOnly_eq_ok_iff.1 hparse
      apply Reads.of_untagged
      rw [huntagged']
      exact reads_of_parsesRecipe hrecipe fun args k v _ _ => reads_of_parse v

theorem untagged_of_mapping? {t : Tree} {entries : List (Tree × Tree)}
    (h : t.mapping? = some entries) : t.untagged = .map entries := by
  unfold mapping? at h
  split at h
  · rename_i found hfound
    cases h
    exact hfound
  · cases h

theorem untagged_of_text? {k : Tree} {name : String} (h : k.text? = some name) :
    k.untagged.keyText? = some name := by
  unfold text? at h
  split at h
  · rename_i s hs
    rw [hs]
    exact h
  · cases h

end Tree

namespace Catalog

/-- Every dataset is parsed from a value of the document, under a key with its name. -/
theorem of_parseDatasets {acc datasets : Dict DatasetEntry} {rest : List (Tree × Tree)}
    (h : parseDatasets acc rest = .ok datasets) :
    (∀ entry ∈ rest, ∃ name, entry.1.text? = some name) ∧
      ∀ name entry, datasets.get? name = some entry →
        (∃ k t, (k, t) ∈ rest ∧ k.text? = some name ∧ DatasetEntry.parse name t = .ok entry) ∨
          acc.get? name = some entry := by
  induction rest generalizing acc with
  | nil =>
      cases h
      exact ⟨fun entry hmem => absurd hmem List.not_mem_nil, fun name entry hget => .inr hget⟩
  | cons head rest ih =>
      obtain ⟨k, t⟩ := head
      unfold parseDatasets at h
      split at h
      · cases h
      · rename_i name hname
        split at h
        · cases h
        · rename_i entry hentry
          obtain ⟨htexts, hdatasets⟩ := ih h
          constructor
          · intro other hmem
            rcases List.mem_cons.1 hmem with rfl | hmem
            · exact ⟨name, hname⟩
            · exact htexts other hmem
          · intro other found hget
            -- a dataset comes from further down, or is the one just inserted, or was there before
            rcases hdatasets other found hget with ⟨k', t', hmem, hk', hparse⟩ | hacc
            · exact .inl ⟨k', t', List.mem_cons_of_mem _ hmem, hk', hparse⟩
            · rw [Dict.get?_insert] at hacc
              split at hacc
              · rename_i hsame
                cases hacc
                subst hsame
                exact .inl ⟨k, t, List.mem_cons_self, hname, hentry⟩
              · exact .inr hacc

theorem of_ofDocument {m : Type → Type} {document : Tree} {registry : Registry m} {c : Catalog m}
    (h : ofDocument document registry = .ok c) :
    ∃ entries, document.mapping? = some entries ∧
      parseDatasets Dict.empty entries = .ok c.datasets := by
  unfold ofDocument datasetsOf at h
  cases hmap : document.mapping? with
  | none =>
      rw [hmap] at h
      cases h
  | some entries =>
      rw [hmap] at h
      dsimp only at h
      cases hparse : parseDatasets Dict.empty entries with
      | error e =>
          rw [hparse] at h
          cases h
      | ok datasets =>
          rw [hparse] at h
          cases h
          exact ⟨entries, rfl, hparse⟩

/-- A dataset of a catalog is parsed from the value under its name in the document, where the names
in the document are distinct. -/
theorem dataset_of_entry? {m : Type → Type} {document : Tree} {registry : Registry m}
    {c : Catalog m} (accepted : ofDocument document registry = .ok c)
    (distinct : ∀ entries, document.mapping? = some entries →
      (entries.map fun entry => entry.1.text?).Nodup)
    {name : String} {entry : DatasetEntry} (h : c.entry? name = some entry) :
    ∃ t, document.child? (.key name) = some t ∧ DatasetEntry.parse name t = .ok entry := by
  obtain ⟨entries, hmap, hparse⟩ := of_ofDocument accepted
  obtain ⟨htexts, hdatasets⟩ := of_parseDatasets hparse
  rcases hdatasets name entry h with ⟨k, t, hmem, hk, hentry⟩ | hempty
  · refine ⟨t, ?_, hentry⟩
    unfold Tree.child?
    rw [Tree.untagged_of_mapping? hmap]
    refine Tree.valueNamed?_eq_some ?_ hmem (Tree.untagged_of_text? hk)
    have hnames := distinct entries hmap
    rw [List.Nodup, List.pairwise_map] at hnames
    -- every name of an accepted document is a text, so that distinct names have distinct texts
    apply List.Pairwise.imp_of_mem _ hnames
    intro a b ha hb hne heq
    obtain ⟨first, hfirst⟩ := htexts a ha
    obtain ⟨second, hsecond⟩ := htexts b hb
    rw [Tree.untagged_of_text? hfirst, Tree.untagged_of_text? hsecond] at heq
    exact hne (hfirst.trans (heq.trans hsecond.symm))
  · cases hempty

end Catalog

end DataCatalog
