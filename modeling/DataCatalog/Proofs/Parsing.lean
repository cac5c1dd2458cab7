import DataCatalog.Proofs.EntryLists
import DataCatalog.Proofs.MappingKeys
import DataCatalog.Recipe.Parser

/-!
# What the parser reads

The parser of configurations goes through outlines.  This module says of each of its functions, in
terms of the document itself, when it succeeds and what it then gives: `node_map_eq_ok_iff` for
mappings, `recipe_eq_ok_iff` for the entries of a recipe, `ParsesEntries` for the entries of a
mapping under the texts of their keys.
-/

set_option autoImplicit false

namespace DataCatalog

namespace Tree

theorem isWord_callableKey : IsWord Recipe.callableKey :=
  ⟨⟨'c', by decide, by decide⟩, by decide, by decide, by decide⟩

theorem isWord_argsKey : IsWord Recipe.argsKey :=
  ⟨⟨'r', by decide, by decide⟩, by decide, by decide, by decide⟩

theorem isWord_validationsKey : IsWord Recipe.validationsKey :=
  ⟨⟨'v', by decide, by decide⟩, by decide, by decide, by decide⟩

end Tree

namespace Outline

open DataCatalog.Tree

theorem ofTrees_eq_map (items : List Tree) : ofTrees items = items.map ofTree := by
  induction items with
  | nil => rfl
  | cons t rest ih =>
      unfold ofTrees
      rw [ih, List.map_cons]

theorem ofTreeEntries_eq_map (entries : List (Tree × Tree)) :
    ofTreeEntries entries = entries.map fun entry => (entry.1, ofTree entry.2) := by
  induction entries with
  | nil => rfl
  | cons head rest ih =>
      obtain ⟨k, v⟩ := head
      unfold ofTreeEntries
      rw [ih, List.map_cons]

/-- The entries of a mapping of a document, under the texts of their keys. -/
def Collects (entries : List (Tree × Tree)) (collected : Entries Outline) : Prop :=
  collect [] (ofTreeEntries entries) = .ok collected

theorem exists_collects_iff {entries : List (Tree × Tree)} :
    (∃ collected, Collects entries collected) ↔ DistinctKeys entries := by
  unfold Collects
  rw [exists_collect_iff, ofTreeEntries_eq_map]
  exact distinctKeys_map_iff ofTree

theorem Collects.distinct {entries : List (Tree × Tree)} {collected : Entries Outline}
    (h : Collects entries collected) : DistinctKeys entries :=
  exists_collects_iff.1 ⟨collected, h⟩

theorem Collects.mem_iff {entries : List (Tree × Tree)} {collected : Entries Outline}
    (h : Collects entries collected) {name : String} {o : Outline} :
    (name, o) ∈ collected ↔ ∃ k t, (k, t) ∈ entries ∧ k.keyText? = some name ∧ o = ofTree t := by
  rw [mem_collected_iff h, ofTreeEntries_eq_map]
  constructor
  · rintro ⟨k, hmem, hk⟩
    obtain ⟨⟨k', t⟩, hentry, heq⟩ := List.mem_map.1 hmem
    obtain ⟨rfl, rfl⟩ := Prod.mk.inj heq
    exact ⟨k', t, hentry, hk, rfl⟩
  · rintro ⟨k, t, hmem, hk, rfl⟩
    exact ⟨k, List.mem_map.2 ⟨(k, t), hmem, rfl⟩, hk⟩

theorem Collects.ordered {entries : List (Tree × Tree)} {collected : Entries Outline}
    (h : Collects entries collected) : Entries.Ordered collected :=
  ordered_of_collect Entries.ordered_nil h

/-- Under a word a collected mapping has what the document has under this text. -/
theorem Collects.get?_word_iff {entries : List (Tree × Tree)} {collected : Entries Outline}
    (h : Collects entries collected) {name : String} (word : IsWord name) {o : Outline} :
    Entries.get? name collected = some o ↔ ∃ t, (.string name, t) ∈ entries ∧ o = ofTree t := by
  rw [Entries.get?_eq_some_iff h.ordered, h.mem_iff]
  constructor
  · rintro ⟨k, t, hmem, hk, rfl⟩
    rw [keyText?_eq_some_iff word] at hk
    exact ⟨t, hk ▸ hmem, rfl⟩
  · rintro ⟨t, hmem, rfl⟩
    exact ⟨.string name, t, hmem, rfl, rfl⟩

theorem Collects.get?_word_eq_none_iff {entries : List (Tree × Tree)}
    {collected : Entries Outline} (h : Collects entries collected) {name : String}
    (word : IsWord name) :
    Entries.get? name collected = none ↔ ∀ t, (.string name, t) ∉ entries := by
  constructor
  · intro hnone t hmem
    have hsome := (h.get?_word_iff word).2 ⟨t, hmem, rfl⟩
    rw [hnone] at hsome
    cases hsome
  · intro hfree
    cases hget : Entries.get? name collected with
    | none => rfl
    | some o =>
        obtain ⟨t, hmem, -⟩ := (h.get?_word_iff word).1 hget
        exact absurd hmem (hfree t)

/-- The keys of a collected mapping are the texts of the keys in the document. -/
theorem Collects.keys_perm {entries : List (Tree × Tree)} {collected : Entries Outline}
    (h : Collects entries collected) :
    (entries.map fun entry => entry.1.keyText?).Perm (collected.map fun entry => some entry.1) := by
  have hperm := (perm_of_collect h).symm.map Prod.fst
  rw [ofTreeEntries_eq_map] at hperm
  simpa [Function.comp_def] using hperm

theorem ofTree_map_of_collects {entries : List (Tree × Tree)} {collected : Entries Outline}
    (h : Collects entries collected) : ofTree (.map entries) = .map collected := by
  unfold ofTree ofEntries
  rw [show collect [] (ofTreeEntries entries) = .ok collected from h]

/-! ## Elements and entries -/

theorem exists_itemNodes_iff {p : Position} {i : Nat} {items : List Outline} :
    (∃ nodes, itemNodes p i items = .ok nodes) ↔
      ∀ j o, items[j]? = some o → ∃ n, node (p.index (i + j)) o = .ok n := by
  induction items generalizing i with
  | nil => exact ⟨fun _ j o h => by simp at h, fun _ => ⟨[], rfl⟩⟩
  | cons head rest ih =>
      have hrest := ih (i := i + 1)
      unfold itemNodes
      constructor
      · rintro ⟨nodes, h⟩ j o hj
        split at h
        · cases h
        · rename_i n hn
          split at h
          · rename_i later hlater
            cases j with
            | zero =>
                cases hj
                exact ⟨n, hn⟩
            | succ j =>
                have heq : i + (j + 1) = i + 1 + j := by omega
                rw [heq]
                exact hrest.1 ⟨later, hlater⟩ j o hj
          · cases h
      · intro h
        obtain ⟨n, hn⟩ := h 0 head rfl
        have hlater : ∃ later, itemNodes p (i + 1) rest = .ok later := by
          apply hrest.2
          intro j o hj
          have heq : i + 1 + j = i + (j + 1) := by omega
          rw [heq]
          exact h (j + 1) o hj
        obtain ⟨later, hlater⟩ := hlater
        rw [Nat.add_zero] at hn
        exact ⟨n :: later, by rw [hn, hlater]⟩

/-- The nodes of a sequence are those of its elements, one by one. -/
theorem of_itemNodes_eq_ok {p : Position} {i : Nat} {items : List Outline} {nodes : List Node}
    (h : itemNodes p i items = .ok nodes) :
    nodes.length = items.length ∧ ∀ j o n, items[j]? = some o → nodes[j]? = some n →
      node (p.index (i + j)) o = .ok n := by
  induction items generalizing i nodes with
  | nil =>
      cases h
      exact ⟨rfl, fun j o n hj => by simp at hj⟩
  | cons head rest ih =>
      unfold itemNodes at h
      split at h
      · cases h
      · rename_i n hn
        split at h
        · rename_i later hlater
          cases h
          obtain ⟨hlength, heach⟩ := ih hlater
          refine ⟨by rw [List.length_cons, List.length_cons, hlength], ?_⟩
          intro j o n' hj hn'
          cases j with
          | zero =>
              cases hj
              cases hn'
              exact hn
          | succ j =>
              have heq : i + (j + 1) = i + 1 + j := by omega
              rw [heq]
              exact heach j o n' hj hn'
        · cases h

theorem exists_entryNodes_iff {p : Position} {entries : Entries Outline} :
    (∃ nodes, entryNodes p entries = .ok nodes) ↔
      ∀ name o, (name, o) ∈ entries → ∃ n, node (p.key name) o = .ok n := by
  induction entries with
  | nil => exact ⟨fun _ name o h => by simp at h, fun _ => ⟨[], rfl⟩⟩
  | cons head rest ih =>
      obtain ⟨k, v⟩ := head
      unfold entryNodes
      constructor
      · rintro ⟨nodes, h⟩ name o hmem
        split at h
        · cases h
        · rename_i n hn
          split at h
          · rename_i later hlater
            rcases List.mem_cons.1 hmem with heq | hmem
            · cases heq
              exact ⟨n, hn⟩
            · exact ih.1 ⟨later, hlater⟩ name o hmem
          · cases h
      · intro h
        obtain ⟨n, hn⟩ := h k v List.mem_cons_self
        obtain ⟨later, hlater⟩ := ih.2 fun name o hmem => h name o (List.mem_cons_of_mem _ hmem)
        exact ⟨(k, n) :: later, by rw [hn, hlater]⟩

/-- The nodes of entries are those of their values, under the same keys. -/
theorem of_entryNodes_eq_ok {p : Position} {entries : Entries Outline} {nodes : Entries Node}
    (h : entryNodes p entries = .ok nodes) :
    Entries.keys nodes = Entries.keys entries ∧
      ∀ name n, (name, n) ∈ nodes → ∃ o, (name, o) ∈ entries ∧ node (p.key name) o = .ok n := by
  induction entries generalizing nodes with
  | nil =>
      cases h
      exact ⟨rfl, fun name n hmem => by simp at hmem⟩
  | cons head rest ih =>
      obtain ⟨k, v⟩ := head
      unfold entryNodes at h
      split at h
      · cases h
      · rename_i n hn
        split at h
        · rename_i later hlater
          cases h
          obtain ⟨hkeys, heach⟩ := ih hlater
          refine ⟨congrArg (k :: ·) hkeys, ?_⟩
          intro name n' hmem
          rcases List.mem_cons.1 hmem with heq | hmem
          · cases heq
            exact ⟨v, List.mem_cons_self, hn⟩
          · obtain ⟨o, ho, hnode⟩ := heach name n' hmem
            exact ⟨o, List.mem_cons_of_mem _ ho, hnode⟩
        · cases h

theorem itemNodes_cons_eq_ok_iff {p : Position} {i : Nat} {o : Outline} {rest : List Outline}
    {nodes : List Node} :
    itemNodes p i (o :: rest) = .ok nodes ↔
      ∃ n later, node (p.index i) o = .ok n ∧ itemNodes p (i + 1) rest = .ok later ∧
        nodes = n :: later := by
  rw [itemNodes]
  cases node (p.index i) o with
  | error e => simp
  | ok n =>
      cases itemNodes p (i + 1) rest with
      | error e => simp
      | ok later => simp [eq_comm]

theorem node_seq_eq_ok_iff {p : Position} {items : List Outline} {n : Node} :
    node p (.seq items) = .ok n ↔ ∃ nodes, itemNodes p 0 items = .ok nodes ∧ n = .seq nodes := by
  rw [node]
  cases itemNodes p 0 items with
  | error e => simp
  | ok nodes => simp [eq_comm]

/-- An integer is parsed when it fits. -/
theorem parse_int_eq_ok_iff {p : Position} {i : Int} {n : Node} :
    Node.parse (.int i) p = .ok n ↔ ∃ k, int64? i = some k ∧ n = .int k := by
  show node p (.int i) = .ok n ↔ _
  rw [node]
  cases int64? i with
  | none => simp
  | some k => simp [eq_comm]

/-- A sequence is parsed element by element. -/
theorem of_parse_seq {p : Position} {items : List Tree} {n : Node}
    (h : Node.parse (.seq items) p = .ok n) :
    ∃ nodes, n = .seq nodes ∧ nodes.length = items.length ∧
      ∀ j t m, items[j]? = some t → nodes[j]? = some m → Node.parse t (p.index j) = .ok m := by
  obtain ⟨nodes, hnodes, rfl⟩ := node_seq_eq_ok_iff.1 h
  rw [ofTrees_eq_map] at hnodes
  obtain ⟨hlength, heach⟩ := of_itemNodes_eq_ok hnodes
  rw [List.length_map] at hlength
  refine ⟨nodes, rfl, hlength, ?_⟩
  intro j t m ht hm
  have hitem : (items.map ofTree)[j]? = some (ofTree t) := by
    rw [List.getElem?_map, ht]
    rfl
  have hparse := heach j (ofTree t) m hitem hm
  rw [Nat.zero_add] at hparse
  exact hparse

/-- Every node of a sequence is parsed from one of its elements. -/
theorem exists_item_of_parse_seq {p : Position} {items : List Tree} {nodes : List Node}
    (h : Node.parse (.seq items) p = .ok (.seq nodes)) {m : Node} (hmem : m ∈ nodes) :
    ∃ t ∈ items, ∃ q, Node.parse t q = .ok m := by
  obtain ⟨nodes', heq, hlength, heach⟩ := of_parse_seq h
  obtain rfl := Node.seq.inj heq
  obtain ⟨j, hj, rfl⟩ := List.mem_iff_getElem.1 hmem
  have hitem : items[j]? = some items[j] := List.getElem?_eq_getElem (hlength ▸ hj)
  exact ⟨items[j], List.getElem_mem _, p.index j,
    heach j items[j] nodes[j] hitem (List.getElem?_eq_getElem hj)⟩

theorem entryNodes_cons_eq_ok_iff {p : Position} {k : String} {o : Outline}
    {rest : Entries Outline} {nodes : Entries Node} :
    entryNodes p ((k, o) :: rest) = .ok nodes ↔
      ∃ n later, node (p.key k) o = .ok n ∧ entryNodes p rest = .ok later ∧
        nodes = (k, n) :: later := by
  rw [entryNodes]
  cases node (p.key k) o with
  | error e => simp
  | ok n =>
      cases entryNodes p rest with
      | error e => simp
      | ok later => simp [eq_comm]

/-- The entries of a mapping of a document, parsed under the texts of their keys. -/
def ParsesEntries (p : Position) (entries : List (Tree × Tree)) (nodes : Entries Node) : Prop :=
  ∃ collected, Collects entries collected ∧ entryNodes p collected = .ok nodes

theorem exists_parsesEntries_iff {p : Position} {entries : List (Tree × Tree)} :
    (∃ nodes, ParsesEntries p entries nodes) ↔
      DistinctKeys entries ∧ ∀ k t name, (k, t) ∈ entries → k.keyText? = some name →
        ∃ n, node (p.key name) (ofTree t) = .ok n := by
  constructor
  · rintro ⟨nodes, collected, hcollects, hnodes⟩
    refine ⟨exists_collects_iff.1 ⟨collected, hcollects⟩, ?_⟩
    intro k t name hmem hk
    exact exists_entryNodes_iff.1 ⟨nodes, hnodes⟩ name (ofTree t)
      (hcollects.mem_iff.2 ⟨k, t, hmem, hk, rfl⟩)
  · rintro ⟨distinct, heach⟩
    obtain ⟨collected, hcollects⟩ := exists_collects_iff.2 distinct
    have hnodes : ∃ nodes, entryNodes p collected = .ok nodes := by
      apply exists_entryNodes_iff.2
      intro name o hmem
      obtain ⟨k, t, hentry, hk, rfl⟩ := hcollects.mem_iff.1 hmem
      exact heach k t name hentry hk
    obtain ⟨nodes, hnodes⟩ := hnodes
    exact ⟨nodes, collected, hcollects, hnodes⟩

theorem parsesEntries_iff {p : Position} {entries : List (Tree × Tree)}
    {collected : Entries Outline} (hcollects : Collects entries collected) {nodes : Entries Node} :
    ParsesEntries p entries nodes ↔ entryNodes p collected = .ok nodes := by
  constructor
  · rintro ⟨found, hfound, hnodes⟩
    have hsame : found = collected := Except.ok.inj (hfound.symm.trans hcollects)
    rwa [hsame] at hnodes
  · intro hnodes
    exact ⟨collected, hcollects, hnodes⟩

/-- What is parsed has one entry for every key of the document, in the order of their texts. -/
theorem ParsesEntries.keys {p : Position} {entries : List (Tree × Tree)} {nodes : Entries Node}
    (h : ParsesEntries p entries nodes) :
    Entries.Ordered nodes ∧
      (entries.map fun entry => entry.1.keyText?).Perm (nodes.map fun entry => some entry.1) := by
  obtain ⟨collected, hcollects, hnodes⟩ := h
  have hkeys := (of_entryNodes_eq_ok hnodes).1
  constructor
  · rw [Entries.ordered_iff_keys, hkeys, ← Entries.ordered_iff_keys]
    exact hcollects.ordered
  · have hnames : (nodes.map fun entry => some entry.1) =
        collected.map fun entry => some entry.1 := by
      have hmap := congrArg (List.map some) hkeys
      simpa [Entries.keys, Function.comp_def] using hmap
    rw [hnames]
    exact hcollects.keys_perm

theorem ParsesEntries.each {p : Position} {entries : List (Tree × Tree)} {nodes : Entries Node}
    (h : ParsesEntries p entries nodes) {name : String} {n : Node} (hmem : (name, n) ∈ nodes) :
    ∃ k t, (k, t) ∈ entries ∧ k.keyText? = some name ∧ node (p.key name) (ofTree t) = .ok n := by
  obtain ⟨collected, hcollects, hnodes⟩ := h
  obtain ⟨o, ho, hn⟩ := (of_entryNodes_eq_ok hnodes).2 name n hmem
  obtain ⟨k, t, hentry, hk, rfl⟩ := hcollects.mem_iff.1 ho
  exact ⟨k, t, hentry, hk, hn⟩

/-- The nodes of entries are known by their keys and values: every entry of the document is parsed
under the text of its key, and there are no others. -/
theorem parsesEntries_iff_mem {p : Position} {entries : List (Tree × Tree)} {nodes : Entries Node} :
    ParsesEntries p entries nodes ↔
      DistinctKeys entries ∧ Entries.Ordered nodes ∧
        (∀ name n, (name, n) ∈ nodes → ∃ k t, (k, t) ∈ entries ∧ k.keyText? = some name) ∧
        ∀ k t name, (k, t) ∈ entries → k.keyText? = some name →
          ∃ n, (name, n) ∈ nodes ∧ node (p.key name) (ofTree t) = .ok n := by
  -- a success lists every entry of the document
  have hlists {found : Entries Node} (h : ParsesEntries p entries found)
      (distinct : DistinctKeys entries) {k t : Tree} {name : String} (hmem : (k, t) ∈ entries)
      (hk : k.keyText? = some name) :
      ∃ n, (name, n) ∈ found ∧ node (p.key name) (ofTree t) = .ok n := by
    have hname : some name ∈ found.map fun entry => some entry.1 :=
      h.keys.2.mem_iff.1 (List.mem_map.2 ⟨(k, t), hmem, hk⟩)
    obtain ⟨⟨name', n⟩, hin, heq⟩ := List.mem_map.1 hname
    cases heq
    obtain ⟨k', t', hmem', hk', hparse⟩ := h.each hin
    have hsame : t' = t := (distinct.eq_of_keyText? hmem' hmem (hk'.trans hk.symm)).2
    exact ⟨n, hin, hsame ▸ hparse⟩
  constructor
  · intro h
    have distinct := (exists_parsesEntries_iff.1 ⟨nodes, h⟩).1
    refine ⟨distinct, h.keys.1, ?_, fun k t name hmem hk => hlists h distinct hmem hk⟩
    intro name n hin
    obtain ⟨k, t, hmem, hk, -⟩ := h.each hin
    exact ⟨k, t, hmem, hk⟩
  · rintro ⟨distinct, ordered, hkeys, heach⟩
    obtain ⟨found, hfound⟩ := exists_parsesEntries_iff.2 ⟨distinct, fun k t name hmem hk => by
      obtain ⟨n, -, hparse⟩ := heach k t name hmem hk
      exact ⟨n, hparse⟩⟩
    -- the two lists have the same members, and both are in order
    have hsame : ∀ entry, entry ∈ found ↔ entry ∈ nodes := by
      rintro ⟨name, n⟩
      constructor
      · intro hin
        obtain ⟨k, t, hmem, hk, hparse⟩ := hfound.each hin
        obtain ⟨n', hin', hparse'⟩ := heach k t name hmem hk
        rw [hparse] at hparse'
        cases hparse'
        exact hin'
      · intro hin
        obtain ⟨k, t, hmem, hk⟩ := hkeys name n hin
        obtain ⟨n', hin', hparse'⟩ := heach k t name hmem hk
        obtain ⟨n'', hin'', hparse''⟩ := hlists hfound distinct hmem hk
        rw [hparse'] at hparse''
        cases hparse''
        have hvalue : n' = n := by
          have hget := (Entries.get?_eq_some_iff ordered).2 hin
          rw [(Entries.get?_eq_some_iff ordered).2 hin'] at hget
          exact Option.some.inj hget
        exact hvalue ▸ hin''
    exact Entries.eq_of_mem_iff hfound.keys.1 ordered hsame ▸ hfound

/-! ## Recipes -/

theorem callableName_eq_ok_iff {p : Position} {entries : Entries Outline} {callable : String} :
    callableName p entries = .ok callable ↔
      ∃ s, Entries.get? Recipe.callableKey entries = some (.string s) ∧
        Text.isAllBlank s = false ∧ callable = Text.trim s := by
  unfold callableName
  cases hget : Entries.get? Recipe.callableKey entries with
  | none =>
      constructor
      · intro h
        cases h
      · rintro ⟨s, hs, -⟩
        cases hs
  | some o =>
      cases o with
      | string s =>
          dsimp only
          cases hblank : Text.isAllBlank s with
          | true =>
              constructor
              · intro h
                cases h
              · rintro ⟨s', hs, hnot, -⟩
                cases hs
                rw [hblank] at hnot
                cases hnot
          | false =>
              constructor
              · intro h
                cases h
                exact ⟨s, rfl, hblank, rfl⟩
              · rintro ⟨s', hs, -, rfl⟩
                cases hs
                rfl
      | _ =>
          constructor
          · intro h
            cases h
          · rintro ⟨s, hs, -⟩
            cases hs

theorem unknownKeys_eq_nil_iff {allowed : List String} {entries : Entries Outline} :
    unknownKeys allowed entries = [] ↔
      ∀ k ∈ Entries.keys entries, k = Recipe.callableKey ∨ k = Recipe.argsKey ∨ k ∈ allowed := by
  unfold unknownKeys
  rw [List.filter_eq_nil_iff]
  constructor
  · intro h k hmem
    have hk := h k hmem
    simp only [Bool.not_eq_true', Bool.not_eq_false, Bool.or_eq_true, beq_iff_eq,
      List.contains_iff_mem] at hk
    rcases hk with (hk | hk) | hk
    · exact .inl hk
    · exact .inr (.inl hk)
    · exact .inr (.inr hk)
  · intro h k hmem
    rcases h k hmem with hk | hk | hk <;> simp [hk]

theorem recipeHead_eq_ok_iff {p : Position} {allowed : List String} {entries : Entries Outline}
    {callable : String} :
    recipeHead p allowed entries = .ok callable ↔
      callableName p entries = .ok callable ∧ unknownKeys allowed entries = [] := by
  unfold recipeHead
  cases hname : callableName p entries with
  | error e => simp
  | ok name =>
      cases hunknown : unknownKeys allowed entries with
      | nil => simp
      | cons k rest => simp

/-- The arguments are what stands under their key. -/
theorem argsIn_eq (p : Position) (entries : Entries Outline) :
    argsIn p entries =
      match Entries.get? Recipe.argsKey entries with
      | none => .ok []
      | some o => argsOf (p.key Recipe.argsKey) o := by
  induction entries with
  | nil => simp [argsIn, Entries.get?]
  | cons head rest ih =>
      obtain ⟨k, o⟩ := head
      unfold argsIn Entries.get?
      split
      · rfl
      · exact ih

/-- The arguments of a recipe, parsed: none, or those of an untagged mapping. -/
inductive ParsesArgs (p : Position) (entries : List (Tree × Tree)) : Entries Node → Prop where
  | absent (free : ∀ t, (.string Recipe.argsKey, t) ∉ entries) : ParsesArgs p entries []
  | null (found : (.string Recipe.argsKey, .null) ∈ entries) : ParsesArgs p entries []
  | map {args : List (Tree × Tree)} {nodes : Entries Node}
      (found : (.string Recipe.argsKey, .map args) ∈ entries)
      (parses : ParsesEntries p args nodes) :
      ParsesArgs p entries nodes

theorem argsOf_ofTree_eq_ok_iff {p : Position} {t : Tree} {nodes : Entries Node} :
    argsOf p (ofTree t) = .ok nodes ↔
      (t = .null ∧ nodes = []) ∨ ∃ args, t = .map args ∧ ParsesEntries p args nodes := by
  cases t with
  | null =>
      constructor
      · intro h
        cases h
        exact .inl ⟨rfl, rfl⟩
      · rintro (⟨-, rfl⟩ | ⟨args, h, -⟩)
        · rfl
        · cases h
  | map entries =>
      constructor
      · intro h
        unfold ofTree ofEntries at h
        cases hcollect : collect [] (ofTreeEntries entries) with
        | error fault =>
            rw [hcollect] at h
            cases h
        | ok collected =>
            rw [hcollect] at h
            exact .inr ⟨entries, rfl, collected, hcollect, h⟩
      · rintro (⟨h, -⟩ | ⟨args, h, collected, hcollects, hnodes⟩)
        · cases h
        · cases h
          rw [ofTree_map_of_collects hcollects]
          exact hnodes
  | _ =>
      constructor
      · intro h
        cases h
      · rintro (⟨h, -⟩ | ⟨args, h, -⟩)
        · cases h
        · cases h

theorem argsIn_eq_ok_iff {p : Position} {entries : List (Tree × Tree)}
    {collected : Entries Outline} (hcollects : Collects entries collected) {nodes : Entries Node} :
    argsIn p collected = .ok nodes ↔ ParsesArgs (p.key Recipe.argsKey) entries nodes := by
  rw [argsIn_eq]
  cases hget : Entries.get? Recipe.argsKey collected with
  | none =>
      have hfree := (hcollects.get?_word_eq_none_iff isWord_argsKey).1 hget
      constructor
      · intro h
        cases h
        exact .absent hfree
      · intro h
        cases h with
        | absent _ => rfl
        | null found => exact absurd found (hfree _)
        | map found _ => exact absurd found (hfree _)
  | some o =>
      obtain ⟨t, hmem, rfl⟩ := (hcollects.get?_word_iff isWord_argsKey).1 hget
      -- the keys are distinct, so that whatever is found under the key is what was looked up
      have hunique : ∀ {t'}, (.string Recipe.argsKey, t') ∈ entries → ofTree t' = ofTree t := by
        intro t' hmem'
        have hget' := (hcollects.get?_word_iff isWord_argsKey).2 ⟨t', hmem', rfl⟩
        rw [hget] at hget'
        exact (Option.some.inj hget').symm
      constructor
      · intro h
        rcases argsOf_ofTree_eq_ok_iff.1 h with ⟨rfl, rfl⟩ | ⟨args, rfl, hparses⟩
        · exact .null hmem
        · exact .map hmem hparses
      · intro h
        cases h with
        | absent free => exact absurd hmem (free t)
        | null found =>
            show argsOf _ (ofTree t) = _
            rw [← hunique found]
            exact argsOf_ofTree_eq_ok_iff.2 (.inl ⟨rfl, rfl⟩)
        | @map args _ found parses =>
            show argsOf _ (ofTree t) = _
            rw [← hunique found]
            exact argsOf_ofTree_eq_ok_iff.2 (.inr ⟨args, rfl, parses⟩)

/-- A recipe, parsed from the entries of a mapping that may have further keys. -/
structure ParsesRecipe (p : Position) (allowed : List String) (entries : List (Tree × Tree))
    (r : Recipe) : Prop where
  keys : DistinctKeys entries
  name : ∃ s, (.string Recipe.callableKey, .string s) ∈ entries ∧ Text.isAllBlank s = false ∧
    r.callable = Text.trim s
  only : ∀ entry ∈ entries, ∃ k, entry.1 = .string k ∧
    (k = Recipe.callableKey ∨ k = Recipe.argsKey ∨ k ∈ allowed)
  args : ParsesArgs (p.key Recipe.argsKey) entries r.args

theorem ofTree_eq_string_iff {t : Tree} {s : String} : ofTree t = .string s ↔ t = .string s := by
  constructor
  · intro h
    cases t with
    | string s' =>
        cases h
        rfl
    | map entries =>
        unfold ofTree ofEntries at h
        split at h <;> cases h
    | _ => cases h
  · rintro rfl
    rfl

/-- All keys of a collected mapping are among some words when those of the document are. -/
theorem forall_keys_iff {entries : List (Tree × Tree)} {collected : Entries Outline}
    (hcollects : Collects entries collected) {P : String → Prop} (words : ∀ k, P k → IsWord k) :
    (∀ k ∈ Entries.keys collected, P k) ↔
      ∀ entry ∈ entries, ∃ k, entry.1 = .string k ∧ P k := by
  constructor
  · rintro h ⟨key, t⟩ hmem
    have distinct := exists_collects_iff.1 ⟨collected, hcollects⟩
    obtain ⟨name, hname⟩ := exists_keyText?_iff.2 (distinct.scalar (key, t) hmem)
    have hin := hcollects.mem_iff.2 ⟨key, t, hmem, hname, rfl⟩
    -- a key that prints as a word is this word
    have hP := h name (List.mem_map.2 ⟨_, hin, rfl⟩)
    exact ⟨name, (keyText?_eq_some_iff (words name hP)).1 hname, hP⟩
  · intro h k hmem
    obtain ⟨⟨name, o⟩, hin, rfl⟩ := List.mem_map.1 hmem
    obtain ⟨key, t, hentry, hkey, -⟩ := hcollects.mem_iff.1 hin
    obtain ⟨k', rfl, hP⟩ := h (key, t) hentry
    cases hkey
    exact hP

/-- A recipe is a head and arguments. -/
theorem recipe_eq_ok_iff_head_args {p : Position} {allowed : List String}
    {entries : Entries Outline} {r : Recipe} :
    recipe p allowed entries = .ok r ↔
      recipeHead p allowed entries = .ok r.callable ∧ argsIn p entries = .ok r.args := by
  unfold recipe
  cases recipeHead p allowed entries with
  | error e => simp
  | ok callable =>
      cases argsIn p entries with
      | error e => simp
      | ok args =>
          cases r
          simp

theorem recipeHead_collected_eq_ok_iff {p : Position} {allowed : List String}
    (words : ∀ k ∈ allowed, IsWord k) {entries : List (Tree × Tree)}
    {collected : Entries Outline} (hcollects : Collects entries collected) {callable : String} :
    recipeHead p allowed collected = .ok callable ↔
      (∃ s, (.string Recipe.callableKey, .string s) ∈ entries ∧ Text.isAllBlank s = false ∧
        callable = Text.trim s) ∧
      ∀ entry ∈ entries, ∃ k, entry.1 = .string k ∧
        (k = Recipe.callableKey ∨ k = Recipe.argsKey ∨ k ∈ allowed) := by
  have hwords : ∀ k, k = Recipe.callableKey ∨ k = Recipe.argsKey ∨ k ∈ allowed → IsWord k := by
    rintro k (rfl | rfl | hmem)
    · exact isWord_callableKey
    · exact isWord_argsKey
    · exact words k hmem
  rw [recipeHead_eq_ok_iff, callableName_eq_ok_iff, unknownKeys_eq_nil_iff,
    forall_keys_iff hcollects hwords]
  -- the name is looked up under its text, which only the text itself can print as
  simp only [hcollects.get?_word_iff isWord_callableKey]
  constructor
  · rintro ⟨⟨s, ⟨t, hmem, ht⟩, hrest⟩, honly⟩
    rw [ofTree_eq_string_iff.1 ht.symm] at hmem
    exact ⟨⟨s, hmem, hrest⟩, honly⟩
  · rintro ⟨⟨s, hmem, hrest⟩, honly⟩
    exact ⟨⟨s, ⟨.string s, hmem, rfl⟩, hrest⟩, honly⟩

theorem recipe_eq_ok_iff {p : Position} {allowed : List String} (words : ∀ k ∈ allowed, IsWord k)
    {entries : List (Tree × Tree)} {collected : Entries Outline}
    (hcollects : Collects entries collected) {r : Recipe} :
    recipe p allowed collected = .ok r ↔ ParsesRecipe p allowed entries r := by
  rw [recipe_eq_ok_iff_head_args, recipeHead_collected_eq_ok_iff words hcollects,
    argsIn_eq_ok_iff hcollects]
  constructor
  · rintro ⟨⟨hname, honly⟩, hargs⟩
    exact ⟨exists_collects_iff.1 ⟨collected, hcollects⟩, hname, honly, hargs⟩
  · rintro ⟨-, hname, honly, hargs⟩
    exact ⟨⟨hname, honly⟩, hargs⟩

theorem recipe_nil_eq_ok_iff {p : Position} {entries : List (Tree × Tree)}
    {collected : Entries Outline} (hcollects : Collects entries collected) {r : Recipe} :
    recipe p [] collected = .ok r ↔ ParsesRecipe p [] entries r :=
  recipe_eq_ok_iff (fun _ hmem => absurd hmem List.not_mem_nil) hcollects

theorem node_of_data {p : Position} {collected : Entries Outline} {n : Node}
    (data : Entries.get? Recipe.callableKey collected = none) :
    node p (.map collected) = .ok n ↔
      ∃ nodes, entryNodes p collected = .ok nodes ∧ n = .map nodes := by
  unfold node
  rw [Entries.has_eq_isSome_get?, data]
  cases entryNodes p collected with
  | error e => simp
  | ok nodes => simp [eq_comm]

theorem node_of_recipe {p : Position} {collected : Entries Outline} {n : Node} {o : Outline}
    (named : Entries.get? Recipe.callableKey collected = some o) :
    node p (.map collected) = .ok n ↔ ∃ r, recipe p [] collected = .ok r ∧ n = r.node := by
  unfold node recipe
  rw [Entries.has_eq_isSome_get?, named]
  cases recipeHead p [] collected with
  | error e => simp
  | ok callable =>
      cases argsIn p collected with
      | error e => simp
      | ok args => simp [Recipe.node, eq_comm]

/-- A mapping is data when no text key is `callable`, and a recipe else. -/
theorem node_map_eq_ok_iff {p : Position} {entries : List (Tree × Tree)} {n : Node} :
    node p (ofTree (.map entries)) = .ok n ↔
      ((∀ t, (.string Recipe.callableKey, t) ∉ entries) ∧
        ∃ nodes, ParsesEntries p entries nodes ∧ n = .map nodes) ∨
      ∃ r, ParsesRecipe p [] entries r ∧ n = r.node := by
  by_cases distinct : DistinctKeys entries
  · obtain ⟨collected, hcollects⟩ := exists_collects_iff.2 distinct
    have hrecipe (r : Recipe) : recipe p [] collected = .ok r ↔ ParsesRecipe p [] entries r :=
      recipe_nil_eq_ok_iff hcollects
    rw [ofTree_map_of_collects hcollects]
    simp only [parsesEntries_iff hcollects, ← hrecipe]
    cases hget : Entries.get? Recipe.callableKey collected with
    | none =>
        -- nothing prints as `callable`: the mapping is data
        have hfree := (hcollects.get?_word_eq_none_iff isWord_callableKey).1 hget
        rw [node_of_data hget]
        constructor
        · intro hdata
          exact .inl ⟨hfree, hdata⟩
        · rintro (⟨-, hdata⟩ | ⟨r, hr, -⟩)
          · exact hdata
          · obtain ⟨s, hmem, -⟩ := ((hrecipe r).1 hr).name
            exact absurd hmem (hfree _)
    | some o =>
        -- the key is there, whatever its value: a recipe, or nothing
        obtain ⟨t, hmem, -⟩ := (hcollects.get?_word_iff isWord_callableKey).1 hget
        rw [node_of_recipe hget]
        constructor
        · intro hr
          exact .inr hr
        · rintro (⟨hfree, -⟩ | hr)
          · exact absurd hmem (hfree t)
          · exact hr
  · -- the keys collide or are no scalars, so that neither side can hold
    constructor
    · intro h
      unfold ofTree ofEntries at h
      cases hcollect : collect [] (ofTreeEntries entries) with
      | error fault =>
          rw [hcollect] at h
          cases h
      | ok collected => exact absurd (exists_collects_iff.1 ⟨collected, hcollect⟩) distinct
    · rintro (⟨-, nodes, hparses, -⟩ | ⟨r, hparses, -⟩)
      · exact absurd (exists_parsesEntries_iff.1 ⟨nodes, hparses⟩).1 distinct
      · exact absurd hparses.keys distinct

/-! ## Datasets -/

theorem untagged_ofTree (t : Tree) : (ofTree t).untagged = ofTree t.untagged := by
  induction t using Tree.untagged.induct with
  | case1 tag value ih => exact ih
  | case2 t hnot =>
      cases t with
      | tagged tag value => exact absurd rfl (hnot tag value)
      | map entries =>
          show (ofEntries (ofTreeEntries entries)).untagged = ofEntries (ofTreeEntries entries)
          unfold ofEntries
          split <;> rfl
      | _ => rfl

theorem ofTree_eq_seq {t : Tree} {items : List Outline} (h : ofTree t = .seq items) :
    ∃ elements, t = .seq elements ∧ items = elements.map ofTree := by
  cases t with
  | seq elements =>
      cases h
      exact ⟨elements, rfl, ofTrees_eq_map elements⟩
  | map entries =>
      unfold ofTree ofEntries at h
      split at h <;> cases h
  | _ => cases h

/-- A document whose outline is a mapping is a mapping, with its entries collected. -/
theorem ofTree_eq_map {t : Tree} {collected : Entries Outline} (h : ofTree t = .map collected) :
    ∃ entries, t = .map entries ∧ Collects entries collected := by
  cases t with
  | map entries =>
      unfold ofTree ofEntries at h
      split at h
      · rename_i found hfound
        cases h
        exact ⟨entries, rfl, hfound⟩
      · cases h
  | _ => cases h

/-- A recipe that stands alone is parsed from a mapping, under any number of tags. -/
theorem recipeOnly_eq_ok_iff {p : Position} {t : Tree} {r : Recipe} :
    recipeOnly p (ofTree t) = .ok r ↔
      ∃ entries, t.untagged = .map entries ∧ ParsesRecipe p [] entries r := by
  unfold recipeOnly
  rw [untagged_ofTree]
  constructor
  · intro h
    split at h
    · rename_i collected hmap
      obtain ⟨entries, hentries, hcollects⟩ := ofTree_eq_map hmap
      exact ⟨entries, hentries, (recipe_nil_eq_ok_iff hcollects).1 h⟩
    · cases h
    · cases h
  · rintro ⟨entries, hentries, hr⟩
    obtain ⟨collected, hcollects⟩ := exists_collects_iff.2 hr.keys
    rw [hentries, ofTree_map_of_collects hcollects]
    exact (recipe_nil_eq_ok_iff hcollects).2 hr

theorem recipesFrom_cons_eq_ok_iff {p : Position} {i : Nat} {o : Outline} {rest : List Outline}
    {recipes : List Recipe} :
    recipesFrom p i (o :: rest) = .ok recipes ↔
      ∃ r later, recipeOnly (p.index i) o = .ok r ∧ recipesFrom p (i + 1) rest = .ok later ∧
        recipes = r :: later := by
  rw [recipesFrom]
  cases recipeOnly (p.index i) o with
  | error e => simp
  | ok r =>
      cases recipesFrom p (i + 1) rest with
      | error e => simp
      | ok later => simp [eq_comm]

theorem of_recipesFrom_eq_ok {p : Position} {i : Nat} {items : List Outline} {recipes : List Recipe}
    (h : recipesFrom p i items = .ok recipes) {j : Nat} {r : Recipe} (hr : recipes[j]? = some r) :
    ∃ o, items[j]? = some o ∧ recipeOnly (p.index (i + j)) o = .ok r := by
  induction items generalizing i j recipes with
  | nil =>
      cases h
      simp at hr
  | cons head rest ih =>
      unfold recipesFrom at h
      split at h
      · cases h
      · rename_i first hfirst
        split at h
        · rename_i later hlater
          cases h
          cases j with
          | zero =>
              cases hr
              exact ⟨head, rfl, hfirst⟩
          | succ j =>
              have heq : i + (j + 1) = i + 1 + j := by omega
              rw [heq]
              exact ih hlater hr
        · cases h

/-- The validators of a dataset, parsed: none, or those of an untagged list. -/
inductive ParsesValidations (p : Position) (entries : List (Tree × Tree)) : List Recipe → Prop where
  | absent (free : ∀ t, (.string Recipe.validationsKey, t) ∉ entries) :
      ParsesValidations p entries []
  | null (found : (.string Recipe.validationsKey, .null) ∈ entries) :
      ParsesValidations p entries []
  | list {items : List Tree} {recipes : List Recipe}
      (found : (.string Recipe.validationsKey, .seq items) ∈ entries)
      (parses : recipesFrom p 0 (items.map ofTree) = .ok recipes) :
      ParsesValidations p entries recipes

theorem ofTree_eq_null_iff {t : Tree} : ofTree t = .null ↔ t = .null := by
  constructor
  · intro h
    cases t with
    | null => rfl
    | map entries =>
        unfold ofTree ofEntries at h
        split at h <;> cases h
    | _ => cases h
  · rintro rfl
    rfl

theorem validations_eq_ok_iff {p : Position} {entries : List (Tree × Tree)}
    {collected : Entries Outline} (hcollects : Collects entries collected)
    {recipes : List Recipe} :
    validations p collected = .ok recipes ↔
      ParsesValidations (p.key Recipe.validationsKey) entries recipes := by
  have hfind {t : Tree} : (.string Recipe.validationsKey, t) ∈ entries →
      Entries.get? Recipe.validationsKey collected = some (ofTree t) := fun hmem =>
    (hcollects.get?_word_iff isWord_validationsKey).2 ⟨t, hmem, rfl⟩
  unfold validations
  constructor
  · intro h
    split at h
    · rename_i hget
      cases h
      exact .absent ((hcollects.get?_word_eq_none_iff isWord_validationsKey).1 hget)
    · rename_i hget
      cases h
      obtain ⟨t, hmem, ht⟩ := (hcollects.get?_word_iff isWord_validationsKey).1 hget
      rw [ofTree_eq_null_iff.1 ht.symm] at hmem
      exact .null hmem
    · rename_i items hget
      obtain ⟨value, hmem, hvalue⟩ := (hcollects.get?_word_iff isWord_validationsKey).1 hget
      obtain ⟨elements, rfl, rfl⟩ := ofTree_eq_seq hvalue.symm
      exact .list hmem h
    · cases h
  · intro h
    cases h with
    | absent free =>
        rw [(hcollects.get?_word_eq_none_iff isWord_validationsKey).2 free]
    | null found =>
        rw [hfind found]
        rfl
    | @list items _ found parses =>
        rw [hfind found, ofTree, ofTrees_eq_map]
        exact parses

/-- A dataset is parsed from the mapping of a recipe that may list validators. -/
theorem dataset_eq_ok_iff {p : Position} {t : Tree} {entry : DatasetEntry} :
    dataset p (ofTree t) = .ok entry ↔
      ∃ entries, t.untagged = .map entries ∧
        ParsesRecipe p [Recipe.validationsKey] entries entry.source ∧
        ParsesValidations (p.key Recipe.validationsKey) entries entry.validations := by
  have hwords : ∀ k ∈ [Recipe.validationsKey], IsWord k := by
    intro k hmem
    rw [List.mem_singleton.1 hmem]
    exact isWord_validationsKey
  unfold dataset
  rw [untagged_ofTree]
  constructor
  · intro h
    split at h
    · rename_i collected hmap
      obtain ⟨entries, hentries, hcollects⟩ := ofTree_eq_map hmap
      refine ⟨entries, hentries, ?_⟩
      split at h
      · cases h
      · rename_i recipes hrecipes
        split at h
        · rename_i source hsource
          cases h
          exact ⟨(recipe_eq_ok_iff hwords hcollects).1 hsource,
            (validations_eq_ok_iff hcollects).1 hrecipes⟩
        · cases h
    · cases h
    · cases h
  · rintro ⟨entries, hentries, hsource, hrecipes⟩
    obtain ⟨collected, hcollects⟩ := exists_collects_iff.2 hsource.keys
    rw [hentries, ofTree_map_of_collects hcollects]
    dsimp only
    rw [(validations_eq_ok_iff hcollects).2 hrecipes]
    dsimp only
    rw [(recipe_eq_ok_iff hwords hcollects).2 hsource]

/-- The entries that a dataset is parsed from: those of a recipe that may list validators, each of
which is a recipe of its own. -/
structure ParsesDataset (p : Position) (entries : List (Tree × Tree)) (dataset : DatasetEntry) :
    Prop where
  source : ParsesRecipe p [Recipe.validationsKey] entries dataset.source
  validations : ∀ i r, dataset.validations[i]? = some r →
    ∃ items t, (.string Recipe.validationsKey, .seq items) ∈ entries ∧ items[i]? = some t ∧
      recipeOnly ((p.key Recipe.validationsKey).index i) (ofTree t) = .ok r

theorem ParsesValidations.exists_item {p : Position} {entries : List (Tree × Tree)}
    {recipes : List Recipe} (h : ParsesValidations p entries recipes) {i : Nat} {r : Recipe}
    (hr : recipes[i]? = some r) :
    ∃ items t, (.string Recipe.validationsKey, .seq items) ∈ entries ∧ items[i]? = some t ∧
      recipeOnly (p.index i) (ofTree t) = .ok r := by
  cases h with
  | absent free => simp at hr
  | null found => simp at hr
  | @list items _ found parses =>
      obtain ⟨o, ho, hparse⟩ := of_recipesFrom_eq_ok parses hr
      rw [List.getElem?_map] at ho
      obtain ⟨u, hu, rfl⟩ := Option.map_eq_some_iff.1 ho
      rw [Nat.zero_add] at hparse
      exact ⟨items, u, found, hu, hparse⟩

theorem of_dataset_eq_ok {p : Position} {t : Tree} {entry : DatasetEntry}
    (h : dataset p (ofTree t) = .ok entry) :
    ∃ entries, t.untagged = .map entries ∧ ParsesDataset p entries entry := by
  obtain ⟨entries, hentries, hsource, hrecipes⟩ := dataset_eq_ok_iff.1 h
  exact ⟨entries, hentries, hsource, fun _ _ hr => hrecipes.exists_item hr⟩

end Outline

end DataCatalog
