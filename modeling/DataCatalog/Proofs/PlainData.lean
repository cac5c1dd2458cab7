import DataCatalog.Builder
import DataCatalog.Proofs.Decoding
import DataCatalog.Proofs.Grammar
import DataCatalog.Proofs.KeyEquality

/-!
# Plain data as a configuration

A document without tags and without recipes can be used in two ways: it is decoded, or it is parsed
as a configuration and resolved.  The two take the keys of a mapping for texts in ways of their own.
`conversions_agree` says that they come to the same as long as every key has the same text in both,
and that a key for which this is not so is enough to tell them apart.
-/

set_option autoImplicit false

namespace DataCatalog

/-! ## Configurations without recipes -/

namespace Node

mutual

/-- The value of a configuration without recipes. -/
def value? : Node → Option Value
  | .null => some .null
  | .bool b => some (.bool b)
  | .int i => some (.int i)
  | .float x => some (.float x)
  | .string s => some (.string s)
  | .seq items => (itemValues? items).map .list
  | .map entries => (entryValues? entries).map .map
  | .recipe _ _ => none

def itemValues? : List Node → Option (List Value)
  | [] => some []
  | n :: rest =>
      match value? n, itemValues? rest with
      | some v, some vs => some (v :: vs)
      | _, _ => none

def entryValues? : List (String × Node) → Option (Entries Value)
  | [] => some []
  | (k, n) :: rest =>
      match value? n, entryValues? rest with
      | some v, some vs => some ((k, v) :: vs)
      | _, _ => none

end

theorem itemValues?_cons_eq_some_iff {n : Node} {rest : List Node} {values : List Value} :
    itemValues? (n :: rest) = some values ↔
      ∃ v vs, n.value? = some v ∧ itemValues? rest = some vs ∧ values = v :: vs := by
  rw [itemValues?]
  cases n.value? with
  | none => simp
  | some v =>
      cases itemValues? rest with
      | none => simp
      | some vs => simp [eq_comm]

theorem entryValues?_cons_eq_some_iff {k : String} {n : Node} {rest : Entries Node}
    {values : Entries Value} :
    entryValues? ((k, n) :: rest) = some values ↔
      ∃ v vs, n.value? = some v ∧ entryValues? rest = some vs ∧ values = (k, v) :: vs := by
  rw [entryValues?]
  cases n.value? with
  | none => simp
  | some v =>
      cases entryValues? rest with
      | none => simp
      | some vs => simp [eq_comm]

theorem exists_itemValues? {nodes : List Node} (h : ∀ n ∈ nodes, ∃ v, n.value? = some v) :
    ∃ values, itemValues? nodes = some values := by
  induction nodes with
  | nil => exact ⟨[], rfl⟩
  | cons n rest ih =>
      obtain ⟨⟨v, hv⟩, hrest⟩ := List.forall_mem_cons.1 h
      obtain ⟨vs, hvs⟩ := ih hrest
      exact ⟨v :: vs, itemValues?_cons_eq_some_iff.2 ⟨v, vs, hv, hvs, rfl⟩⟩

theorem exists_entryValues? {nodes : Entries Node}
    (h : ∀ entry ∈ nodes, ∃ v, entry.2.value? = some v) :
    ∃ values, entryValues? nodes = some values := by
  induction nodes with
  | nil => exact ⟨[], rfl⟩
  | cons head rest ih =>
      obtain ⟨k, n⟩ := head
      obtain ⟨⟨v, hv⟩, hrest⟩ := List.forall_mem_cons.1 h
      obtain ⟨vs, hvs⟩ := ih hrest
      exact ⟨(k, v) :: vs, entryValues?_cons_eq_some_iff.2 ⟨v, vs, hv, hvs, rfl⟩⟩

end Node

namespace Builder

open Node

variable {m : Type → Type} [Monad m] [LawfulMonad m] (b : Builder m)

mutual

/-- Without recipes there is nothing to do. -/
theorem resolve_of_value? : (n : Node) → {v : Value} → n.value? = some v → (p : Position) →
    b.resolve p n = pure v
  | .null, _, h, p => by
      cases h
      rfl
  | .bool _, _, h, p => by
      cases h
      rfl
  | .int _, _, h, p => by
      cases h
      rfl
  | .float _, _, h, p => by
      cases h
      rfl
  | .string _, _, h, p => by
      cases h
      rfl
  | .seq items, _, h, p => by
      obtain ⟨values, hvalues, rfl⟩ := Option.map_eq_some_iff.1 h
      rw [resolve, resolveItems_of_values? items hvalues, pure_bind]
  | .map entries, _, h, p => by
      obtain ⟨values, hvalues, rfl⟩ := Option.map_eq_some_iff.1 h
      rw [resolve, resolveEntries_of_values? entries hvalues, pure_bind]
  | .recipe _ _, _, h, _ => by cases h

theorem resolveItems_of_values? : (nodes : List Node) → {values : List Value} →
    itemValues? nodes = some values → (p : Position) → (i : Nat) →
    b.resolveItems p i nodes = pure values
  | [], _, h, _, _ => by
      cases h
      rfl
  | n :: rest, _, h, p, i => by
      obtain ⟨v, vs, hv, hvs, rfl⟩ := itemValues?_cons_eq_some_iff.1 h
      rw [resolveItems, resolve_of_value? n hv, pure_bind, resolveItems_of_values? rest hvs,
        pure_bind]

theorem resolveEntries_of_values? : (nodes : List (String × Node)) → {values : Entries Value} →
    entryValues? nodes = some values → (p : Position) → b.resolveEntries p nodes = pure values
  | [], _, h, _ => by
      cases h
      rfl
  | (k, n) :: rest, _, h, p => by
      obtain ⟨v, vs, hv, hvs, rfl⟩ := entryValues?_cons_eq_some_iff.1 h
      rw [resolveEntries, resolve_of_value? n hv, pure_bind, resolveEntries_of_values? rest hvs,
        pure_bind]

end

end Builder

/-! ## Plain data -/

namespace Tree

/-- A tree that stands somewhere in a document, the document itself included. -/
def Occurs (t u : Tree) : Prop := Relation.ReflTransGen Part t u

/-- No tag and no key `callable` occurs in a document. -/
structure PlainData (t : Tree) : Prop where
  untagged : ∀ tag value, ¬t.Occurs (.tagged tag value)
  data : ∀ entries value, t.Occurs (.map entries) →
    (.string Recipe.callableKey, value) ∉ entries

theorem PlainData.of_part {t u : Tree} (h : t.PlainData) (part : Part t u) : u.PlainData :=
  ⟨fun tag value occurs => h.untagged tag value (.head part occurs),
    fun entries value occurs => h.data entries value (.head part occurs)⟩

theorem PlainData.of_parts {t : Tree} (untagged : ∀ tag value, t ≠ .tagged tag value)
    (data : ∀ entries value, t = .map entries → (.string Recipe.callableKey, value) ∉ entries)
    (parts : ∀ u, Part t u → u.PlainData) : t.PlainData := by
  constructor
  · intro tag value occurs
    rcases Relation.ReflTransGen.cases_head occurs with heq | ⟨u, part, below⟩
    · exact untagged tag value heq
    · exact (parts u part).untagged tag value below
  · intro entries value occurs
    rcases Relation.ReflTransGen.cases_head occurs with heq | ⟨u, part, below⟩
    · exact data entries value heq
    · exact (parts u part).data entries value below

theorem PlainData.of_isScalar {t : Tree} (h : t.IsScalar) : t.PlainData := by
  refine .of_parts ?_ ?_ ?_
  · rintro tag value rfl
    exact h
  · rintro entries value rfl
    exact absurd h id
  · intro u part
    cases part <;> exact absurd h id

/-- A mapping of a single key with no value. -/
def single (key : Tree) : Tree := .map [(key, .null)]

theorem plainData_single {key : Tree} (scalar : key.IsScalar)
    (other : key ≠ .string Recipe.callableKey) : (single key).PlainData := by
  refine .of_parts ?_ ?_ ?_
  · intro tag value heq
    cases heq
  · intro entries value heq hmem
    cases heq
    cases List.mem_singleton.1 hmem
    exact other rfl
  · intro u part
    cases part with
    | key hmem =>
        cases List.mem_singleton.1 hmem
        exact .of_isScalar scalar
    | value hmem =>
        cases List.mem_singleton.1 hmem
        exact .of_isScalar trivial

/-- The text of a key is the same in a decoded mapping and in a parsed one: an integer has 64 bits,
and a floating-point number is written alike in the plain form and in that of YAML. -/
def SpelledAlike : Tree → Prop
  | .int i => ∃ n, int64? i = some n
  | .float x => x.text .plain = x.text .yaml
  | _ => True

/-- The keys of all mappings in a document are spelled alike. -/
def KeysAlike (t : Tree) : Prop :=
  ∀ entries key value, t.Occurs (.map entries) → (key, value) ∈ entries → SpelledAlike key

theorem KeysAlike.of_part {t u : Tree} (h : t.KeysAlike) (part : Part t u) : u.KeysAlike :=
  fun entries key value occurs hmem => h entries key value (.head part occurs) hmem

end Tree

namespace Value

open DataCatalog.Tree

theorem decodesKey_int_iff {i : Int} {name : String} :
    DecodesKey (.int i) name ↔ (∃ n, int64? i = some n) ∧ toString i = name := by
  unfold DecodesKey
  rw [ofTree_int]
  cases hi : int64? i with
  | none => simp
  | some n =>
      rw [← int64?_eq_some hi]
      simp [keyText]

end Value

namespace Tree

/-- The text under which a key is decoded is that under which it is parsed, and neither has one
without the other. -/
theorem spelledAlike_iff {key : Tree} :
    key.SpelledAlike ↔ ∀ name, Value.DecodesKey key name ↔ key.keyText? = some name := by
  cases key with
  | float x =>
      have hdecodes (name : String) : Value.DecodesKey (.float x) name ↔ x.text .plain = name := by
        simp [Value.DecodesKey, Value.ofTree, reading, Value.ofReading, Value.keyText]
      simp only [SpelledAlike, keyText?, hdecodes, Option.some.injEq]
      constructor
      · intro h name
        rw [h]
      · intro h
        exact ((h (x.text .yaml)).2 rfl)
  | int i =>
      simp only [SpelledAlike, keyText?, Value.decodesKey_int_iff, Option.some.injEq]
      constructor
      · intro h name
        exact ⟨fun hname => hname.2, fun hname => ⟨h, hname⟩⟩
      · intro h
        exact ((h (toString i)).2 rfl).1
  | seq items => simp [SpelledAlike, keyText?, Value.not_decodesKey_seq]
  | map entries => simp [SpelledAlike, keyText?, Value.not_decodesKey_map]
  | _ => simp [SpelledAlike, Value.DecodesKey, Value.ofTree, reading, Value.ofReading,
      Value.keyText, keyText?]

end Tree

theorem Value.ofTree_single_eq_ok_iff {key : Tree} {v : Value} :
    ofTree (.single key) = .ok v ↔
      ∃ name, DecodesKey key name ∧ v = .map [(name, .null)] := by
  unfold Tree.single
  rw [ofTree_map_eq_ok_iff]
  simp only [gathers_singleton_iff]
  constructor
  · rintro ⟨_, ⟨⟨name, w⟩, ⟨hkey, hw⟩, rfl⟩, rfl⟩
    cases hw
    exact ⟨name, hkey, rfl⟩
  · rintro ⟨name, hkey, rfl⟩
    exact ⟨_, ⟨(name, .null), ⟨hkey, rfl⟩, rfl⟩, rfl⟩

/-! ## Parsed as a configuration -/

section Parsed

open DataCatalog.Tree Outline Node

/-- A document is parsed as a configuration without recipes, which has a value. -/
def ParsesTo (t : Tree) (p : Position) (v : Value) : Prop :=
  ∃ n, Node.parse t p = .ok n ∧ n.value? = some v

/-- The elements of a sequence are parsed, one by one. -/
theorem parsesTo_seq_iff {items : List Tree} {p : Position} {v : Value} {V : Tree → Value → Prop}
    (hvalues : ∀ t ∈ items, ∀ q w, ParsesTo t q w ↔ V t w) :
    ParsesTo (.seq items) p v ↔ ∃ values, List.Forall₂ V items values ∧ v = .list values := by
  -- the position moves on from element to element, while what an element is parsed to does not
  -- depend on it
  have hitems (i : Nat) (values : List Value) :
      (∃ nodes, itemNodes p i (ofTrees items) = .ok nodes ∧ itemValues? nodes = some values) ↔
        List.Forall₂ V items values := by
    induction items generalizing i values with
    | nil =>
        rw [List.forall₂_nil_left_iff]
        constructor
        · rintro ⟨nodes, hnodes, h⟩
          cases hnodes
          exact (Option.some.inj h).symm
        · rintro rfl
          exact ⟨[], rfl, rfl⟩
    | cons t rest ih =>
        obtain ⟨ht, hrest⟩ := List.forall_mem_cons.1 hvalues
        have hlater := ih hrest (i + 1)
        rw [List.forall₂_cons_left_iff, ofTrees]
        constructor
        · rintro ⟨nodes, hnodes, h⟩
          obtain ⟨n, later, hn, hlater_nodes, rfl⟩ := itemNodes_cons_eq_ok_iff.1 hnodes
          obtain ⟨w, ws, hw, hws, rfl⟩ := itemValues?_cons_eq_some_iff.1 h
          exact ⟨w, ws, (ht _ w).1 ⟨n, hn, hw⟩, (hlater ws).1 ⟨later, hlater_nodes, hws⟩, rfl⟩
        · rintro ⟨w, ws, hw, hws, rfl⟩
          obtain ⟨n, hn, hn_value⟩ := (ht (p.index i) w).2 hw
          obtain ⟨later, hlater_nodes, hlater_values⟩ := (hlater ws).2 hws
          exact ⟨n :: later, itemNodes_cons_eq_ok_iff.2 ⟨n, later, hn, hlater_nodes, rfl⟩,
            itemValues?_cons_eq_some_iff.2 ⟨w, ws, hn_value, hlater_values, rfl⟩⟩
  simp only [← hitems 0]
  unfold ParsesTo
  show (∃ n, Outline.node p (.seq (ofTrees items)) = .ok n ∧ _) ↔ _
  rw [Outline.node]
  cases itemNodes p 0 (ofTrees items) with
  | error e => simp
  | ok nodes => simp [value?, eq_comm]

/-- What stands under a key is parsed, at the position of the key, to a value. -/
def OutlinesTo (p : Position) (entry : String × Outline) (pair : String × Value) : Prop :=
  entry.1 = pair.1 ∧ ∃ n, Outline.node (p.key pair.1) entry.2 = .ok n ∧ n.value? = some pair.2

theorem exists_entryNodes_values_iff {p : Position} {collected : Entries Outline}
    {values : Entries Value} :
    (∃ nodes, entryNodes p collected = .ok nodes ∧ entryValues? nodes = some values) ↔
      List.Forall₂ (OutlinesTo p) collected values := by
  induction collected generalizing values with
  | nil =>
      rw [List.forall₂_nil_left_iff]
      constructor
      · rintro ⟨nodes, hnodes, h⟩
        cases hnodes
        exact (Option.some.inj h).symm
      · rintro rfl
        exact ⟨[], rfl, rfl⟩
  | cons head rest ih =>
      obtain ⟨k, o⟩ := head
      rw [List.forall₂_cons_left_iff]
      constructor
      · rintro ⟨nodes, hnodes, h⟩
        obtain ⟨n, later, hn, hlater, rfl⟩ := entryNodes_cons_eq_ok_iff.1 hnodes
        obtain ⟨v, vs, hv, hvs, rfl⟩ := entryValues?_cons_eq_some_iff.1 h
        exact ⟨(k, v), vs, ⟨rfl, n, hn, hv⟩, ih.1 ⟨later, hlater, hvs⟩, rfl⟩
      · rintro ⟨⟨_, v⟩, vs, ⟨rfl, n, hn, hv⟩, hvs, rfl⟩
        obtain ⟨later, hlater, hlater_values⟩ := ih.2 hvs
        exact ⟨(k, n) :: later, entryNodes_cons_eq_ok_iff.2 ⟨n, later, hn, hlater, rfl⟩,
          entryValues?_cons_eq_some_iff.2 ⟨v, vs, hv, hlater_values, rfl⟩⟩

/-- An entry of a mapping is parsed under the text of its key. -/
structure ParsesEntryTo (p : Position) (entry : Tree × Tree) (pair : String × Value) : Prop where
  key : entry.1.keyText? = some pair.1
  value : ParsesTo entry.2 (p.key pair.1) pair.2

theorem keys_eq_of_outlinesTo {p : Position} {collected : Entries Outline}
    {values : Entries Value} (h : List.Forall₂ (OutlinesTo p) collected values) :
    Entries.keys values = Entries.keys collected := by
  induction h with
  | nil => rfl
  | cons hfirst _ ih =>
      unfold Entries.keys at ih ⊢
      rw [List.map_cons, List.map_cons, hfirst.1, ih]

theorem keyTexts_eq {p : Position} {entries : List (Tree × Tree)} {pairs : Entries Value}
    (h : List.Forall₂ (ParsesEntryTo p) entries pairs) :
    (entries.map fun entry => entry.1.keyText?) = (Entries.keys pairs).map some := by
  induction h with
  | nil => rfl
  | cons hfirst _ ih =>
      unfold Entries.keys at ih ⊢
      rw [List.map_cons, List.map_cons, List.map_cons, hfirst.key, ih]

/-- Keys that have distinct texts can be collected. -/
theorem distinctKeys_of_parsesTo {p : Position} {entries : List (Tree × Tree)}
    {pairs : Entries Value} (h : List.Forall₂ (ParsesEntryTo p) entries pairs)
    (nodup : (Entries.keys pairs).Nodup) : DistinctKeys entries := by
  constructor
  · intro entry hmem
    obtain ⟨pair, -, hpair⟩ := exists_related_of_mem h hmem
    exact exists_keyText?_iff.1 ⟨pair.1, hpair.key⟩
  · have htexts : (entries.map fun entry => entry.1.keyText?).Nodup := by
      rw [keyTexts_eq h]
      exact nodup.map (Option.some_injective String)
    exact List.pairwise_map.1 htexts

theorem Outline.Collects.perm {entries : List (Tree × Tree)} {collected : Entries Outline}
    (h : Collects entries collected) :
    (collected.map fun entry => (some entry.1, entry.2)).Perm
      (entries.map fun entry => (entry.1.keyText?, ofTree entry.2)) := by
  have hperm := perm_of_collect h
  rw [ofTreeEntries_eq_map, List.map_map] at hperm
  exact hperm

/-- A mapping is parsed entry by entry, in whatever order its keys come. -/
theorem outlinesTo_iff {p : Position} {entries : List (Tree × Tree)} {collected : Entries Outline}
    (hcollects : Collects entries collected) {values : Entries Value} :
    List.Forall₂ (OutlinesTo p) collected values ↔ Gathers (ParsesEntryTo p) entries values := by
  -- the same relation on both sides, of texts with what stands under them
  let Q (entry : Option String × Outline) (pair : String × Value) : Prop :=
    entry.1 = some pair.1 ∧
      ∃ n, Outline.node (p.key pair.1) entry.2 = .ok n ∧ n.value? = some pair.2
  have hcollected (found : Entries Value) :
      List.Forall₂ Q (collected.map fun entry => (some entry.1, entry.2)) found ↔
        List.Forall₂ (OutlinesTo p) collected found := by
    rw [List.forall₂_map_left_iff]
    simp only [Q, Option.some.injEq]
    rfl
  have hentries (found : Entries Value) :
      List.Forall₂ Q (entries.map fun entry => (entry.1.keyText?, ofTree entry.2)) found ↔
        List.Forall₂ (ParsesEntryTo p) entries found := by
    rw [List.forall₂_map_left_iff]
    refine forall₂_iff_of_mem fun entry _ pair => ?_
    exact ⟨fun h => ⟨h.1, h.2⟩, fun h => ⟨h.key, h.value⟩⟩
  have hordered {found : Entries Value} (h : List.Forall₂ (OutlinesTo p) collected found) :
      Entries.Ordered found := by
    rw [Entries.ordered_iff_keys, keys_eq_of_outlinesTo h, ← Entries.ordered_iff_keys]
    exact hcollects.ordered
  constructor
  · -- back in the order of the document, what was collected in the order of the texts
    intro h
    obtain ⟨pairs, hpairs, hperm⟩ :=
      List.perm_comp_forall₂ hcollects.perm.symm ((hcollected values).2 h)
    have hnodup : (Entries.keys pairs).Nodup :=
      (hperm.map Prod.fst).nodup_iff.2 (Entries.keys_nodup (hordered h))
    refine ⟨pairs, (hentries pairs).1 hpairs, hnodup, ?_⟩
    apply Entries.eq_of_perm (hordered h) (Entries.ordered_ofList pairs)
    exact hperm.symm.trans (Entries.ofList_perm hnodup).symm
  · rintro ⟨pairs, hpairs, hnodup, rfl⟩
    obtain ⟨found, hfound, hperm⟩ :=
      List.perm_comp_forall₂ hcollects.perm ((hentries pairs).2 hpairs)
    have h := (hcollected found).1 hfound
    have hsame : found = Entries.ofList pairs := by
      apply Entries.eq_of_perm (hordered h) (Entries.ordered_ofList pairs)
      exact hperm.trans (Entries.ofList_perm hnodup).symm
    rwa [hsame] at h

theorem exists_parsesEntries_values_iff {p : Position} {entries : List (Tree × Tree)}
    {values : Entries Value} :
    (∃ nodes, ParsesEntries p entries nodes ∧ entryValues? nodes = some values) ↔
      Gathers (ParsesEntryTo p) entries values := by
  constructor
  · rintro ⟨nodes, ⟨collected, hcollects, hnodes⟩, h⟩
    exact (outlinesTo_iff hcollects).1 (exists_entryNodes_values_iff.1 ⟨nodes, hnodes, h⟩)
  · rintro ⟨pairs, hpairs, hnodup, hgathered⟩
    obtain ⟨collected, hcollects⟩ := exists_collects_iff.2 (distinctKeys_of_parsesTo hpairs hnodup)
    have houtlines := (outlinesTo_iff hcollects).2 ⟨pairs, hpairs, hnodup, hgathered⟩
    obtain ⟨nodes, hnodes, hvalues⟩ := exists_entryNodes_values_iff.2 houtlines
    exact ⟨nodes, ⟨collected, hcollects, hnodes⟩, hvalues⟩

theorem parsesTo_map_iff {entries : List (Tree × Tree)} {p : Position} {v : Value}
    (data : ∀ value, (.string Recipe.callableKey, value) ∉ entries) :
    ParsesTo (.map entries) p v ↔
      ∃ gathered, Gathers (ParsesEntryTo p) entries gathered ∧ v = .map gathered := by
  simp only [← exists_parsesEntries_values_iff]
  unfold ParsesTo Node.parse
  simp only [node_map_eq_ok_iff]
  constructor
  · rintro ⟨n, ⟨-, nodes, hnodes, rfl⟩ | ⟨r, hr, -⟩, hv⟩
    · obtain ⟨values, hvalues, rfl⟩ := Option.map_eq_some_iff.1 hv
      exact ⟨values, ⟨nodes, hnodes, hvalues⟩, rfl⟩
    · obtain ⟨s, hname, -⟩ := hr.name
      exact absurd hname (data _)
  · rintro ⟨values, ⟨nodes, hnodes, hvalues⟩, rfl⟩
    exact ⟨.map nodes, .inl ⟨data, nodes, hnodes, rfl⟩, Option.map_eq_some_iff.2 ⟨_, hvalues, rfl⟩⟩

theorem parsesTo_single_iff {key : Tree} (plain : (single key).PlainData) {p : Position}
    {v : Value} :
    ParsesTo (single key) p v ↔ ∃ name, key.keyText? = some name ∧ v = .map [(name, .null)] := by
  unfold single
  rw [parsesTo_map_iff fun value => plain.data _ value .refl]
  simp only [gathers_singleton_iff]
  constructor
  · rintro ⟨_, ⟨⟨name, w⟩, ⟨hkey, n, hn, hw⟩, rfl⟩, rfl⟩
    cases hn
    cases hw
    exact ⟨name, hkey, rfl⟩
  · rintro ⟨name, hkey, rfl⟩
    exact ⟨_, ⟨(name, .null), ⟨hkey, .null, rfl, rfl⟩, rfl⟩, rfl⟩

/-- What is parsed from plain data has no recipes in it. -/
theorem exists_value_of_parse (t : Tree) (plain : t.PlainData) :
    ∀ p n, Node.parse t p = .ok n → ∃ v, n.value? = some v := by
  induction t using part_induction with
  | step t ih =>
      intro p n h
      cases t with
      | null =>
          cases h
          exact ⟨_, rfl⟩
      | bool b =>
          cases h
          exact ⟨_, rfl⟩
      | float x =>
          cases h
          exact ⟨_, rfl⟩
      | string s =>
          cases h
          exact ⟨_, rfl⟩
      | int i =>
          obtain ⟨k, -, rfl⟩ := parse_int_eq_ok_iff.1 h
          exact ⟨_, rfl⟩
      | tagged tag value => exact absurd .refl (plain.untagged tag value)
      | seq items =>
          obtain ⟨nodes, rfl, -⟩ := of_parse_seq h
          have hvalues : ∀ n ∈ nodes, ∃ v, n.value? = some v := by
            intro n hmem
            obtain ⟨u, hu, q, hn⟩ := exists_item_of_parse_seq h hmem
            have hpart : Part (.seq items) u := .item hu
            exact ih u hpart (plain.of_part hpart) q n hn
          obtain ⟨values, hvalues⟩ := exists_itemValues? hvalues
          exact ⟨.list values, Option.map_eq_some_iff.2 ⟨values, hvalues, rfl⟩⟩
      | map entries =>
          -- a recipe would have the key `callable`
          rcases node_map_eq_ok_iff.1 h with ⟨-, nodes, hnodes, rfl⟩ | ⟨r, hr, -⟩
          · have hvalues : ∀ entry ∈ nodes, ∃ v, entry.2.value? = some v := by
              intro entry hmem
              obtain ⟨k, t, hentry, -, hn⟩ := hnodes.each hmem
              have hpart : Part (.map entries) t := .value hentry
              exact ih t hpart (plain.of_part hpart) _ _ hn
            obtain ⟨values, hvalues⟩ := exists_entryValues? hvalues
            exact ⟨.map values, Option.map_eq_some_iff.2 ⟨values, hvalues, rfl⟩⟩
          · obtain ⟨s, hname, -⟩ := hr.name
            exact absurd hname (plain.data entries _ .refl)

/-- Where keys are spelled alike a document is parsed to the value that it is decoded to. -/
theorem parsesTo_iff (t : Tree) (plain : t.PlainData) (alike : t.KeysAlike) :
    ∀ p v, ParsesTo t p v ↔ Value.ofTree t = .ok v := by
  induction t using part_induction with
  | step t ih =>
      intro p v
      cases t with
      | int i =>
          rw [Value.ofTree_int]
          simp only [ParsesTo, Node.parse, ofTree, Outline.node]
          cases int64? i with
          | none => simp
          | some n => simp [value?]
      | tagged tag value => exact absurd .refl (plain.untagged tag value)
      | seq items =>
          rw [Value.ofTree_seq_eq_ok_iff]
          apply parsesTo_seq_iff
          intro t hmem q w
          have hpart : Part (.seq items) t := .item hmem
          exact ih t hpart (plain.of_part hpart) (alike.of_part hpart) q w
      | map entries =>
          -- entry by entry the two relations are one: by `alike` for keys, by induction for values
          have hentries (entry : Tree × Tree) (hmem : entry ∈ entries) (pair : String × Value) :
              ParsesEntryTo p entry pair ↔ Value.DecodesEntry entry pair := by
            have hpart : Part (.map entries) entry.2 := .value hmem
            have hkey := spelledAlike_iff.1 (alike entries entry.1 entry.2 .refl hmem) pair.1
            have hvalue := ih entry.2 hpart (plain.of_part hpart) (alike.of_part hpart)
              (p.key pair.1) pair.2
            exact ⟨fun h => ⟨hkey.2 h.key, hvalue.1 h.value⟩,
              fun h => ⟨hkey.1 h.key, hvalue.2 h.value⟩⟩
          have data (value : Tree) := plain.data entries value .refl
          rw [Value.ofTree_map_eq_ok_iff, parsesTo_map_iff data]
          simp only [gathers_iff_of_mem hentries]
      | _ => simp [ParsesTo, Node.parse, ofTree, Outline.node, value?, Value.ofTree, reading,
          Value.ofReading]

end Parsed

/-! ## Both ways -/

namespace Builder

open DataCatalog.Tree

variable {σ : Type} (b : Builder (StateM σ))

/-- Parsing plain data and resolving it comes to a value, whatever there is to build with, and
changes nothing. -/
theorem exists_resolved_iff {t : Tree} (plain : t.PlainData) {p q : Position} {s s' : σ}
    {v : Value} :
    (∃ n, Node.parse t p = .ok n ∧ (b.resolve q n).run.run s = (.ok v, s')) ↔
      ParsesTo t p v ∧ s' = s := by
  constructor
  · rintro ⟨n, hn, hrun⟩
    obtain ⟨w, hw⟩ := exists_value_of_parse t plain p n hn
    rw [b.resolve_of_value? n hw] at hrun
    cases hrun
    exact ⟨⟨n, hn, hw⟩, rfl⟩
  · rintro ⟨⟨n, hn, hv⟩, rfl⟩
    refine ⟨n, hn, ?_⟩
    rw [b.resolve_of_value? n hv]
    rfl

/-- A document is decoded exactly when it is parsed and resolved, to the same value. -/
def ConversionsAgree (p q : Position) (s : σ) (t : Tree) : Prop :=
  ∀ v s', (∃ n, Node.parse t p = .ok n ∧ (b.resolve q n).run.run s = (.ok v, s')) ↔
    Value.ofTree t = .ok v ∧ s' = s

/-- A single key tells the two ways apart unless it is spelled alike. -/
theorem agree_single_iff {key : Tree} (plain : (single key).PlainData) (p q : Position) (s : σ) :
    ConversionsAgree b p q s (single key) ↔ key.SpelledAlike := by
  unfold ConversionsAgree
  simp only [exists_resolved_iff b plain, parsesTo_single_iff plain, Value.ofTree_single_eq_ok_iff]
  rw [spelledAlike_iff]
  constructor
  · intro h name
    have hname := h (.map [(name, .null)]) s
    simpa using hname.symm
  · intro h v s'
    simp only [h]

/-- Plain data means the same decoded and parsed and resolved, if its keys are spelled alike.  A key
that is not makes a difference already where it stands alone. -/
theorem conversions_agree (p q : Position) (s : σ) :
    (∀ t : Tree, t.PlainData → t.KeysAlike → ConversionsAgree b p q s t) ∧
      ∀ key, (single key).PlainData →
        (ConversionsAgree b p q s (single key) ↔ key.SpelledAlike) := by
  refine ⟨?_, fun key plain => agree_single_iff b plain p q s⟩
  intro t plain alike v s'
  rw [exists_resolved_iff b plain, parsesTo_iff t plain alike]

/-- A mapping with the number one for a key is decoded with the key `1` and parsed with the key
`1.0`, so that its data depends on where it stands. -/
theorem one_spelled_differently :
    (single (.float (.ofInt 1))).PlainData ∧
      Value.ofTree (single (.float (.ofInt 1))) = .ok (.map [("1", .null)]) ∧
      ∃ n, Node.parse (single (.float (.ofInt 1))) Position.root = .ok n ∧
        ((⟨Registry.empty, Dict.empty⟩ : Builder (StateM Unit)).resolve Position.root n).run.run ()
          = (.ok (.map [("1.0", .null)]), ()) := by
  have hplain_text : (Binary64.ofInt 1).text .plain = "1" := by decide +kernel
  have hyaml_text : (Binary64.ofInt 1).text .yaml = "1.0" := by decide +kernel
  have plain : (single (.float (.ofInt 1))).PlainData :=
    plainData_single trivial fun heq => by cases heq
  refine ⟨plain, ?_, ?_⟩
  · exact Value.ofTree_single_eq_ok_iff.2 ⟨"1", ⟨_, rfl, congrArg Except.ok hplain_text⟩, rfl⟩
  · have hparses := (parsesTo_single_iff plain (p := Position.root)).2
      ⟨"1.0", congrArg some hyaml_text, rfl⟩
    exact (exists_resolved_iff _ plain).2 ⟨hparses, rfl⟩

end Builder

end DataCatalog
