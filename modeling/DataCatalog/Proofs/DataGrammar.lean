import DataCatalog.Proofs.PlainData

/-!
# The grammar of data

Which documents are data is said of the document alone, of each tree in it by itself: `Tree.IsData`
asks for integers of 64 bits and for mappings with scalar keys that stay distinct as texts.  Keys
are trees of their own, read before they are judged.

Main statement: `ofTree_iff_isData` says that a document is decoded exactly when all trees in it are
data, and that nothing is lost then: by `Tree.Says` every sequence keeps its elements in their order
and every mapping has one entry for each of its own.
-/

set_option autoImplicit false

namespace DataCatalog

namespace Tree

/-- The text under which a key is decoded. -/
def plainKey? : Tree → Option String
  | .string s => some s
  | .int i => some (toString i)
  | .float x => some (x.text .plain)
  | .bool b => some (if b then "true" else "false")
  | .null => some "null"
  | _ => none

/-- Every key is an untagged scalar, and no two of them have the same text. -/
structure DistinctTexts (entries : List (Tree × Tree)) : Prop where
  scalar : ∀ entry ∈ entries, entry.1.IsScalar
  distinct : (entries.map fun entry => entry.1.plainKey?).Nodup

/-- What is asked of a tree by itself: an integer has 64 bits, the keys of a mapping are scalars
with distinct texts, and there is no tag. -/
def IsData : Tree → Prop
  | .int i => Int64.minValue.toInt ≤ i ∧ i ≤ Int64.maxValue.toInt
  | .map entries => DistinctTexts entries
  | .tagged _ _ => False
  | _ => True

/-- One entry for every key, and no other, in the order of the texts of the keys. -/
structure SameTexts (entries : List (Tree × Tree)) (found : Entries Value) : Prop where
  ordered : Entries.Ordered found
  perm : (entries.map fun entry => entry.1.plainKey?).Perm (found.map fun entry => some entry.1)

/-- A value says what a document says. -/
inductive Says : Tree → Value → Prop
  | null : Says .null .null
  | bool (b : Bool) : Says (.bool b) (.bool b)
  | int {i : Int} {n : Int64} (same : n.toInt = i) : Says (.int i) (.int n)
  | float (x : Binary64) : Says (.float x) (.float x)
  | string (s : String) : Says (.string s) (.string s)
  | seq {items : List Tree} {values : List Value} (length : values.length = items.length)
      (each : ∀ (i : Nat) (t : Tree) (v : Value), items[i]? = some t → values[i]? = some v →
        Says t v) :
      Says (.seq items) (.list values)
  | map {entries : List (Tree × Tree)} {found : Entries Value} (keys : SameTexts entries found)
      (each : ∀ k t name v, (k, t) ∈ entries → k.plainKey? = some name → (name, v) ∈ found →
        Says t v) :
      Says (.map entries) (.map found)

theorem exists_plainKey?_iff {k : Tree} : (∃ name, k.plainKey? = some name) ↔ k.IsScalar := by
  cases k <;> simp [plainKey?, IsScalar]

/-- Something holds of all trees in a document when it holds of the document and of all trees in
its parts. -/
theorem forall_occurs_iff {P : Tree → Prop} {t : Tree} :
    (∀ u, t.Occurs u → P u) ↔ P t ∧ ∀ u, Part t u → ∀ v, u.Occurs v → P v :=
  forall_reached_iff

end Tree

namespace Value

open DataCatalog.Tree

/-- A key is decoded when it can be read and has a text. -/
theorem decodesKey_iff {key : Tree} {name : String} :
    DecodesKey key name ↔ (∃ v, ofTree key = .ok v) ∧ key.plainKey? = some name := by
  cases key with
  | int i =>
      rw [decodesKey_int_iff, ofTree_int, plainKey?, Option.some.injEq]
      refine and_congr_left fun _ => ?_
      cases int64? i with
      | none => simp
      | some n => simp
  | seq items => simp [not_decodesKey_seq, plainKey?]
  | map entries => simp [not_decodesKey_map, plainKey?]
  | _ => simp [DecodesKey, ofTree, reading, ofReading, keyText, plainKey?]

section Entries

variable {entries : List (Tree × Tree)} {pairs : Entries Value}

theorem texts_eq (h : List.Forall₂ DecodesEntry entries pairs) :
    (entries.map fun entry => entry.1.plainKey?) = pairs.map fun pair => some pair.1 := by
  induction h with
  | nil => rfl
  | cons hfirst _ ih => rw [List.map_cons, List.map_cons, ih, (decodesKey_iff.1 hfirst.key).2]

theorem texts_nodup_iff (h : List.Forall₂ DecodesEntry entries pairs) :
    (entries.map fun entry => entry.1.plainKey?).Nodup ↔ (Entries.keys pairs).Nodup := by
  have hkeys : (pairs.map fun pair => some pair.1) = (Entries.keys pairs).map some := by
    rw [Entries.keys, List.map_map]
    rfl
  rw [texts_eq h, hkeys]
  exact List.nodup_map_iff (Option.some_injective String)

/-- A mapping is decoded when its keys are scalars with distinct texts, and its keys and values can
be read. -/
theorem exists_ofTree_map_iff :
    (∃ v, ofTree (.map entries) = .ok v) ↔
      DistinctTexts entries ∧ ∀ u, Part (.map entries) u → ∃ v, ofTree u = .ok v := by
  simp only [ofTree_map_eq_ok_iff]
  constructor
  · rintro ⟨_, _, ⟨pairs, hpairs, hnodup, -⟩, -⟩
    have hentry {entry : Tree × Tree} (hmem : entry ∈ entries) : ∃ pair, DecodesEntry entry pair :=
      (exists_related_of_mem hpairs hmem).imp fun _ => And.right
    refine ⟨⟨fun entry hmem => ?_, (texts_nodup_iff hpairs).2 hnodup⟩, fun u part => ?_⟩
    · obtain ⟨pair, hpair⟩ := hentry hmem
      exact exists_plainKey?_iff.1 ⟨pair.1, (decodesKey_iff.1 hpair.key).2⟩
    · cases part with
      | key hmem =>
          obtain ⟨pair, hpair⟩ := hentry hmem
          exact (decodesKey_iff.1 hpair.key).1
      | value hmem =>
          obtain ⟨pair, hpair⟩ := hentry hmem
          exact ⟨pair.2, hpair.value⟩
  · rintro ⟨⟨scalar, distinct⟩, heach⟩
    have hentries : ∀ entry ∈ entries, ∃ pair, DecodesEntry entry pair := by
      rintro ⟨k, t⟩ hmem
      obtain ⟨name, hname⟩ := exists_plainKey?_iff.2 (scalar (k, t) hmem)
      obtain ⟨v, hv⟩ := heach t (.value hmem)
      exact ⟨(name, v), decodesKey_iff.2 ⟨heach k (.key hmem), hname⟩, hv⟩
    obtain ⟨pairs, hpairs⟩ := exists_forall₂_iff.2 hentries
    exact ⟨_, _, ⟨pairs, hpairs, (texts_nodup_iff hpairs).1 distinct, rfl⟩, rfl⟩

end Entries

theorem exists_ofTree_seq_iff {items : List Tree} :
    (∃ v, ofTree (.seq items) = .ok v) ↔ ∀ u, Part (.seq items) u → ∃ v, ofTree u = .ok v := by
  simp only [ofTree_seq_eq_ok_iff]
  constructor
  · rintro ⟨_, values, hvalues, -⟩ u part
    cases part with
    | item hmem => exact exists_forall₂_iff.1 ⟨values, hvalues⟩ u hmem
  · intro heach
    obtain ⟨values, hvalues⟩ := exists_forall₂_iff.2 fun u hmem => heach u (.item hmem)
    exact ⟨_, values, hvalues, rfl⟩

/-- A document is decoded exactly when all trees in it are data. -/
theorem exists_ofTree_iff (t : Tree) :
    (∃ v, ofTree t = .ok v) ↔ ∀ u, t.Occurs u → u.IsData := by
  induction t using part_induction with
  | step t ih =>
      rw [forall_occurs_iff]
      have hparts : (∀ u, Part t u → ∃ v, ofTree u = .ok v) ↔
          ∀ u, Part t u → ∀ v, u.Occurs v → v.IsData :=
        forall₂_congr fun u part => ih u part
      rw [← hparts]
      cases t with
      | int i =>
          rw [IsData, ← exists_int64?_iff, ofTree_int]
          constructor
          · rintro ⟨v, hv⟩
            refine ⟨?_, fun u part => by cases part⟩
            cases hi : int64? i with
            | none =>
                rw [hi] at hv
                cases hv
            | some n => exact ⟨n, rfl⟩
          · rintro ⟨⟨n, hn⟩, -⟩
            rw [hn]
            exact ⟨.int n, rfl⟩
      | seq items =>
          rw [exists_ofTree_seq_iff]
          exact ⟨fun heach => ⟨trivial, heach⟩, And.right⟩
      | map entries => exact exists_ofTree_map_iff
      | tagged tag value =>
          constructor
          · rintro ⟨v, hv⟩
            cases hv
          · rintro ⟨h, -⟩
            exact h.elim
      | _ =>
          constructor
          · intro _
            exact ⟨trivial, fun u part => by cases part⟩
          · intro _
            exact ⟨_, rfl⟩

/-- Entries that are decoded say what the entries of the document say. -/
theorem says_of_gathers {entries : List (Tree × Tree)} {found : Entries Value}
    (h : Gathers DecodesEntry entries found)
    (hvalues : ∀ k t, (k, t) ∈ entries → ∀ v, ofTree t = .ok v → t.Says v) :
    Says (.map entries) (.map found) := by
  obtain ⟨pairs, hpairs, hnodup, rfl⟩ := h
  have hperm := Entries.ofList_perm hnodup
  refine .map ⟨Entries.ordered_ofList pairs, ?_⟩ ?_
  · rw [texts_eq hpairs]
    exact (hperm.map fun pair => some pair.1).symm
  · intro k t name v hmem hname hfound
    obtain ⟨⟨name', v'⟩, hpair, hkey, hvalue⟩ := exists_related_of_mem hpairs hmem
    -- one text belongs to one value
    obtain rfl : name' = name := Option.some.inj ((decodesKey_iff.1 hkey).2.symm.trans hname)
    have hsame : some v' = some v :=
      (Entries.get?_ofList_of_mem hnodup hpair).symm.trans
        (Entries.get?_ofList_of_mem hnodup (hperm.mem_iff.1 hfound))
    rw [← Option.some.inj hsame]
    exact hvalues k t hmem v' hvalue

/-- What is decoded from a document says what the document says. -/
theorem says_of_ofTree (t : Tree) : ∀ v, ofTree t = .ok v → t.Says v := by
  induction t using part_induction with
  | step t ih =>
      intro v h
      cases t with
      | null =>
          cases h
          exact .null
      | bool b =>
          cases h
          exact .bool b
      | float x =>
          cases h
          exact .float x
      | string s =>
          cases h
          exact .string s
      | int i =>
          rw [ofTree_int] at h
          cases hi : int64? i with
          | none =>
              rw [hi] at h
              cases h
          | some n =>
              rw [hi] at h
              cases h
              exact .int (int64?_eq_some hi)
      | tagged tag value => cases h
      | seq items =>
          obtain ⟨values, hvalues, rfl⟩ := ofTree_seq_eq_ok_iff.1 h
          refine .seq hvalues.length_eq.symm ?_
          intro i t v ht hv
          obtain ⟨hi, rfl⟩ := List.getElem?_eq_some_iff.1 ht
          obtain ⟨hj, rfl⟩ := List.getElem?_eq_some_iff.1 hv
          exact ih _ (.item (List.getElem_mem hi)) _ (hvalues.get hi hj)
      | map entries =>
          obtain ⟨found, hfound, rfl⟩ := ofTree_map_eq_ok_iff.1 h
          exact says_of_gathers hfound fun k t hmem => ih t (.value hmem)

/-- Decoding accepts exactly the documents all of whose trees are data, and loses nothing: whether a
document is decoded is a matter of its trees one by one, keys included, and what is decoded then
keeps the elements of every sequence and one entry for every entry of every mapping. -/
theorem ofTree_iff_isData (t : Tree) :
    ((∃ v, ofTree t = .ok v) ↔ ∀ u, t.Occurs u → u.IsData) ∧
      ∀ v, ofTree t = .ok v → t.Says v :=
  ⟨exists_ofTree_iff t, says_of_ofTree t⟩

example : ofTree (.map [(.int 1, .null), (.string "1", .bool true)]) =
    .error (.duplicateKey "1") := rfl

end Value

end DataCatalog
