import DataCatalog.Document.Reading
import DataCatalog.Proofs.EntryLists

/-!
# Decoding plain data

A document is decoded entry by entry and element by element.  `ofTree_map_eq_ok_iff` says what comes
of a mapping: every key has a text and every value is decoded, no two texts are the same, and the
entries stand in the order of the texts (`Gathers`).
-/

set_option autoImplicit false

namespace DataCatalog

/-- The entries of a mapping are read one by one, each under a text of its own. -/
def Gathers {α : Type} (ReadsEntry : Tree × Tree → String × α → Prop)
    (entries : List (Tree × Tree)) (gathered : Entries α) : Prop :=
  ∃ pairs, List.Forall₂ ReadsEntry entries pairs ∧ (Entries.keys pairs).Nodup ∧
    gathered = Entries.ofList pairs

/-- Relations that agree on the elements of a list relate it to the same lists. -/
theorem forall₂_iff_of_mem {α β : Type} {R S : α → β → Prop} {as : List α} {bs : List β}
    (h : ∀ a ∈ as, ∀ b, R a b ↔ S a b) : List.Forall₂ R as bs ↔ List.Forall₂ S as bs := by
  induction as generalizing bs with
  | nil => rw [List.forall₂_nil_left_iff, List.forall₂_nil_left_iff]
  | cons a as ih =>
      obtain ⟨ha, has⟩ := List.forall_mem_cons.1 h
      simp only [List.forall₂_cons_left_iff, ha, ih has]

theorem gathers_iff_of_mem {α : Type} {R S : Tree × Tree → String × α → Prop}
    {entries : List (Tree × Tree)} {gathered : Entries α}
    (h : ∀ entry ∈ entries, ∀ pair, R entry pair ↔ S entry pair) :
    Gathers R entries gathered ↔ Gathers S entries gathered := by
  simp only [Gathers, forall₂_iff_of_mem h]

theorem gathers_singleton_iff {α : Type} {R : Tree × Tree → String × α → Prop}
    {entry : Tree × Tree} {gathered : Entries α} :
    Gathers R [entry] gathered ↔ ∃ pair, R entry pair ∧ gathered = [pair] := by
  constructor
  · rintro ⟨_, hpairs, -, rfl⟩
    obtain ⟨pair, _, hpair, hnil, rfl⟩ := List.forall₂_cons_left_iff.1 hpairs
    cases hnil
    exact ⟨pair, hpair, rfl⟩
  · rintro ⟨pair, hpair, rfl⟩
    exact ⟨[pair], .cons hpair .nil, List.pairwise_singleton _ _, rfl⟩

namespace Value

open DataCatalog.Tree Entries

/-- The text of a key that is decoded. -/
def DecodesKey (key : Tree) (name : String) : Prop :=
  ∃ k, ofTree key = .ok k ∧ keyText k = .ok name

/-- An entry of a mapping is decoded under the text of its key. -/
structure DecodesEntry (entry : Tree × Tree) (pair : String × Value) : Prop where
  key : DecodesKey entry.1 pair.1
  value : ofTree entry.2 = .ok pair.2

theorem addEntry_eq_ok_iff {entries added : Entries Value} {key : String} {value : Value} :
    addEntry entries key value = .ok added ↔
      has key entries = false ∧ put key value entries = added := by
  unfold addEntry
  cases has key entries with
  | true => simp
  | false => simp

theorem ofReadings_eq_ok_iff {items : List Tree} {values : List Value} :
    ofReadings (readings items) = .ok values ↔
      List.Forall₂ (fun t v => ofTree t = .ok v) items values := by
  induction items generalizing values with
  | nil => simp [readings, ofReadings, eq_comm]
  | cons t rest ih =>
      rw [List.forall₂_cons_left_iff]
      unfold readings ofReadings
      constructor
      · intro h
        split at h
        · cases h
        · rename_i v hv
          split at h
          · cases h
          · rename_i vs hvs
            cases h
            exact ⟨v, vs, hv, ih.1 hvs, rfl⟩
      · rintro ⟨v, vs, hv, hvs, rfl⟩
        rw [show ofReading t.reading = .ok v from hv]
        simp only [ih.2 hvs]

/-- One entry is added, and then the others. -/
theorem ofReadingEntries_cons_eq_ok_iff {acc added : Entries Value} {k t : Tree}
    {rest : List (Reading × Reading)} :
    ofReadingEntries acc ((k.reading, t.reading) :: rest) = .ok added ↔
      ∃ pair, DecodesEntry (k, t) pair ∧ has pair.1 acc = false ∧
        ofReadingEntries (put pair.1 pair.2 acc) rest = .ok added := by
  rw [ofReadingEntries]
  constructor
  · intro h
    split at h
    · cases h
    · rename_i key hkey
      split at h
      · cases h
      · rename_i v hv
        split at h
        · cases h
        · rename_i name hname
          split at h
          · cases h
          · rename_i found hfound
            obtain ⟨hnew, rfl⟩ := addEntry_eq_ok_iff.1 hfound
            exact ⟨(name, v), ⟨⟨key, hkey, hname⟩, hv⟩, hnew, h⟩
  · rintro ⟨⟨name, v⟩, ⟨⟨key, hkey, hname⟩, hv⟩, hnew, h⟩
    simp only [show ofReading k.reading = .ok key from hkey,
      show ofReading t.reading = .ok v from hv, hname, addEntry_eq_ok_iff.2 ⟨hnew, rfl⟩, h]

theorem forall_has_put_iff {acc : Entries Value} {pair : String × Value} {names : List String} :
    (∀ key ∈ names, has key (put pair.1 pair.2 acc) = false) ↔
      pair.1 ∉ names ∧ ∀ key ∈ names, has key acc = false := by
  simp only [has_put, Bool.or_eq_false_iff, decide_eq_false_iff_not]
  constructor
  · intro h
    exact ⟨fun hmem => (h pair.1 hmem).1 rfl, fun key hmem => (h key hmem).2⟩
  · rintro ⟨hnew, hfree⟩ key hmem
    exact ⟨fun heq => hnew (heq ▸ hmem), hfree key hmem⟩

/-- Entries are added under distinct texts that are not taken yet. -/
theorem ofReadingEntries_eq_ok_iff {acc added : Entries Value} {entries : List (Tree × Tree)} :
    ofReadingEntries acc (readingEntries entries) = .ok added ↔
      ∃ pairs, List.Forall₂ DecodesEntry entries pairs ∧ (keys pairs).Nodup ∧
        (∀ key ∈ keys pairs, has key acc = false) ∧
        added = pairs.foldl (fun found pair => put pair.1 pair.2 found) acc := by
  induction entries generalizing acc with
  | nil =>
      simp only [List.forall₂_nil_left_iff]
      constructor
      · intro h
        cases h
        exact ⟨[], rfl, .nil, fun key hmem => absurd hmem List.not_mem_nil, rfl⟩
      · rintro ⟨_, rfl, -, -, rfl⟩
        rfl
  | cons head rest ih =>
      obtain ⟨k, t⟩ := head
      rw [readingEntries, ofReadingEntries_cons_eq_ok_iff]
      simp only [ih, forall_has_put_iff]
      constructor
      · rintro ⟨pair, hpair, hfree, pairs, hpairs, hnodup, ⟨hnew, hacc⟩, rfl⟩
        exact ⟨pair :: pairs, .cons hpair hpairs, List.nodup_cons.2 ⟨hnew, hnodup⟩,
          List.forall_mem_cons.2 ⟨hfree, hacc⟩, rfl⟩
      · rintro ⟨_, hall, hnodup, hfree, rfl⟩
        obtain ⟨pair, pairs, hpair, hpairs, rfl⟩ := List.forall₂_cons_left_iff.1 hall
        obtain ⟨hnew, hnodup⟩ := List.nodup_cons.1 hnodup
        obtain ⟨hpair_free, hfree⟩ := List.forall_mem_cons.1 hfree
        exact ⟨pair, hpair, hpair_free, pairs, hpairs, hnodup, ⟨hnew, hfree⟩, rfl⟩

theorem ofTree_seq_eq_ok_iff {items : List Tree} {v : Value} :
    ofTree (.seq items) = .ok v ↔
      ∃ values, List.Forall₂ (fun t w => ofTree t = .ok w) items values ∧ v = .list values := by
  simp only [← ofReadings_eq_ok_iff]
  show ofReading (.seq (readings items)) = _ ↔ _
  rw [ofReading]
  cases ofReadings (readings items) with
  | error e => simp
  | ok values => simp [eq_comm]

theorem ofTree_map_eq_ok_iff {entries : List (Tree × Tree)} {v : Value} :
    ofTree (.map entries) = .ok v ↔
      ∃ gathered, Gathers DecodesEntry entries gathered ∧ v = .map gathered := by
  have hentries (added : Entries Value) : ofReadingEntries [] (readingEntries entries) = .ok added ↔
      Gathers DecodesEntry entries added := by
    rw [ofReadingEntries_eq_ok_iff]
    constructor
    · rintro ⟨pairs, hpairs, hnodup, -, hadded⟩
      exact ⟨pairs, hpairs, hnodup, hadded⟩
    · rintro ⟨pairs, hpairs, hnodup, hadded⟩
      exact ⟨pairs, hpairs, hnodup, fun _ _ => rfl, hadded⟩
  simp only [← hentries]
  show ofReading (.map (readingEntries entries)) = _ ↔ _
  rw [ofReading]
  cases ofReadingEntries [] (readingEntries entries) with
  | error e => simp
  | ok added => simp [eq_comm]

theorem not_decodesKey_seq {items : List Tree} {name : String} :
    ¬DecodesKey (.seq items) name := by
  rintro ⟨key, hkey, hname⟩
  obtain ⟨values, -, rfl⟩ := ofTree_seq_eq_ok_iff.1 hkey
  cases hname

theorem not_decodesKey_map {entries : List (Tree × Tree)} {name : String} :
    ¬DecodesKey (.map entries) name := by
  rintro ⟨key, hkey, hname⟩
  obtain ⟨gathered, -, rfl⟩ := ofTree_map_eq_ok_iff.1 hkey
  cases hname

theorem ofTree_int (i : Int) :
    ofTree (.int i) = ((int64? i).elim (.error (.integerRange i)) fun n => .ok (.int n)) := by
  show ofReading (.int i) = _
  rw [ofReading]
  cases int64? i with
  | none => rfl
  | some n => rfl

end Value

end DataCatalog
