import DataCatalog.Host.Effects
import DataCatalog.Json.Parser
import DataCatalog.Proofs.WrittenForm

/-!
# Reading back what was written down

Values are written down as documents and as JSON documents, and read back as data.  Lists and maps
come back with what became of their parts; `ReadsBack` says this once for both forms, so that only
the leaves differ: built things come back as words for them, and every NaN as the same one.

Main statement: `Value.ofTree_toTree` says what comes back from a document and, where all floats are
finite, from a JSON document.
-/

set_option autoImplicit false

namespace DataCatalog

namespace Binary64

theorem canonical_of_isFinite {x : Binary64} (h : x.isFinite = true) : x.canonical = x := by
  have hnan : x.isNaN = false := by
    unfold isFinite at h
    unfold isNaN
    rw [beq_eq_false_iff_ne.2 (bne_iff_ne.1 h), Bool.false_and]
  unfold canonical
  rw [hnan]
  rfl

theorem canonical_canonical (x : Binary64) : x.canonical.canonical = x.canonical := by
  unfold canonical
  by_cases h : x.isNaN = true
  · simp only [if_pos h]
    rfl
  · simp only [if_neg h]

end Binary64

namespace Value

/-! ## The leaves of a value -/

/-- Values that are no lists and no maps. -/
def IsLeaf : Value → Prop
  | .list _ => False
  | .map _ => False
  | _ => True

mutual

/-- Changes the leaves of a value; its lists and maps stay as they are. -/
def atLeaves (change : Value → Value) : Value → Value
  | .list items => .list (itemsAtLeaves change items)
  | .map entries => .map (entriesAtLeaves change entries)
  | leaf => change leaf

def itemsAtLeaves (change : Value → Value) : List Value → List Value
  | [] => []
  | v :: rest => atLeaves change v :: itemsAtLeaves change rest

def entriesAtLeaves (change : Value → Value) : List (String × Value) → List (String × Value)
  | [] => []
  | (k, v) :: rest => (k, atLeaves change v) :: entriesAtLeaves change rest

end

/-- A property of every leaf of a value. -/
inductive EveryLeaf (P : Value → Prop) : Value → Prop
  | leaf {v : Value} (isLeaf : v.IsLeaf) (holds : P v) : EveryLeaf P v
  | list {items : List Value} (each : ∀ v ∈ items, EveryLeaf P v) : EveryLeaf P (.list items)
  | map {entries : Entries Value} (each : ∀ entry ∈ entries, EveryLeaf P entry.2) :
      EveryLeaf P (.map entries)

/-- Every map in a value has its keys in increasing order. -/
inductive Ordered : Value → Prop
  | leaf {v : Value} (isLeaf : v.IsLeaf) : Ordered v
  | list {items : List Value} (each : ∀ v ∈ items, Ordered v) : Ordered (.list items)
  | map {entries : Entries Value} (keys : Entries.Ordered entries)
      (each : ∀ entry ∈ entries, Ordered entry.2) : Ordered (.map entries)

section Leaves

variable {change change' : Value → Value} {v : Value}

theorem atLeaves_of_isLeaf (change : Value → Value) (h : v.IsLeaf) :
    v.atLeaves change = change v := by
  cases v with
  | list items => exact h.elim
  | map entries => exact h.elim
  | _ => rfl

theorem atLeaves_list (change : Value → Value) (items : List Value) :
    (Value.list items).atLeaves change = .list (items.map (·.atLeaves change)) := by
  have hitems : itemsAtLeaves change items = items.map (·.atLeaves change) := by
    induction items with
    | nil => rfl
    | cons v rest ih => rw [itemsAtLeaves, ih, List.map_cons]
  rw [atLeaves, hitems]

theorem atLeaves_map (change : Value → Value) (entries : Entries Value) :
    (Value.map entries).atLeaves change =
      .map (Entries.mapValues (fun _ v => v.atLeaves change) entries) := by
  have hentries : entriesAtLeaves change entries =
      Entries.mapValues (fun _ v => v.atLeaves change) entries := by
    induction entries with
    | nil => rfl
    | cons entry rest ih =>
        obtain ⟨k, v⟩ := entry
        rw [entriesAtLeaves, ih]
        rfl
  rw [atLeaves, hentries]

/-- Leaves that are changed alike become the same. -/
theorem EveryLeaf.atLeaves_congr (h : v.EveryLeaf fun leaf => change leaf = change' leaf) :
    v.atLeaves change = v.atLeaves change' := by
  induction h with
  | leaf isLeaf holds => rw [atLeaves_of_isLeaf _ isLeaf, atLeaves_of_isLeaf _ isLeaf, holds]
  | list each ih => rw [atLeaves_list, atLeaves_list, List.map_congr_left ih]
  | map each ih =>
      rw [atLeaves_map, atLeaves_map]
      refine congrArg Value.map (List.map_congr_left fun entry hmem => ?_)
      exact congrArg (Prod.mk entry.1) (ih entry hmem)

/-- A value whose leaves are not changed stays as it is. -/
theorem EveryLeaf.atLeaves_eq_self (h : v.EveryLeaf fun leaf => change leaf = leaf) :
    v.atLeaves change = v := by
  induction h with
  | leaf isLeaf holds => rw [atLeaves_of_isLeaf _ isLeaf, holds]
  | list each ih => rw [atLeaves_list, List.map_congr_left ih, List.map_id']
  | map each ih =>
      rw [atLeaves_map]
      refine congrArg Value.map ((List.map_congr_left fun entry hmem => ?_).trans (List.map_id _))
      exact congrArg (Prod.mk entry.1) (ih entry hmem)

theorem EveryLeaf.mono {P Q : Value → Prop} (himp : ∀ leaf, P leaf → Q leaf) (h : v.EveryLeaf P) :
    v.EveryLeaf Q := by
  induction h with
  | leaf isLeaf holds => exact .leaf isLeaf (himp _ holds)
  | list each ih => exact .list ih
  | map each ih => exact .map ih

theorem Ordered.everyLeaf {P : Value → Prop} (h : v.Ordered) (holds : ∀ leaf, P leaf) :
    v.EveryLeaf P := by
  induction h with
  | leaf isLeaf => exact .leaf isLeaf (holds _)
  | list each ih => exact .list ih
  | map keys each ih => exact .map ih

section Keeping

variable (keeps : ∀ leaf : Value, leaf.IsLeaf → (change leaf).IsLeaf)
include keeps

theorem Ordered.atLeaves (h : v.Ordered) : (v.atLeaves change).Ordered := by
  induction h with
  | leaf isLeaf =>
      rw [atLeaves_of_isLeaf _ isLeaf]
      exact .leaf (keeps _ isLeaf)
  | list each ih =>
      rw [atLeaves_list]
      exact .list (List.forall_mem_map.2 ih)
  | map keys each ih =>
      rw [atLeaves_map]
      exact .map (Entries.ordered_mapValues _ keys) (List.forall_mem_map.2 ih)

theorem Ordered.atLeaves_atLeaves (h : v.Ordered) (change' : Value → Value) :
    (v.atLeaves change).atLeaves change' = v.atLeaves fun leaf => change' (change leaf) := by
  induction h with
  | leaf isLeaf =>
      rw [atLeaves_of_isLeaf _ isLeaf, atLeaves_of_isLeaf _ isLeaf,
        atLeaves_of_isLeaf _ (keeps _ isLeaf)]
  | list each ih =>
      rw [atLeaves_list, atLeaves_list, atLeaves_list, List.map_map]
      exact congrArg Value.list (List.map_congr_left ih)
  | map keys each ih =>
      rw [atLeaves_map, atLeaves_map, atLeaves_map]
      unfold Entries.mapValues
      rw [List.map_map]
      refine congrArg Value.map (List.map_congr_left fun entry hmem => ?_)
      exact congrArg (Prod.mk entry.1) (ih entry hmem)

end Keeping

end Leaves

/-! ## Writing and reading -/

/-- A way to write values down under which lists and maps are read back part by part. -/
structure ReadsBack (written : Value → Reading) (back : Value → Value) : Prop where
  list : ∀ items, written (.list items) = .seq (items.map written)
  map : ∀ entries : Entries Value,
    written (.map entries) = .map (entries.map fun entry => (.string entry.1, written entry.2))
  leaf : ∀ v : Value, v.IsLeaf → ofReading (written v) = .ok (back v)

theorem ofReadings_map {written : Value → Reading} {back : Value → Value} {items : List Value}
    (each : ∀ v ∈ items, ofReading (written v) = .ok (back v)) :
    ofReadings (items.map written) = .ok (items.map back) := by
  induction items with
  | nil => rfl
  | cons v rest ih =>
      obtain ⟨hv, hrest⟩ := List.forall_mem_cons.1 each
      rw [List.map_cons, ofReadings, hv]
      dsimp only
      rw [ih hrest]
      rfl

/-- Entries in order that are beyond those before them are added at the end, one by one. -/
theorem ofReadingEntries_map {written : Value → Reading} {back : Value → Value}
    {entries : Entries Value} (keys : Entries.Ordered entries)
    (each : ∀ entry ∈ entries, ofReading (written entry.2) = .ok (back entry.2))
    {acc : Entries Value} (beyond : ∀ old ∈ acc, ∀ entry ∈ entries, old.1 < entry.1) :
    ofReadingEntries acc (entries.map fun entry => (.string entry.1, written entry.2)) =
      .ok (acc ++ Entries.mapValues (fun _ v => back v) entries) := by
  induction entries generalizing acc with
  | nil => rw [show Entries.mapValues _ [] = [] from rfl, List.append_nil]; rfl
  | cons entry rest ih =>
      obtain ⟨k, v⟩ := entry
      obtain ⟨hfirst, hkeys⟩ := List.pairwise_cons.1 keys
      obtain ⟨hv, hrest⟩ := List.forall_mem_cons.1 each
      have hbefore : ∀ old ∈ acc, old.1 < k := fun old hold => beyond old hold _ List.mem_cons_self
      have hadd : addEntry acc k (back v) = .ok (acc ++ [(k, back v)]) := by
        have hnew : Entries.has k acc = false := by
          rw [Entries.has, List.any_eq_false]
          intro old hold heq
          exact String.lt_irrefl k ((of_decide_eq_true heq) ▸ hbefore old hold)
        rw [addEntry, hnew, Entries.put_of_forall_lt _ hbefore]
        rfl
      have hnext : ∀ old ∈ acc ++ [(k, back v)], ∀ entry ∈ rest, old.1 < entry.1 := by
        intro old hold entry hmem
        rcases List.mem_append.1 hold with hold | hold
        · exact beyond old hold entry (List.mem_cons_of_mem _ hmem)
        · rw [List.mem_singleton.1 hold]
          exact hfirst entry hmem
      have hlater := ih hkeys hrest hnext
      rw [List.append_assoc] at hlater
      have hkey : ofReading (.string k) = .ok (.string k) := rfl
      rw [List.map_cons, ofReadingEntries, hkey]
      dsimp only
      rw [hv]
      dsimp only
      rw [keyText]
      dsimp only
      rw [hadd]
      exact hlater

/-- What is read back of a value is the value with its leaves read back. -/
theorem ReadsBack.ofReading_eq {written : Value → Reading} {back : Value → Value}
    (h : ReadsBack written back) {v : Value} (ordered : v.Ordered) :
    ofReading (written v) = .ok (v.atLeaves back) := by
  induction ordered with
  | leaf isLeaf => rw [h.leaf _ isLeaf, atLeaves_of_isLeaf _ isLeaf]
  | list each ih => rw [h.list, ofReading, ofReadings_map ih, atLeaves_list]
  | @map entries keys each ih =>
      have hempty : ∀ old ∈ ([] : Entries Value), ∀ entry ∈ entries, old.1 < entry.1 :=
        fun _ hold => absurd hold List.not_mem_nil
      rw [h.map, ofReading, ofReadingEntries_map keys ih hempty, atLeaves_map]
      rfl

/-- Leaves that are read back as they are make up a value that is. -/
theorem ReadsBack.ofReading_settled {written : Value → Reading} {back change : Value → Value}
    (h : ReadsBack written back) {v : Value} (ordered : v.Ordered)
    (keeps : ∀ leaf : Value, leaf.IsLeaf → (change leaf).IsLeaf)
    (settled : v.EveryLeaf fun leaf => back (change leaf) = change leaf) :
    ofReading (written (v.atLeaves change)) = .ok (v.atLeaves change) := by
  rw [h.ofReading_eq (ordered.atLeaves keeps), ordered.atLeaves_atLeaves keeps,
    settled.atLeaves_congr]

/-! ## Documents and JSON documents -/

section Documents

variable (describe : Source → String)

/-- The words for a built thing; any other leaf stands for itself. -/
def words : Value → Value
  | .object o => .string ("<" ++ o.typeName ++ ">")
  | .source s => .string ("<source " ++ describe s ++ ">")
  | leaf => leaf

/-- The one NaN for every NaN; any other leaf stands for itself. -/
def oneNaN : Value → Value
  | .float x => .float x.canonical
  | leaf => leaf

/-- The words for a built thing, and null for a float that JSON has no words for. -/
def wordsInJson : Value → Value
  | .float x => if x.isFinite then .float x else .null
  | leaf => words describe leaf

/-- A value with words in place of all built things. -/
def worded (v : Value) : Value := v.atLeaves (words describe)

/-- A value with the one NaN in place of all NaNs. -/
def canonical (v : Value) : Value := v.atLeaves oneNaN

/-- Values that are plain data all the way down. -/
def IsPlain (v : Value) : Prop :=
  v.EveryLeaf fun leaf => (∀ o, leaf ≠ .object o) ∧ ∀ s, leaf ≠ .source s

/-- Values without infinities and NaNs. -/
def AllFinite (v : Value) : Prop :=
  v.EveryLeaf fun leaf => ∀ x, leaf = .float x → x.isFinite = true

theorem readsBack_toTree :
    ReadsBack (fun v => (v.toTree describe).reading) fun leaf => oneNaN (words describe leaf) where
  list items := by
    have hitems : Tree.readings (toTrees describe items) =
        items.map fun v => (v.toTree describe).reading := by
      induction items with
      | nil => rfl
      | cons v rest ih => rw [toTrees, Tree.readings, ih, List.map_cons]
    show Reading.seq (Tree.readings (toTrees describe items)) = _
    rw [hitems]
  map entries := by
    have hentries : Tree.readingEntries (toTreeEntries describe entries) =
        entries.map fun entry => (.string entry.1, (entry.2.toTree describe).reading) := by
      induction entries with
      | nil => rfl
      | cons entry rest ih =>
          rw [toTreeEntries, Tree.readingEntries, ih, List.map_cons]
          rfl
    show Reading.map (Tree.readingEntries (toTreeEntries describe entries)) = _
    rw [hentries]
  leaf v isLeaf := by
    cases v with
    | int i =>
        show ofReading (.int i.toInt) = _
        rw [ofReading, int64?_toInt]
        rfl
    | list items => exact isLeaf.elim
    | map entries => exact isLeaf.elim
    | _ => rfl

theorem readsBack_toJson :
    ReadsBack (fun v => (v.toJson describe).reading) (wordsInJson describe) where
  list items := by
    have hitems : Json.readings (toJsons describe items) =
        items.map fun v => (v.toJson describe).reading := by
      induction items with
      | nil => rfl
      | cons v rest ih => rw [toJsons, Json.readings, ih, List.map_cons]
    show Reading.seq (Json.readings (toJsons describe items)) = _
    rw [hitems]
  map entries := by
    have hentries : Json.readingEntries (toJsonEntries describe entries) =
        entries.map fun entry => (.string entry.1, (entry.2.toJson describe).reading) := by
      induction entries with
      | nil => rfl
      | cons entry rest ih => rw [toJsonEntries, Json.readingEntries, ih, List.map_cons]
    show Reading.map (Json.readingEntries (toJsonEntries describe entries)) = _
    rw [hentries]
  leaf v isLeaf := by
    cases v with
    | int i =>
        show ofReading (.int i.toInt) = _
        rw [ofReading, int64?_toInt]
        rfl
    | float x =>
        rw [toJson, wordsInJson]
        split
        · rfl
        · rfl
    | list items => exact isLeaf.elim
    | map entries => exact isLeaf.elim
    | _ => rfl

theorem isLeaf_words {leaf : Value} (h : leaf.IsLeaf) : (words describe leaf).IsLeaf := by
  cases leaf with
  | object o => trivial
  | source s => trivial
  | _ => exact h

theorem isLeaf_oneNaN {leaf : Value} (h : leaf.IsLeaf) : (oneNaN leaf).IsLeaf := by
  cases leaf with
  | float x => trivial
  | _ => exact h

variable {v : Value}

/-- Plain data has no place for words. -/
theorem IsPlain.worded_eq (h : v.IsPlain) : v.worded describe = v := by
  refine EveryLeaf.atLeaves_eq_self (h.mono fun leaf ⟨hobject, hsource⟩ => ?_)
  cases leaf with
  | object o => exact absurd rfl (hobject o)
  | source s => exact absurd rfl (hsource s)
  | _ => rfl

theorem Ordered.canonical_worded (h : v.Ordered) :
    (v.worded describe).canonical = v.atLeaves fun leaf => oneNaN (words describe leaf) :=
  h.atLeaves_atLeaves (fun _ => isLeaf_words describe) oneNaN

/-- What is read back of a document is the value with words in it and one NaN. -/
theorem Ordered.ofTree_eq (h : v.Ordered) :
    ofTree (v.toTree describe) = .ok (v.worded describe).canonical := by
  rw [h.canonical_worded]
  exact (readsBack_toTree describe).ofReading_eq h

/-- What was read back of a document is read back as it is, whatever sources are called by then. -/
theorem Ordered.ofTree_settled (h : v.Ordered) (describe' : Source → String) :
    ofTree ((v.worded describe).canonical.toTree describe') =
      .ok (v.worded describe).canonical := by
  rw [h.canonical_worded]
  refine (readsBack_toTree describe').ofReading_settled h
    (fun _ isLeaf => isLeaf_oneNaN (isLeaf_words describe isLeaf)) (h.everyLeaf fun leaf => ?_)
  cases leaf with
  | float x => exact congrArg Value.float x.canonical_canonical
  | _ => rfl

/-- What is read back of a JSON document is the value with words in it. -/
theorem Ordered.ofReading_toJson (h : v.Ordered) (finite : v.AllFinite) :
    ofReading (v.toJson describe).reading = .ok (v.worded describe) := by
  rw [(readsBack_toJson describe).ofReading_eq h]
  refine congrArg Except.ok (EveryLeaf.atLeaves_congr (finite.mono fun leaf hfinite => ?_))
  cases leaf with
  | float x => rw [wordsInJson, if_pos (hfinite x rfl)]; rfl
  | _ => rfl

theorem Ordered.ofReading_toJson_settled (h : v.Ordered) (finite : v.AllFinite)
    (describe' : Source → String) :
    ofReading ((v.worded describe).toJson describe').reading = .ok (v.worded describe) := by
  refine (readsBack_toJson describe').ofReading_settled h (fun _ => isLeaf_words describe)
    (finite.mono fun leaf hfinite => ?_)
  cases leaf with
  | float x =>
      show wordsInJson describe' (.float x) = .float x
      rw [wordsInJson, if_pos (hfinite x rfl)]
  | _ => rfl

theorem Ordered.canonical_worded_of_finite (h : v.Ordered) (finite : v.AllFinite) :
    (v.worded describe).canonical = v.worded describe := by
  rw [h.canonical_worded]
  refine EveryLeaf.atLeaves_congr (finite.mono fun leaf hfinite => ?_)
  cases leaf with
  | float x => exact congrArg Value.float (Binary64.canonical_of_isFinite (hfinite x rfl))
  | _ => rfl

/-- What was written down as a document comes back with words for the built things in it and with
the one NaN, and then comes back as it is however often it is written and read; plain data has no
place for words.  Through JSON it is the same if all floats are finite, provided that the text is
read as the document that was written. -/
theorem ofTree_toTree (ordered : v.Ordered) :
    let back := (v.worded describe).canonical
    ofTree (v.toTree describe) = .ok back ∧
    (v.IsPlain → back = v.canonical) ∧
    (∀ describe', ofTree (back.toTree describe') = .ok back) ∧
    (v.AllFinite →
      back = v.worded describe ∧
      ofReading (v.toJson describe).reading = .ok back ∧
      (∀ describe', ofReading (back.toJson describe').reading = .ok back) ∧
      ∀ text, Json.read text = ⟨(v.toJson describe).reading, true⟩ →
        (Json.read text).value = .ok back) := by
  intro back
  refine ⟨ordered.ofTree_eq describe, fun plain => ?_, ordered.ofTree_settled describe,
    fun finite => ?_⟩
  · show (v.worded describe).canonical = v.canonical
    rw [plain.worded_eq describe]
  · have hback : back = v.worded describe := ordered.canonical_worded_of_finite describe finite
    have hread := ordered.ofReading_toJson describe finite
    rw [hback]
    refine ⟨rfl, hread, ordered.ofReading_toJson_settled describe finite, fun text htext => ?_⟩
    unfold TextReading.value
    rw [htext, hread]
    rfl

end Documents

/-- A map with an object, a source and a NaN that is not the usual one. -/
def shelf : Value :=
  .map [("built", .list [.object ⟨0, "Vec"⟩, .source ⟨1, .file "a.txt" .text⟩]),
    ("depth", .int (-3)), ("ratio", .float ⟨0xFFF8000000000001⟩)]

theorem ordered_shelf : shelf.Ordered := by
  refine .map (Entries.ordered_iff_keys.2 (by decide)) fun entry hmem => ?_
  simp only [List.mem_cons, List.not_mem_nil, or_false] at hmem
  rcases hmem with rfl | rfl | rfl
  · refine .list fun v hv => ?_
    simp only [List.mem_cons, List.not_mem_nil, or_false] at hv
    rcases hv with rfl | rfl <;> exact .leaf trivial
  · exact .leaf trivial
  · exact .leaf trivial

/-- The object and the source of the shelf come back as words, and its NaN as the one NaN. -/
theorem ofTree_toTree_shelf :
    shelf.Ordered ∧
    ofTree (shelf.toTree MemoryStore.empty.describe) =
      .ok (.map [("built", .list [.string "<Vec>", .string "<source File(a.txt, text)>"]),
        ("depth", .int (-3)), ("ratio", .float .nan)]) :=
  ⟨ordered_shelf, (ofTree_toTree MemoryStore.empty.describe ordered_shelf).1⟩

end Value

end DataCatalog
