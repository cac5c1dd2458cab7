import DataCatalog.Proofs.Entries
import Mathlib.Data.List.Forall2
import Mathlib.Data.List.Perm.Subperm

/-!
# Entries of a list

`Entries.ofList` puts the entries of a list one after the other.  When the keys of the list are
distinct nothing is replaced, so that the entries are those of the list (`ofList_perm`) and the
order of the list does not matter (`ofList_eq_of_perm`).  `length_ofList_eq_iff` says that this is
the only case in which no entry is lost.

Lists that are read element by element stand in a relation `List.Forall₂` to what was read from
them; `exists_related_of_mem` finds what was read from an element.
-/

set_option autoImplicit false

namespace DataCatalog

universe u v

/-- To each element of a list belongs one of the list that it is related to. -/
theorem exists_related_of_mem {α : Type u} {β : Type v} {R : α → β → Prop} {as : List α}
    {bs : List β} (h : List.Forall₂ R as bs) {a : α} (hmem : a ∈ as) : ∃ b ∈ bs, R a b := by
  induction h with
  | nil => cases hmem
  | cons hfirst _ ih =>
      rcases List.mem_cons.1 hmem with rfl | hmem
      · exact ⟨_, List.mem_cons_self, hfirst⟩
      · obtain ⟨b, hb, hR⟩ := ih hmem
        exact ⟨b, List.mem_cons_of_mem _ hb, hR⟩

/-- A list is related to some list when each of its elements is related to something. -/
theorem exists_forall₂_iff {α : Type u} {β : Type v} {R : α → β → Prop} {as : List α} :
    (∃ bs, List.Forall₂ R as bs) ↔ ∀ a ∈ as, ∃ b, R a b := by
  induction as with
  | nil => simp
  | cons a as ih =>
      simp only [List.forall₂_cons_left_iff, List.forall_mem_cons, ← ih]
      constructor
      · rintro ⟨_, b, bs, hb, hbs, rfl⟩
        exact ⟨⟨b, hb⟩, bs, hbs⟩
      · rintro ⟨⟨b, hb⟩, bs, hbs⟩
        exact ⟨_, b, bs, hb, hbs, rfl⟩

/-- Lists of which each element becomes what the one at its place becomes come to the same. -/
theorem map_eq_map_of_each {α : Type u} {β : Type v} {γ : Type u} {as : List α} {bs : List β}
    {f : α → γ} {g : β → γ} (length : as.length = bs.length)
    (each : ∀ (i : Nat) (a : α) (b : β), as[i]? = some a → bs[i]? = some b → f a = g b) :
    as.map f = bs.map g := by
  apply List.ext_getElem
  · rw [List.length_map, List.length_map, length]
  · intro i hi hj
    rw [List.getElem_map, List.getElem_map]
    exact each i _ _ (List.getElem?_eq_getElem _) (List.getElem?_eq_getElem _)

namespace Entries

variable {α : Type u}

theorem has_iff_mem_keys {key : String} {entries : Entries α} :
    has key entries = true ↔ key ∈ keys entries := by
  simp [has, keys]

/-- Whether a key is there can be read off the keys. -/
theorem has_eq_of_keys_eq {β : Type v} {as : Entries α} {bs : Entries β} (h : keys as = keys bs)
    (key : String) : has key as = has key bs := by
  rw [Bool.eq_iff_iff, has_iff_mem_keys, has_iff_mem_keys, h]

theorem has_put (key other : String) (value : α) (entries : Entries α) :
    has other (put key value entries) = (decide (key = other) || has other entries) := by
  rw [has_eq_isSome_get?, has_eq_isSome_get?, get?_put]
  by_cases h : key = other <;> simp [h]

/-- Distinct keys that are not there yet add one entry each. -/
theorem foldl_put_perm {added entries : Entries α} (nodup : (keys added).Nodup)
    (free : ∀ key ∈ keys added, has key entries = false) :
    (added.foldl (fun acc entry => put entry.1 entry.2 acc) entries).Perm (added ++ entries) := by
  induction added generalizing entries with
  | nil => exact List.Perm.refl _
  | cons head rest ih =>
      obtain ⟨key, value⟩ := head
      obtain ⟨hnew, hrest⟩ := List.nodup_cons.1 nodup
      have hput : (put key value entries).Perm ((key, value) :: entries) :=
        put_perm value (free key List.mem_cons_self)
      have hfree : ∀ other ∈ keys rest, has other (put key value entries) = false := by
        intro other hmem
        have hne : key ≠ other := fun heq => hnew (heq ▸ hmem)
        rw [has_put, free other (List.mem_cons_of_mem _ hmem)]
        simp [hne]
      rw [List.foldl_cons]
      apply (ih hrest hfree).trans
      exact (hput.append_left rest).trans List.perm_middle

/-- The entries of a list with distinct keys are those of the list. -/
theorem ofList_perm {entries : Entries α} (nodup : (keys entries).Nodup) :
    (ofList entries).Perm entries := by
  have hperm : (ofList entries).Perm (entries ++ []) := foldl_put_perm nodup fun _ _ => rfl
  rwa [List.append_nil] at hperm

/-- Entries in order are known by which entries they are. -/
theorem eq_of_perm {a b : Entries α} (ha : Ordered a) (hb : Ordered b) (h : a.Perm b) : a = b := by
  apply List.Perm.eq_of_pairwise _ ha hb h
  intro x y _ _ hxy hyx
  exact absurd (String.lt_trans hxy hyx) (String.lt_irrefl x.1)

/-- Entries in order are known by their members. -/
theorem eq_of_mem_iff {a b : Entries α} (ha : Ordered a) (hb : Ordered b)
    (h : ∀ entry, entry ∈ a ↔ entry ∈ b) : a = b := by
  have hnodup {entries : Entries α} (ordered : Ordered entries) : entries.Nodup := by
    apply List.Pairwise.imp _ ordered
    intro first second hlt heq
    exact String.lt_irrefl second.1 (heq ▸ hlt)
  exact eq_of_perm ha hb ((List.perm_ext_iff_of_nodup (hnodup ha) (hnodup hb)).2 h)

/-- Entries in order are known by what is found under each key. -/
theorem eq_of_get? {a b : Entries α} (ha : Ordered a) (hb : Ordered b)
    (h : ∀ key, get? key a = get? key b) : a = b := by
  apply eq_of_mem_iff ha hb
  rintro ⟨key, value⟩
  rw [← get?_eq_some_iff ha, h key, get?_eq_some_iff hb]

/-- Entries under different keys can be put in either order. -/
theorem put_comm {a b : String} (hne : a ≠ b) (x y : α) {entries : Entries α}
    (ordered : Ordered entries) :
    put a x (put b y entries) = put b y (put a x entries) := by
  apply eq_of_get? (ordered_put a x (ordered_put b y ordered))
    (ordered_put b y (ordered_put a x ordered))
  intro key
  simp only [get?_put]
  by_cases ha : a = key
  · subst ha
    simp [Ne.symm hne]
  · simp [ha]

/-- It does not matter whether a value is put under a new key before or after others. -/
theorem foldl_put_comm {key : String} (value : α) {added entries : Entries α}
    (absent : has key added = false) (ordered : Ordered entries) :
    added.foldl (fun acc entry => put entry.1 entry.2 acc) (put key value entries) =
      put key value (added.foldl (fun acc entry => put entry.1 entry.2 acc) entries) := by
  induction added generalizing entries with
  | nil => rfl
  | cons head rest ih =>
      obtain ⟨k, old⟩ := head
      obtain ⟨hk, hrest⟩ : k ≠ key ∧ has key rest = false := by simpa [has] using absent
      rw [List.foldl_cons, List.foldl_cons, put_comm hk old value ordered]
      exact ih hrest (ordered_put k old ordered)

theorem has_ofList (key : String) (entries : Entries α) :
    has key (ofList entries) = has key entries := by
  have hfold (acc : Entries α) : has key (entries.foldl (fun acc e => put e.1 e.2 acc) acc) =
      (has key entries || has key acc) := by
    induction entries generalizing acc with
    | nil => rfl
    | cons head rest ih =>
        rw [List.foldl_cons, ih, has_put]
        simp [has, Bool.or_assoc, Bool.or_left_comm]
  have hempty := hfold []
  rwa [show has key ([] : Entries α) = false from rfl, Bool.or_false] at hempty

theorem put_cons_of_ne {key k : String} (hne : key ≠ k) (value old : α) (rest : Entries α) :
    put key value ((k, old) :: rest) =
      if key < k then (key, value) :: (k, old) :: rest else (k, old) :: put key value rest := by
  rw [put, if_neg hne]

/-- A new entry of a list is a new entry of its dictionary. -/
theorem ofList_put {key : String} (value : α) {entries : Entries α}
    (absent : has key entries = false) :
    ofList (put key value entries) = put key value (ofList entries) := by
  have hfold (acc : Entries α) (ordered : Ordered acc) :
      (put key value entries).foldl (fun acc entry => put entry.1 entry.2 acc) acc =
        put key value (entries.foldl (fun acc entry => put entry.1 entry.2 acc) acc) := by
    induction entries generalizing acc with
    | nil => rfl
    | cons head rest ih =>
        obtain ⟨k, old⟩ := head
        obtain ⟨hk, hrest⟩ : k ≠ key ∧ has key rest = false := by simpa [has] using absent
        rw [put_cons_of_ne hk.symm]
        split
        · exact foldl_put_comm value absent ordered
        · exact ih hrest (put k old acc) (ordered_put k old ordered)
  exact hfold [] ordered_nil

/-- The order of a list with distinct keys does not matter. -/
theorem ofList_eq_of_perm {a b : Entries α} (nodup : (keys a).Nodup) (h : a.Perm b) :
    ofList a = ofList b := by
  have hkeys : (keys b).Nodup := (h.map Prod.fst).nodup_iff.1 nodup
  apply eq_of_perm (ordered_ofList a) (ordered_ofList b)
  exact (ofList_perm nodup).trans (h.trans (ofList_perm hkeys).symm)

theorem mem_foldl_put {added entries : Entries α} {entry : String × α}
    (h : entry ∈ added.foldl (fun acc e => put e.1 e.2 acc) entries) :
    entry ∈ added ∨ entry ∈ entries := by
  induction added generalizing entries with
  | nil => exact .inr h
  | cons head rest ih =>
      rw [List.foldl_cons] at h
      rcases ih h with hrest | hput
      · exact .inl (List.mem_cons_of_mem _ hrest)
      · rcases mem_put hput with rfl | hentries
        · exact .inl List.mem_cons_self
        · exact .inr hentries

theorem mem_of_mem_ofList {entries : Entries α} {entry : String × α} (h : entry ∈ ofList entries) :
    entry ∈ entries := by
  rcases mem_foldl_put h with hmem | hmem
  · exact hmem
  · cases hmem

/-- As many entries as the list has are there only when all its keys are distinct. -/
theorem length_ofList_eq_iff {entries : Entries α} :
    (ofList entries).length = entries.length ↔ (keys entries).Nodup := by
  constructor
  · intro hlength
    have hnodup : (keys (ofList entries)).Nodup := keys_nodup (ordered_ofList entries)
    have hsubset : keys (ofList entries) ⊆ keys entries :=
      List.map_subset Prod.fst fun _ => mem_of_mem_ofList
    have hle : (keys entries).length ≤ (keys (ofList entries)).length := by
      simp [keys, hlength]
    -- distinct keys among as many keys are all of them
    have hperm := (hnodup.subperm hsubset).perm_of_length_le hle
    exact hperm.nodup_iff.1 hnodup
  · intro nodup
    exact (ofList_perm nodup).length_eq

theorem get?_ofList_of_mem {entries : Entries α} (nodup : (keys entries).Nodup) {key : String}
    {value : α} (h : (key, value) ∈ entries) : get? key (ofList entries) = some value := by
  apply (get?_eq_some_iff (ordered_ofList entries)).2
  exact (ofList_perm nodup).mem_iff.2 h

theorem put_mapValues {β : Type v} (f : String → α → β) (key : String) (value : α)
    (entries : Entries α) :
    put key (f key value) (mapValues f entries) = mapValues f (put key value entries) := by
  induction entries with
  | nil => rfl
  | cons head rest ih =>
      obtain ⟨k, old⟩ := head
      show put key (f key value) ((k, f k old) :: mapValues f rest) = _
      unfold put
      split
      · rfl
      · split
        · rfl
        · rw [ih]
          rfl

/-- Changing the values of a list and of its dictionary is the same. -/
theorem ofList_mapValues {β : Type v} (f : String → α → β) (entries : Entries α) :
    ofList (mapValues f entries) = mapValues f (ofList entries) := by
  have hfold (acc : Entries α) :
      (mapValues f entries).foldl (fun acc e => put e.1 e.2 acc) (mapValues f acc) =
        mapValues f (entries.foldl (fun acc e => put e.1 e.2 acc) acc) := by
    induction entries generalizing acc with
    | nil => rfl
    | cons head rest ih =>
        obtain ⟨k, value⟩ := head
        show (mapValues f rest).foldl _ (put k (f k value) (mapValues f acc)) = _
        rw [put_mapValues, ih, List.foldl_cons]
  exact hfold []

end Entries

namespace Dict

variable {α : Type u}

@[simp] theorem get?_empty (key : String) : (empty : Dict α).get? key = none := rfl

theorem contains_ofList (key : String) (entries : Entries α) :
    (ofList entries).contains key = Entries.has key entries :=
  Entries.has_ofList key entries

theorem ofList_mapValues {β : Type v} (f : String → α → β) (entries : Entries α) :
    ofList (Entries.mapValues f entries) = (ofList entries).mapValues f :=
  Dict.ext (Entries.ofList_mapValues f entries)

end Dict

end DataCatalog
