import DataCatalog.Dict

/-!
# Entries in order

What looking up, putting and listing mean for entries in increasing order of their keys: a look-up
finds an entry exactly when the entry is there (`get?_eq_some_iff`), a new key adds one entry and
nothing else (`put_perm`), and entries already in order are listed as they stand
(`ofList_of_ordered`).  `Dict.mapValues` changes values and leaves the keys alone.
-/

set_option autoImplicit false

namespace DataCatalog

universe u v

namespace Entries

variable {α : Type u} {β : Type v}

theorem mem_of_get?_eq_some {key : String} {value : α} {entries : Entries α}
    (h : get? key entries = some value) : (key, value) ∈ entries := by
  induction entries with
  | nil => simp [get?] at h
  | cons head rest ih =>
      obtain ⟨k, old⟩ := head
      unfold get? at h
      split at h
      · rename_i hk
        cases h
        exact hk ▸ List.mem_cons_self
      · exact List.mem_cons_of_mem _ (ih h)

/-- Among entries in order a look-up finds exactly the entries that are there. -/
theorem get?_eq_some_iff {key : String} {value : α} {entries : Entries α}
    (ordered : Ordered entries) : get? key entries = some value ↔ (key, value) ∈ entries := by
  refine ⟨mem_of_get?_eq_some, fun hmem => ?_⟩
  induction entries with
  | nil => simp at hmem
  | cons head rest ih =>
      obtain ⟨hhead, hrest⟩ := List.pairwise_cons.1 ordered
      rcases List.mem_cons.1 hmem with rfl | hmem
      · simp [get?]
      · have hlt := hhead _ hmem
        have hne : head.1 ≠ key := fun heq => String.lt_irrefl key (heq ▸ hlt)
        simpa [get?, hne] using ih hrest hmem

/-- A key that is not there yet adds one entry. -/
theorem put_perm {key : String} {entries : Entries α} (value : α)
    (h : has key entries = false) : (put key value entries).Perm ((key, value) :: entries) := by
  induction entries with
  | nil => exact List.Perm.refl _
  | cons head rest ih =>
      obtain ⟨k, old⟩ := head
      have hsplit : k ≠ key ∧ has key rest = false := by simpa [has] using h
      unfold put
      split
      · exact List.Perm.refl _
      · rw [if_neg (Ne.symm hsplit.1)]
        exact ((ih hsplit.2).cons (k, old)).trans (List.Perm.swap _ _ _)

/-- A key beyond all others comes last. -/
theorem put_of_forall_lt {key : String} {entries : Entries α} (value : α)
    (h : ∀ entry ∈ entries, entry.1 < key) : put key value entries = entries ++ [(key, value)] := by
  induction entries with
  | nil => rfl
  | cons head rest ih =>
      obtain ⟨k, old⟩ := head
      have hk : k < key := h (k, old) List.mem_cons_self
      have hne : key ≠ k := fun heq => String.lt_irrefl k (heq ▸ hk)
      have hrest := ih fun entry hmem => h entry (List.mem_cons_of_mem _ hmem)
      simp [put, String.lt_asymm hk, hne, hrest]

theorem foldl_put_of_ordered {added entries : Entries α} (h : Ordered (entries ++ added)) :
    added.foldl (fun acc entry => put entry.1 entry.2 acc) entries = entries ++ added := by
  induction added generalizing entries with
  | nil => simp
  | cons head rest ih =>
      have hlast := (List.pairwise_append.1 h).2.2
      have hput : put head.1 head.2 entries = entries ++ [head] :=
        put_of_forall_lt head.2 fun entry hmem => hlast entry hmem head List.mem_cons_self
      rw [List.foldl_cons, hput, ih (by simpa using h)]
      simp

/-- Entries in order are listed as they stand. -/
theorem ofList_of_ordered {entries : Entries α} (h : Ordered entries) :
    ofList entries = entries := by
  have hfold : entries.foldl (fun acc entry => put entry.1 entry.2 acc) [] = [] ++ entries :=
    foldl_put_of_ordered (by simpa using h)
  simpa [ofList] using hfold

/-- What is said of all values of entries is said of the first one and of all later ones. -/
theorem forall_mem_cons {P : α → Prop} {k : String} {a : α} {rest : Entries α} :
    (∀ name b, (name, b) ∈ (k, a) :: rest → P b) ↔ P a ∧ ∀ name b, (name, b) ∈ rest → P b := by
  constructor
  · intro h
    exact ⟨h k a List.mem_cons_self, fun name b hmem => h name b (List.mem_cons_of_mem _ hmem)⟩
  · rintro ⟨hfirst, hrest⟩ name b hmem
    rcases List.mem_cons.1 hmem with heq | hmem
    · cases heq
      exact hfirst
    · exact hrest name b hmem

/-- Order is a matter of the keys alone. -/
theorem ordered_iff_keys {entries : Entries α} :
    Ordered entries ↔ (keys entries).Pairwise (· < ·) := by
  unfold Ordered keys
  rw [List.pairwise_map]

/-- The keys in order are distinct. -/
theorem keys_nodup {entries : Entries α} (h : Ordered entries) : (keys entries).Nodup := by
  apply List.Pairwise.imp _ (ordered_iff_keys.1 h)
  intro a b hlt heq
  rw [heq] at hlt
  exact String.lt_irrefl b hlt

/-- Changes the values and leaves the keys alone. -/
def mapValues (f : String → α → β) (entries : Entries α) : Entries β :=
  entries.map fun entry => (entry.1, f entry.1 entry.2)

theorem ordered_mapValues (f : String → α → β) {entries : Entries α} (h : Ordered entries) :
    Ordered (mapValues f entries) :=
  List.pairwise_map.2 h

theorem get?_mapValues (f : String → α → β) (key : String) (entries : Entries α) :
    get? key (mapValues f entries) = (get? key entries).map (f key) := by
  induction entries with
  | nil => rfl
  | cons head rest ih =>
      obtain ⟨k, value⟩ := head
      unfold mapValues at ih ⊢
      by_cases h : k = key
      · subst h
        simp [get?]
      · simpa [get?, h] using ih

end Entries

namespace Dict

variable {α : Type u} {β : Type v}

/-- Changes the values of a dictionary and leaves its keys alone. -/
def mapValues (f : String → α → β) (d : Dict α) : Dict β :=
  ⟨Entries.mapValues f d.entries, Entries.ordered_mapValues f d.ordered⟩

@[simp] theorem get?_mapValues (f : String → α → β) (d : Dict α) (key : String) :
    (d.mapValues f).get? key = (d.get? key).map (f key) :=
  Entries.get?_mapValues f key d.entries

@[simp] theorem keys_mapValues (f : String → α → β) (d : Dict α) :
    (d.mapValues f).keys = d.keys := by
  simp [mapValues, keys, Entries.mapValues, Entries.keys]

theorem get?_ofList_of_ordered {entries : Entries α} (h : Entries.Ordered entries) (key : String) :
    (Dict.ofList entries).get? key = Entries.get? key entries := by
  show Entries.get? key (Entries.ofList entries) = Entries.get? key entries
  rw [Entries.ofList_of_ordered h]

end Dict

end DataCatalog
