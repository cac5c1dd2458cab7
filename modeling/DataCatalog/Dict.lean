/-!
# Entries under text keys

`Entries` are plain lists of key and value pairs, the form in which values, recipes and documents
hold their mappings.  `Entries.put` keeps a list in increasing order of its keys, so that a list
built by it has one entry per key.  `Dict` is such a list together with the proof of its order;
two dictionaries with the same entries are equal.

Main statements: `Entries.get?_put` and `Entries.get?_remove` say what the two operations do to a
look-up, and `Entries.ordered_put` and `Entries.ordered_remove` that they keep the order.
-/

set_option autoImplicit false

namespace DataCatalog

universe u v

/-- Key and value pairs. -/
abbrev Entries (α : Type u) := List (String × α)

namespace Entries

variable {α : Type u} {β : Type v}

/-- The value of the first entry with a key. -/
def get? (key : String) : Entries α → Option α
  | [] => none
  | (k, value) :: rest => if k = key then some value else get? key rest

/-- Whether an entry has a key. -/
def has (key : String) (entries : Entries α) : Bool :=
  entries.any (·.1 = key)

/-- Puts a value under a key: it replaces the value there, or takes its place in the order. -/
def put (key : String) (value : α) : Entries α → Entries α
  | [] => [(key, value)]
  | (k, old) :: rest =>
      if key < k then (key, value) :: (k, old) :: rest
      else if key = k then (key, value) :: rest
      else (k, old) :: put key value rest

/-- Drops the entries with a key. -/
def remove (key : String) (entries : Entries α) : Entries α :=
  entries.filter (·.1 ≠ key)

/-- Puts entries one after the other, so that the last one with a key counts. -/
def ofList (entries : List (String × α)) : Entries α :=
  entries.foldl (fun acc entry => put entry.1 entry.2 acc) []

/-- The keys, in order. -/
def keys (entries : Entries α) : List String :=
  entries.map Prod.fst

/-- The keys increase from each entry to the next. -/
def Ordered (entries : Entries α) : Prop :=
  entries.Pairwise (fun a b => a.1 < b.1)

theorem ordered_nil : Ordered ([] : Entries α) := List.Pairwise.nil

theorem lt_of_not_lt_of_ne {a b : String} (h : ¬a < b) (hne : a ≠ b) : b < a := by
  rw [String.not_lt] at h
  exact Classical.byContradiction fun hlt =>
    hne (String.le_antisymm (String.not_lt.1 hlt) h)

theorem mem_put {key : String} {value : α} {entries : Entries α} {entry : String × α}
    (h : entry ∈ put key value entries) : entry = (key, value) ∨ entry ∈ entries := by
  induction entries with
  | nil => exact Or.inl (by simpa [put] using h)
  | cons head rest ih =>
      obtain ⟨k, old⟩ := head
      unfold put at h
      split at h
      · rcases List.mem_cons.1 h with h | h
        · exact Or.inl h
        · exact Or.inr h
      · split at h
        · rcases List.mem_cons.1 h with h | h
          · exact Or.inl h
          · exact Or.inr (List.mem_cons_of_mem _ h)
        · rcases List.mem_cons.1 h with h | h
          · exact Or.inr (h ▸ List.mem_cons_self)
          · exact (ih h).imp id (List.mem_cons_of_mem _)

theorem ordered_put (key : String) (value : α) {entries : Entries α} (h : Ordered entries) :
    Ordered (put key value entries) := by
  induction entries with
  | nil => simp [put, Ordered]
  | cons head rest ih =>
      obtain ⟨k, old⟩ := head
      obtain ⟨hhead, hrest⟩ := List.pairwise_cons.1 h
      unfold put
      split
      · rename_i hlt
        refine List.pairwise_cons.2 ⟨fun entry hmem => ?_, h⟩
        rcases List.mem_cons.1 hmem with rfl | hmem
        · exact hlt
        · exact String.lt_trans hlt (hhead entry hmem)
      · rename_i hlt
        split
        · rename_i heq
          subst heq
          exact List.pairwise_cons.2 ⟨hhead, hrest⟩
        · rename_i hne
          refine List.pairwise_cons.2 ⟨fun entry hmem => ?_, ih hrest⟩
          rcases mem_put hmem with rfl | hmem
          · exact lt_of_not_lt_of_ne hlt hne
          · exact hhead entry hmem

theorem ordered_remove (key : String) {entries : Entries α} (h : Ordered entries) :
    Ordered (remove key entries) :=
  List.Pairwise.filter _ h

theorem ordered_foldl_put (added : List (String × α)) {entries : Entries α} (h : Ordered entries) :
    Ordered (added.foldl (fun acc entry => put entry.1 entry.2 acc) entries) := by
  induction added generalizing entries with
  | nil => exact h
  | cons head rest ih => exact ih (ordered_put _ _ h)

theorem ordered_ofList (entries : List (String × α)) : Ordered (ofList entries) :=
  ordered_foldl_put entries ordered_nil

theorem get?_put (key other : String) (value : α) (entries : Entries α) :
    get? other (put key value entries) = if key = other then some value else get? other entries := by
  induction entries with
  | nil => simp [put, get?]
  | cons head rest ih =>
      obtain ⟨k, old⟩ := head
      unfold put
      split
      · simp [get?]
      · split
        · rename_i _ heq
          subst heq
          by_cases h : key = other <;> simp [get?, h]
        · rename_i _ hne
          by_cases hk : k = other
          · subst hk
            simp [get?, hne]
          · simp [get?, hk, ih]

theorem get?_remove (key other : String) (entries : Entries α) :
    get? other (remove key entries) = if key = other then none else get? other entries := by
  induction entries with
  | nil => simp [remove, get?]
  | cons head rest ih =>
      obtain ⟨k, old⟩ := head
      unfold remove at ih ⊢
      by_cases hk : k = key
      · subst hk
        by_cases h : k = other <;> simp_all [get?]
      · by_cases h : k = other
        · subst h
          simp [get?, hk, Ne.symm hk]
        · simpa [get?, hk, h] using ih

theorem has_eq_isSome_get? (key : String) (entries : Entries α) :
    has key entries = (get? key entries).isSome := by
  induction entries with
  | nil => rfl
  | cons head rest ih =>
      obtain ⟨k, old⟩ := head
      unfold has at ih ⊢
      by_cases h : k = key <;> simp [get?, h, ih]

end Entries

/-- Entries in increasing order of their keys. -/
structure Dict (α : Type u) where
  entries : Entries α
  ordered : Entries.Ordered entries

namespace Dict

variable {α : Type u}

/-- The dictionary without entries. -/
def empty : Dict α := ⟨[], Entries.ordered_nil⟩

instance : Inhabited (Dict α) := ⟨empty⟩

/-- The dictionary of a list of entries; the last one with a key counts. -/
def ofList (entries : List (String × α)) : Dict α :=
  ⟨Entries.ofList entries, Entries.ordered_ofList entries⟩

def get? (d : Dict α) (key : String) : Option α :=
  Entries.get? key d.entries

def contains (d : Dict α) (key : String) : Bool :=
  Entries.has key d.entries

def insert (d : Dict α) (key : String) (value : α) : Dict α :=
  ⟨Entries.put key value d.entries, Entries.ordered_put key value d.ordered⟩

def erase (d : Dict α) (key : String) : Dict α :=
  ⟨Entries.remove key d.entries, Entries.ordered_remove key d.ordered⟩

def keys (d : Dict α) : List String :=
  Entries.keys d.entries

def size (d : Dict α) : Nat :=
  d.entries.length

def isEmpty (d : Dict α) : Bool :=
  d.entries.isEmpty

@[ext] theorem ext {d e : Dict α} (h : d.entries = e.entries) : d = e := by
  cases d
  cases e
  cases h
  rfl

@[simp] theorem get?_insert (d : Dict α) (key other : String) (value : α) :
    (d.insert key value).get? other = if key = other then some value else d.get? other :=
  Entries.get?_put key other value d.entries

@[simp] theorem get?_erase (d : Dict α) (key other : String) :
    (d.erase key).get? other = if key = other then none else d.get? other :=
  Entries.get?_remove key other d.entries

theorem contains_eq_isSome_get? (d : Dict α) (key : String) :
    d.contains key = (d.get? key).isSome :=
  Entries.has_eq_isSome_get? key d.entries

end Dict

end DataCatalog
