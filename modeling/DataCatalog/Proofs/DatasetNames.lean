import DataCatalog.Catalog
import DataCatalog.Proofs.EntryLists
import Mathlib.Data.List.Nodup
import Mathlib.Data.List.Perm.Basic
import Mathlib.Data.Option.Basic

/-!
# The datasets of a document

A document is read into a catalog entry by entry, each under the text of its key.  Names are looked
for under tags, so that two keys of a mapping can have one name; the later entry then replaces the
earlier one.  `ofDocument_eq_ok_iff` says what a catalog has been read from, and
`keeps_entries_iff` that no entry is lost, and their order is of no matter, exactly when the names
are distinct.
-/

set_option autoImplicit false

namespace DataCatalog

namespace Catalog

variable {m : Type → Type}

/-- The dataset that an entry at the top of a document gives, under its name. -/
structure GivesDataset (entry : Tree × Tree) (named : String × DatasetEntry) : Prop where
  name : entry.1.text? = some named.1
  dataset : DatasetEntry.parse named.1 entry.2 = .ok named.2

/-- Reading entries puts the dataset of each under its name, one after the other. -/
theorem parseDatasets_eq_ok_iff {acc datasets : Dict DatasetEntry} {entries : List (Tree × Tree)} :
    parseDatasets acc entries = .ok datasets ↔
      ∃ named, List.Forall₂ GivesDataset entries named ∧
        datasets.entries =
          named.foldl (fun found e => Entries.put e.1 e.2 found) acc.entries := by
  induction entries generalizing acc with
  | nil =>
      constructor
      · intro h
        cases h
        exact ⟨[], .nil, rfl⟩
      · rintro ⟨named, hnamed, hdatasets⟩
        cases hnamed
        exact congrArg Except.ok (Dict.ext hdatasets.symm)
  | cons head rest ih =>
      obtain ⟨key, value⟩ := head
      unfold parseDatasets
      constructor
      · intro h
        split at h
        · cases h
        · rename_i name hname
          split at h
          · cases h
          · rename_i entry hentry
            obtain ⟨named, hnamed, hdatasets⟩ := ih.1 h
            exact ⟨(name, entry) :: named, .cons ⟨hname, hentry⟩ hnamed, hdatasets⟩
      · rintro ⟨named, hnamed, hdatasets⟩
        cases hnamed with
        | cons hfirst hrest =>
            rw [hfirst.name]
            dsimp only
            rw [hfirst.dataset]
            exact ih.2 ⟨_, hrest, hdatasets⟩

/-- A catalog holds the datasets of its document, a later one instead of an earlier one of its
name. -/
theorem ofDocument_eq_ok_iff {document : Tree} {registry : Registry m} {c : Catalog m} :
    ofDocument document registry = .ok c ↔
      ∃ entries named, document.mapping? = some entries ∧
        List.Forall₂ GivesDataset entries named ∧
        c = ⟨Dict.ofList named, registry, Dict.empty⟩ := by
  unfold ofDocument datasetsOf
  constructor
  · intro h
    split at h
    · rename_i datasets hdatasets
      cases h
      split at hdatasets
      · cases hdatasets
      · rename_i entries hentries
        obtain ⟨named, hnamed, hfold⟩ := parseDatasets_eq_ok_iff.1 hdatasets
        have hsame : datasets = Dict.ofList named := Dict.ext hfold
        exact ⟨entries, named, hentries, hnamed, by rw [hsame]⟩
    · cases h
  · rintro ⟨entries, named, hentries, hnamed, rfl⟩
    have hparse : parseDatasets Dict.empty entries = .ok (Dict.ofList named) :=
      parseDatasets_eq_ok_iff.2 ⟨named, hnamed, rfl⟩
    rw [hentries]
    dsimp only
    rw [hparse]

/-- The names of the entries at the top of a document; an entry whose key is no text has none. -/
def entryNames (entries : List (Tree × Tree)) : List (Option String) :=
  entries.map fun entry => entry.1.text?

theorem entryNames_eq {entries : List (Tree × Tree)} {named : List (String × DatasetEntry)}
    (h : List.Forall₂ GivesDataset entries named) :
    entryNames entries = (Entries.keys named).map some := by
  induction h with
  | nil => rfl
  | cons hfirst _ ih =>
      unfold entryNames Entries.keys at ih ⊢
      rw [List.map_cons, List.map_cons, List.map_cons, hfirst.name, ih]

theorem nodup_entryNames_iff {entries : List (Tree × Tree)} {named : List (String × DatasetEntry)}
    (h : List.Forall₂ GivesDataset entries named) :
    (entryNames entries).Nodup ↔ (Entries.keys named).Nodup := by
  rw [entryNames_eq h]
  exact List.nodup_map_iff (Option.some_injective String)

/-- A catalog has one dataset for each entry of a document, with what the entry says. -/
structure KeepsEntries (c : Catalog m) (entries : List (Tree × Tree)) : Prop where
  size : c.size = entries.length
  found : ∀ key value, (key, value) ∈ entries → ∃ name entry, key.text? = some name ∧
    DatasetEntry.parse name value = .ok entry ∧ c.entry? name = some entry

theorem keepsEntries_of_nodup {entries : List (Tree × Tree)}
    {named : List (String × DatasetEntry)} (hnamed : List.Forall₂ GivesDataset entries named)
    (nodup : (Entries.keys named).Nodup) (registry : Registry m) :
    KeepsEntries ⟨Dict.ofList named, registry, Dict.empty⟩ entries := by
  constructor
  · show (Entries.ofList named).length = entries.length
    rw [hnamed.length_eq]
    exact Entries.length_ofList_eq_iff.2 nodup
  · intro key value hmem
    obtain ⟨⟨name, entry⟩, hin, hname, hentry⟩ := exists_related_of_mem hnamed hmem
    exact ⟨name, entry, hname, hentry, Entries.get?_ofList_of_mem nodup hin⟩

/-- The same entries in another order give the same datasets. -/
theorem ofDocument_of_perm {entries reordered : List (Tree × Tree)}
    {named : List (String × DatasetEntry)} (hnamed : List.Forall₂ GivesDataset entries named)
    (nodup : (Entries.keys named).Nodup) {other : Tree} (hother : other.mapping? = some reordered)
    (hperm : reordered.Perm entries) (registry : Registry m) :
    ofDocument other registry = .ok ⟨Dict.ofList named, registry, Dict.empty⟩ := by
  obtain ⟨moved, hmoved, hnames⟩ := List.perm_comp_forall₂ hperm hnamed
  refine ofDocument_eq_ok_iff.2 ⟨reordered, moved, hother, hmoved, ?_⟩
  have hsame : Dict.ofList named = Dict.ofList moved :=
    Dict.ext (Entries.ofList_eq_of_perm nodup hnames.symm)
  rw [hsame]

/-- A document is refused, or its catalog loses no entry and does not depend on the order of the
entries, exactly when their names are distinct. -/
theorem keeps_entries_iff (document : Tree) (registry : Registry m) :
    (∃ e, ofDocument document registry = .error e) ∨
      ∃ c entries, ofDocument document registry = .ok c ∧ document.mapping? = some entries ∧
        ((KeepsEntries c entries ∧ ∀ other reordered, other.mapping? = some reordered →
            reordered.Perm entries → ofDocument other registry = .ok c) ↔
          (entryNames entries).Nodup) := by
  cases hload : ofDocument document registry with
  | error e => exact .inl ⟨e, rfl⟩
  | ok c =>
      obtain ⟨entries, named, hentries, hnamed, rfl⟩ := ofDocument_eq_ok_iff.1 hload
      refine .inr ⟨_, entries, rfl, hentries, ?_⟩
      rw [nodup_entryNames_iff hnamed]
      constructor
      · rintro ⟨keeps, -⟩
        have hsize : (Entries.ofList named).length = entries.length := keeps.size
        rw [hnamed.length_eq] at hsize
        exact Entries.length_ofList_eq_iff.1 hsize
      · intro nodup
        refine ⟨keepsEntries_of_nodup hnamed nodup registry, ?_⟩
        intro other reordered hother hperm
        exact ofDocument_of_perm hnamed nodup hother hperm registry

/-- Two entries of one name, the second one under a tag. -/
def twiceNamed : List (Tree × Tree) :=
  [(.string "a", .map [(.string "callable", .string "t.lenient")]),
    (.tagged "!x" (.string "a"), .map [(.string "callable", .string "t.value")])]

/-- Of two entries of one name the first is lost, and in another order the other one is. -/
theorem twiceNamed_loses_entry :
    ∃ c d : Catalog Id,
      ofDocument (.map twiceNamed) Registry.empty = .ok c ∧
      ofDocument (.map twiceNamed.reverse) Registry.empty = .ok d ∧
      twiceNamed.length = 2 ∧ c.size = 1 ∧
      (c.entry? "a").map (·.source.callable) = some "t.value" ∧
      (d.entry? "a").map (·.source.callable) = some "t.lenient" :=
  ⟨_, _, rfl, rfl, rfl, rfl, rfl, rfl⟩

end Catalog

end DataCatalog
