import DataCatalog.Document.Reading

/-!
# Documents without equal keys

A document is well formed when no mapping in it, at any depth and keys included, has two equal keys.
What is made of a reading always is: `TextReading.wellFormed_tree`.
-/

set_option autoImplicit false

namespace DataCatalog

section Outcomes

universe u v

variable {ε : Type u} {α β : Type v}

theorem map_eq_ok_iff {f : α → β} {x : Except ε α} {b : β} :
    x.map f = .ok b ↔ ∃ a, x = .ok a ∧ f a = b := by
  cases x with
  | error e => simp [Except.map]
  | ok a => simp [Except.map]

theorem bind_eq_ok_iff {x : Except ε α} {f : α → Except ε β} {b : β} :
    x.bind f = .ok b ↔ ∃ a, x = .ok a ∧ f a = .ok b := by
  cases x with
  | error e => simp [Except.bind]
  | ok a => simp [Except.bind]

end Outcomes

namespace Tree

/-- No mapping in a tree has two equal keys. -/
inductive WellFormed : Tree → Prop where
  | null : WellFormed .null
  | bool (b : Bool) : WellFormed (.bool b)
  | int (i : Int) : WellFormed (.int i)
  | float (x : Binary64) : WellFormed (.float x)
  | string (s : String) : WellFormed (.string s)
  | seq {items : List Tree} (items_wf : ∀ t ∈ items, WellFormed t) : WellFormed (.seq items)
  | map {entries : List (Tree × Tree)} (keys_wf : ∀ entry ∈ entries, WellFormed entry.1)
      (values_wf : ∀ entry ∈ entries, WellFormed entry.2)
      (distinct : entries.Pairwise fun a b => same b.1 a.1 = false) :
      WellFormed (.map entries)
  | tagged {tag : String} {value : Tree} (value_wf : WellFormed value) :
      WellFormed (.tagged tag value)

theorem WellFormed.empty : WellFormed (.map []) :=
  .map (fun _ h => absurd h List.not_mem_nil) (fun _ h => absurd h List.not_mem_nil) .nil

/-- A key that a mapping does not have may be added to it. -/
theorem WellFormed.append_entry {entries : List (Tree × Tree)} {key value : Tree}
    (h : WellFormed (.map entries)) (hkey : WellFormed key) (hvalue : WellFormed value)
    (hnew : hasKey key entries = false) : WellFormed (.map (entries ++ [(key, value)])) := by
  cases h with
  | map keys_wf values_wf distinct =>
      refine .map ?_ ?_ ?_
      · intro entry hmem
        rcases List.mem_append.1 hmem with hmem | hmem
        · exact keys_wf entry hmem
        · exact List.mem_singleton.1 hmem ▸ hkey
      · intro entry hmem
        rcases List.mem_append.1 hmem with hmem | hmem
        · exact values_wf entry hmem
        · exact List.mem_singleton.1 hmem ▸ hvalue
      · refine List.pairwise_append.2 ⟨distinct, List.pairwise_singleton _ _, ?_⟩
        intro a ha b hb
        rw [List.mem_singleton.1 hb]
        unfold hasKey at hnew
        simpa using List.any_eq_false.1 hnew a ha

mutual

/-- A reading makes well-formed trees. -/
theorem wellFormed_ofReading : (r : Reading) → {t : Tree} → ofReading r = .ok t → t.WellFormed
  | .null, _, h => by
      cases h
      exact .null
  | .bool b, _, h => by
      cases h
      exact .bool b
  | .int i, _, h => by
      cases h
      exact .int i
  | .float x, _, h => by
      cases h
      exact .float x
  | .string s, _, h => by
      cases h
      exact .string s
  | .seq items, _, h => by
      obtain ⟨ts, hitems, rfl⟩ := map_eq_ok_iff.1 h
      exact .seq (wellFormed_ofReadings items hitems)
  | .map entries, _, h => by
      obtain ⟨found, hentries, rfl⟩ := map_eq_ok_iff.1 h
      exact wellFormed_ofReadingEntries entries .empty hentries
  | .tagged tag value, _, h => by
      obtain ⟨v, hvalue, rfl⟩ := map_eq_ok_iff.1 h
      exact .tagged (wellFormed_ofReading value hvalue)
  | .fault, _, h => by cases h

theorem wellFormed_ofReadings :
    (rs : List Reading) → {ts : List Tree} → ofReadings rs = .ok ts → ∀ t ∈ ts, t.WellFormed
  | [], _, h => by
      cases h
      intro t hmem
      cases hmem
  | r :: rest, _, h => by
      obtain ⟨first, hfirst, h⟩ := bind_eq_ok_iff.1 h
      obtain ⟨later, hlater, h⟩ := bind_eq_ok_iff.1 h
      cases h
      intro t hmem
      rcases List.mem_cons.1 hmem with rfl | hmem
      · exact wellFormed_ofReading r hfirst
      · exact wellFormed_ofReadings rest hlater t hmem

/-- The entries that are there already stay well formed with each one that is added. -/
theorem wellFormed_ofReadingEntries :
    (rs : List (Reading × Reading)) → {acc entries : List (Tree × Tree)} →
      WellFormed (.map acc) → ofReadingEntries acc rs = .ok entries → WellFormed (.map entries)
  | [], _, _, hacc, h => by
      cases h
      exact hacc
  | (k, r) :: rest, acc, entries, hacc, h => by
      obtain ⟨key, hkey, h⟩ := bind_eq_ok_iff.1 h
      cases hnew : hasKey key acc with
      | true =>
          rw [hnew] at h
          cases h
      | false =>
          rw [hnew] at h
          obtain ⟨value, hvalue, h⟩ := bind_eq_ok_iff.1 h
          have hadded : WellFormed (.map (acc ++ [(key, value)])) :=
            hacc.append_entry (wellFormed_ofReading k hkey) (wellFormed_ofReading r hvalue) hnew
          exact wellFormed_ofReadingEntries rest hadded h

end

end Tree

/-- The tree of a text is well formed. -/
theorem TextReading.wellFormed_tree {r : TextReading} {t : Tree} (h : r.tree = .ok t) :
    t.WellFormed := by
  unfold TextReading.tree TextReading.finish at h
  split at h
  · rename_i found hfound
    split at h
    · cases h
      exact Tree.wellFormed_ofReading r.reading hfound
    · cases h
  · cases h

end DataCatalog
