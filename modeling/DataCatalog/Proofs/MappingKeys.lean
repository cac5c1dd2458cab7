import DataCatalog.Document.Outline
import DataCatalog.Proofs.Entries

/-!
# Keys of mappings as texts

A mapping of a document may have scalars of any kind for keys; what reads a document looks at the
texts that they print.  `keyText?_eq_some_iff` says that only a text prints as a word such as
`callable`: the words for numbers consist of digits, signs, points and the letters of `e`, `inf`
and `nan`.

`exists_collect_iff` says which mappings can be collected under the texts of their keys, those of
`DistinctKeys`, and `perm_of_collect` that every entry is then there once.
-/

set_option autoImplicit false

namespace DataCatalog

/-- The characters that occur in the texts of numbers. -/
def Text.InNumber (c : Char) : Prop :=
  c.isDigit = true ∨ c ∈ ['-', '.', 'e', 'i', 'n', 'f', 'a']

instance (c : Char) : Decidable (Text.InNumber c) :=
  inferInstanceAs (Decidable (_ ∨ _))

open Text (InNumber)

theorem inNumber_of_all {cs : List Char} (h : cs.all (fun c => decide (InNumber c)) = true)
    {c : Char} (hmem : c ∈ cs) : InNumber c :=
  of_decide_eq_true (List.all_eq_true.1 h c hmem)

theorem inNumber_toDigits {n : Nat} {c : Char} (h : c ∈ Nat.toDigits 10 n) : InNumber c :=
  .inl (Nat.isDigit_of_mem_toDigits (by decide) (by decide) h)

theorem inNumber_toString_int {i : Int} {c : Char} (h : c ∈ (toString i).toList) : InNumber c := by
  rw [Int.toString_eq_repr, Int.repr_eq_if] at h
  split at h
  · rw [Nat.repr, String.toList_ofList] at h
    exact inNumber_toDigits h
  · rw [String.toList_append] at h
    rcases List.mem_append.1 h with h | h
    · exact .inr (List.mem_cons.2 (.inl (by simpa using h)))
    · rw [Nat.repr, String.toList_ofList] at h
      exact inNumber_toDigits h

namespace Binary64

theorem inNumber_zeros {n : Nat} {c : Char} (h : c ∈ zeros n) : InNumber c := by
  rw [List.eq_of_mem_replicate h]
  decide

theorem inNumber_positionalDigits {style : DecimalStyle} {digits : List Char} {point : Int}
    (hdigits : ∀ c ∈ digits, InNumber c) {c : Char}
    (h : c ∈ positionalDigits style digits point) : InNumber c := by
  have hpoint : ∀ c ∈ ['.', '0'], InNumber c := fun _ => inNumber_of_all (by decide)
  unfold positionalDigits at h
  split at h
  · rcases List.mem_append.1 h with h | h
    · rcases List.mem_cons.1 h with rfl | h
      · decide
      · rcases List.mem_cons.1 h with rfl | h
        · decide
        · exact inNumber_zeros h
    · exact hdigits c h
  · split at h
    · rcases List.mem_append.1 h with h | h
      · rcases List.mem_append.1 h with h | h
        · exact hdigits c h
        · exact inNumber_zeros h
      · split at h
        · exact hpoint c h
        · simp at h
    · rcases List.mem_append.1 h with h | h
      · exact hdigits c (List.mem_of_mem_take h)
      · rcases List.mem_cons.1 h with rfl | h
        · decide
        · exact hdigits c (List.mem_of_mem_drop h)

theorem inNumber_exponentDigits {digits : List Char} {point : Int}
    (hdigits : ∀ c ∈ digits, InNumber c) {c : Char}
    (h : c ∈ exponentDigits .yaml digits point) : InNumber c := by
  unfold exponentDigits at h
  rcases List.mem_append.1 h with h | h
  · rcases List.mem_append.1 h with h | h
    · match digits with
      | [] => simp at h
      | [d] => exact hdigits c h
      | d :: e :: rest =>
          rcases List.mem_cons.1 h with rfl | h
          · exact hdigits _ List.mem_cons_self
          · rcases List.mem_cons.1 h with rfl | h
            · decide
            · exact hdigits c (List.mem_cons_of_mem _ h)
    · rcases List.mem_cons.1 h with rfl | h
      · decide
      · split at h
        · rw [List.mem_singleton.1 h]
          decide
        · simp [DecimalStyle.yaml] at h
  · exact inNumber_toDigits h

theorem inNumber_text {x : Binary64} {c : Char} (h : c ∈ (x.text .yaml).toList) : InNumber c := by
  have hwords : ∀ c ∈ ".inf".toList ++ ".nan".toList, InNumber c :=
    fun _ => inNumber_of_all (by decide)
  have hpoint : ∀ c ∈ ['.', '0'], InNumber c := fun _ => inNumber_of_all (by decide)
  have hlayout {number : Nat} {point : Int} (fits : Bool)
      (h : c ∈ if fits then positionalDigits .yaml (Nat.toDigits 10 number) point
        else exponentDigits .yaml (Nat.toDigits 10 number) point) : InNumber c := by
    cases fits with
    | true => exact inNumber_positionalDigits (fun _ => inNumber_toDigits) h
    | false => exact inNumber_exponentDigits (fun _ => inNumber_toDigits) h
  unfold text at h
  split at h
  · exact hwords c (List.mem_append_right _ h)
  · rw [String.toList_ofList] at h
    rcases List.mem_append.1 h with h | h
    · split at h
      · rw [List.mem_singleton.1 h]
        decide
      · simp at h
    · unfold magnitudeText at h
      split at h
      · exact hwords c (List.mem_append_left _ h)
      · split at h
        · rcases List.mem_cons.1 h with rfl | h
          · decide
          · exact hpoint c h
        · exact hlayout _ h

end Binary64

namespace Tree

/-- Whether a name is no text of a number, a truth value or null. -/
def IsWord (name : String) : Prop :=
  (∃ c ∈ name.toList, ¬InNumber c) ∧ name ≠ "true" ∧ name ≠ "false" ∧ name ≠ "null"

/-- Only a text prints as a word. -/
theorem keyText?_eq_some_iff {name : String} (word : IsWord name) {k : Tree} :
    k.keyText? = some name ↔ k = .string name := by
  obtain ⟨⟨c, hmem, hc⟩, htrue, hfalse, hnull⟩ := word
  constructor
  · intro h
    cases k with
    | null => exact absurd (Option.some.inj h).symm hnull
    | bool b =>
        cases b with
        | true => exact absurd (Option.some.inj h).symm htrue
        | false => exact absurd (Option.some.inj h).symm hfalse
    | int i =>
        rw [← Option.some.inj h] at hmem
        -- some character of a word is in no text of a number
        exact absurd (inNumber_toString_int hmem) hc
    | float x =>
        rw [← Option.some.inj h] at hmem
        exact absurd (Binary64.inNumber_text hmem) hc
    | string s => rw [Option.some.inj h]
    | seq items => cases h
    | map entries => cases h
    | tagged tag value => cases h
  · intro h
    rw [h]
    rfl

/-- A scalar without a tag. -/
def IsScalar : Tree → Prop
  | .seq _ => False
  | .map _ => False
  | .tagged _ _ => False
  | _ => True

theorem exists_keyText?_iff {k : Tree} : (∃ name, k.keyText? = some name) ↔ k.IsScalar := by
  cases k <;> simp [keyText?, IsScalar]

/-- Every key is an untagged scalar, and no two of them print alike. -/
structure DistinctKeys {α : Type} (entries : List (Tree × α)) : Prop where
  scalar : ∀ entry ∈ entries, entry.1.IsScalar
  distinct : entries.Pairwise fun a b => a.1.keyText? ≠ b.1.keyText?

variable {α β : Type}

theorem distinctKeys_nil : DistinctKeys ([] : List (Tree × α)) :=
  ⟨fun _ hmem => absurd hmem List.not_mem_nil, List.Pairwise.nil⟩

theorem distinctKeys_cons_iff {k : Tree} {a : α} {rest : List (Tree × α)} :
    DistinctKeys ((k, a) :: rest) ↔
      k.IsScalar ∧ (∀ entry ∈ rest, k.keyText? ≠ entry.1.keyText?) ∧ DistinctKeys rest := by
  constructor
  · rintro ⟨scalar, distinct⟩
    obtain ⟨hhead, htail⟩ := List.pairwise_cons.1 distinct
    exact ⟨scalar (k, a) List.mem_cons_self, hhead,
      fun entry hmem => scalar entry (List.mem_cons_of_mem _ hmem), htail⟩
  · rintro ⟨hscalar, hhead, scalar, distinct⟩
    refine ⟨?_, List.pairwise_cons.2 ⟨hhead, distinct⟩⟩
    intro entry hmem
    rcases List.mem_cons.1 hmem with rfl | hmem
    · exact hscalar
    · exact scalar entry hmem

/-- Among distinct keys an entry is known by the text of its key. -/
theorem DistinctKeys.eq_of_keyText? {entries : List (Tree × α)} (h : DistinctKeys entries)
    {k k' : Tree} {a a' : α} (hmem : (k, a) ∈ entries) (hmem' : (k', a') ∈ entries)
    (heq : k.keyText? = k'.keyText?) : k = k' ∧ a = a' := by
  induction entries with
  | nil => cases hmem
  | cons head rest ih =>
      obtain ⟨k₀, a₀⟩ := head
      obtain ⟨-, hhead, hrest⟩ := distinctKeys_cons_iff.1 h
      rcases List.mem_cons.1 hmem with hfirst | hlater
      · obtain ⟨rfl, rfl⟩ := Prod.mk.inj hfirst
        rcases List.mem_cons.1 hmem' with hfirst' | hlater'
        · obtain ⟨rfl, rfl⟩ := Prod.mk.inj hfirst'
          exact ⟨rfl, rfl⟩
        · exact absurd heq (hhead (k', a') hlater')
      · rcases List.mem_cons.1 hmem' with hfirst' | hlater'
        · obtain ⟨rfl, rfl⟩ := Prod.mk.inj hfirst'
          exact absurd heq.symm (hhead (k, a) hlater)
        · exact ih hrest hlater hlater'

/-- Under a text there is one value at most. -/
theorem DistinctKeys.eq_of_text {entries : List (Tree × α)} (h : DistinctKeys entries)
    {key : String} {a a' : α} (hmem : (.string key, a) ∈ entries)
    (hmem' : (.string key, a') ∈ entries) : a = a' :=
  (h.eq_of_keyText? hmem hmem' rfl).2

/-- The order of the entries does not matter. -/
theorem DistinctKeys.perm {entries moved : List (Tree × α)} (h : DistinctKeys entries)
    (perm : moved.Perm entries) : DistinctKeys moved := by
  constructor
  · intro entry hmem
    exact h.scalar entry (perm.mem_iff.1 hmem)
  · exact h.distinct.perm perm.symm Ne.symm

/-- The keys are what matters, not the values. -/
theorem distinctKeys_map_iff (f : α → β) {entries : List (Tree × α)} :
    DistinctKeys (entries.map fun entry => (entry.1, f entry.2)) ↔ DistinctKeys entries := by
  constructor
  · rintro ⟨scalar, distinct⟩
    rw [List.pairwise_map] at distinct
    refine ⟨?_, distinct⟩
    intro entry hmem
    exact scalar (entry.1, f entry.2) (List.mem_map.2 ⟨entry, hmem, rfl⟩)
  · rintro ⟨scalar, distinct⟩
    refine ⟨?_, ?_⟩
    · intro entry hmem
      obtain ⟨original, horiginal, rfl⟩ := List.mem_map.1 hmem
      exact scalar original horiginal
    · rw [List.pairwise_map]
      exact distinct

end Tree

namespace Outline

open DataCatalog.Tree

/-- Keys are still free once a key is taken when they were free and are not that key. -/
theorem forall_get?_put_iff {acc : Entries Outline} {raw : List (Tree × Outline)} {key : String}
    {o : Outline} :
    (∀ entry ∈ raw, ∀ name, entry.1.keyText? = some name →
        Entries.get? name (Entries.put key o acc) = none) ↔
      (∀ entry ∈ raw, entry.1.keyText? ≠ some key) ∧
        ∀ entry ∈ raw, ∀ name, entry.1.keyText? = some name → Entries.get? name acc = none := by
  constructor
  · intro h
    constructor
    · intro entry hmem heq
      have hput := h entry hmem key heq
      rw [Entries.get?_put, if_pos rfl] at hput
      cases hput
    · intro entry hmem name hname
      have hput := h entry hmem name hname
      rw [Entries.get?_put] at hput
      split at hput
      · cases hput
      · exact hput
  · rintro ⟨hne, hfree⟩ entry hmem name hname
    have hother : key ≠ name := by
      rintro rfl
      exact hne entry hmem hname
    rw [Entries.get?_put, if_neg hother]
    exact hfree entry hmem name hname

/-- Entries can be collected when their keys are distinct scalars that are not there yet. -/
theorem exists_collect_from_iff {acc : Entries Outline} {raw : List (Tree × Outline)} :
    (∃ collected, collect acc raw = .ok collected) ↔
      DistinctKeys raw ∧ ∀ entry ∈ raw, ∀ key, entry.1.keyText? = some key →
        Entries.get? key acc = none := by
  induction raw generalizing acc with
  | nil => exact ⟨fun _ => ⟨distinctKeys_nil, by simp⟩, fun _ => ⟨acc, rfl⟩⟩
  | cons head rest ih =>
      obtain ⟨k, o⟩ := head
      rw [distinctKeys_cons_iff]
      unfold collect
      cases hk : k.keyText? with
      | none =>
          -- a key without a text is no scalar, and nothing can be collected
          have hscalar : ¬k.IsScalar := by
            intro h
            obtain ⟨name, hname⟩ := exists_keyText?_iff.2 h
            rw [hk] at hname
            cases hname
          constructor
          · rintro ⟨collected, h⟩
            cases h
          · rintro ⟨⟨h, -⟩, -⟩
            exact absurd h hscalar
      | some key =>
          have hscalar : k.IsScalar := exists_keyText?_iff.1 ⟨key, hk⟩
          simp only [Entries.has_eq_isSome_get?]
          cases hget : Entries.get? key acc with
          -- the text is taken already
          | some old =>
              constructor
              · rintro ⟨collected, h⟩
                cases h
              · rintro ⟨-, h⟩
                have hnone := h (k, o) List.mem_cons_self key hk
                rw [hget] at hnone
                cases hnone
          | none =>
              -- the text is free, and taken for the keys that follow
              simp only [Option.isSome_none, Bool.false_eq_true, if_false]
              rw [ih, forall_get?_put_iff]
              constructor
              · rintro ⟨distinct, hhead, hfree⟩
                refine ⟨⟨hscalar, ?_, distinct⟩, ?_⟩
                · intro entry hmem heq
                  exact hhead entry hmem heq.symm
                · intro entry hmem name hname
                  rcases List.mem_cons.1 hmem with rfl | hmem
                  · rw [hk] at hname
                    cases hname
                    exact hget
                  · exact hfree entry hmem name hname
              · rintro ⟨⟨-, hhead, distinct⟩, hfree⟩
                refine ⟨distinct, ?_, ?_⟩
                · intro entry hmem heq
                  exact hhead entry hmem heq.symm
                · intro entry hmem name hname
                  exact hfree entry (List.mem_cons_of_mem _ hmem) name hname

/-- The mappings that can be collected are those with distinct scalars for keys. -/
theorem exists_collect_iff {raw : List (Tree × Outline)} :
    (∃ collected, collect [] raw = .ok collected) ↔ DistinctKeys raw := by
  rw [exists_collect_from_iff]
  constructor
  · rintro ⟨distinct, -⟩
    exact distinct
  · intro distinct
    exact ⟨distinct, fun _ _ _ _ => rfl⟩

theorem perm_of_collect_from {acc collected : Entries Outline} {raw : List (Tree × Outline)}
    (h : collect acc raw = .ok collected) :
    (collected.map fun entry => (some entry.1, entry.2)).Perm
      ((raw.map fun entry => (entry.1.keyText?, entry.2)) ++
        acc.map fun entry => (some entry.1, entry.2)) := by
  induction raw generalizing acc with
  | nil =>
      cases h
      exact List.Perm.refl _
  | cons head rest ih =>
      obtain ⟨k, o⟩ := head
      unfold collect at h
      cases hk : k.keyText? with
      | none =>
          rw [hk] at h
          cases h
      | some key =>
          simp only [hk] at h
          split at h
          · cases h
          · rename_i hfree
            have hput := (Entries.put_perm o (by simpa using hfree)).map
              fun entry : String × Outline => (some entry.1, entry.2)
            -- the entry goes from the head of the mapping to its place among the collected ones
            refine (ih h).trans ?_
            rw [List.map_cons, hk, List.cons_append]
            exact (hput.append_left _).trans List.perm_middle

/-- The collected entries are the entries of the mapping, each under the text of its key. -/
theorem perm_of_collect {collected : Entries Outline} {raw : List (Tree × Outline)}
    (h : collect [] raw = .ok collected) :
    (collected.map fun entry => (some entry.1, entry.2)).Perm
      (raw.map fun entry => (entry.1.keyText?, entry.2)) := by
  have hperm := perm_of_collect_from h
  rwa [List.map_nil, List.append_nil] at hperm

theorem ordered_of_collect {acc collected : Entries Outline} {raw : List (Tree × Outline)}
    (ordered : Entries.Ordered acc) (h : collect acc raw = .ok collected) :
    Entries.Ordered collected := by
  induction raw generalizing acc with
  | nil =>
      cases h
      exact ordered
  | cons head rest ih =>
      obtain ⟨k, o⟩ := head
      unfold collect at h
      cases hk : k.keyText? with
      | none =>
          rw [hk] at h
          cases h
      | some key =>
          simp only [hk] at h
          split at h
          · cases h
          · exact ih (Entries.ordered_put key o ordered) h

theorem mem_collected_iff {collected : Entries Outline} {raw : List (Tree × Outline)}
    (h : collect [] raw = .ok collected) {name : String} {o : Outline} :
    (name, o) ∈ collected ↔ ∃ k, (k, o) ∈ raw ∧ k.keyText? = some name := by
  have hmem := (perm_of_collect h).mem_iff (a := (some name, o))
  constructor
  · intro hin
    obtain ⟨⟨k, o'⟩, hraw, heq⟩ := List.mem_map.1 (hmem.1 (List.mem_map.2 ⟨_, hin, rfl⟩))
    obtain ⟨hk, rfl⟩ := Prod.mk.inj heq
    exact ⟨k, hraw, hk⟩
  · rintro ⟨k, hraw, hk⟩
    obtain ⟨⟨name', o'⟩, hin, heq⟩ :=
      List.mem_map.1 (hmem.2 (List.mem_map.2 ⟨_, hraw, Prod.ext hk rfl⟩))
    cases heq
    exact hin

end Outline

end DataCatalog
