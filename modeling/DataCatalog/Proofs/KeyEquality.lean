import DataCatalog.Document.WellFormed
import Mathlib.Data.Fintype.EquivFin
import Mathlib.Data.List.Forall2

/-!
# Equality of keys

`Tree.same` is the equality under which the keys of a mapping are compared.  It is reflexive and
transitive on all trees.  That it is symmetric (`same_symm`) is a matter of counting: of two
mappings with as many entries each, the one lies in the other, and no two of its keys are equal.
Hence it holds of well-formed trees.

`Part` leads from a tree to what stands directly in it, keys included.
-/

set_option autoImplicit false

namespace DataCatalog

namespace Tree

/-- What stands directly in a tree: under a tag, as an element, as a key or as the value of one. -/
inductive Part : Tree → Tree → Prop where
  | tagged {tag : String} {t : Tree} : Part (.tagged tag t) t
  | item {items : List Tree} {t : Tree} (mem : t ∈ items) : Part (.seq items) t
  | key {entries : List (Tree × Tree)} {k v : Tree} (mem : (k, v) ∈ entries) :
      Part (.map entries) k
  | value {entries : List (Tree × Tree)} {k v : Tree} (mem : (k, v) ∈ entries) :
      Part (.map entries) v

theorem Part.sizeOf_lt {t u : Tree} (h : Part t u) : sizeOf u < sizeOf t := by
  cases h with
  | tagged =>
      simp only [Tree.tagged.sizeOf_spec]
      omega
  | item mem =>
      have hitem := List.sizeOf_lt_of_mem mem
      simp only [Tree.seq.sizeOf_spec]
      omega
  | key mem =>
      have hentry := List.sizeOf_lt_of_mem mem
      simp only [Prod.mk.sizeOf_spec, Tree.map.sizeOf_spec] at hentry ⊢
      omega
  | value mem =>
      have hentry := List.sizeOf_lt_of_mem mem
      simp only [Prod.mk.sizeOf_spec, Tree.map.sizeOf_spec] at hentry ⊢
      omega

/-- A text is equal to itself only. -/
theorem eq_string_of_same {text : String} {t : Tree} (h : same (.string text) t = true) :
    t = .string text := by
  cases t with
  | string other => rw [beq_iff_eq.1 h]
  | _ => cases h

theorem same_string_iff {text : String} {t : Tree} :
    same (.string text) t = true ↔ t = .string text := by
  constructor
  · exact eq_string_of_same
  · rintro rfl
    exact beq_self_eq_true text

/-- To prove something of every tree it may be assumed of the trees that stand in it. -/
theorem part_induction {P : Tree → Prop} (step : ∀ t, (∀ u, Part t u → P u) → P t) (t : Tree) :
    P t := by
  induction hsize : sizeOf t using Nat.strongRecOn generalizing t with
  | ind size ih =>
      subst hsize
      apply step
      intro u hpart
      exact ih (sizeOf u) hpart.sizeOf_lt u rfl

theorem WellFormed.of_part {t u : Tree} (h : t.WellFormed) (hpart : Part t u) : u.WellFormed := by
  cases hpart with
  | tagged =>
      cases h with
      | tagged value_wf => exact value_wf
  | item mem =>
      cases h with
      | seq items_wf => exact items_wf u mem
  | @key entries k v mem =>
      cases h with
      | map keys_wf values_wf distinct => exact keys_wf (u, v) mem
  | @value entries k v mem =>
      cases h with
      | map keys_wf values_wf distinct => exact values_wf (k, u) mem

/-! ## Elements and entries -/

theorem sameItems_iff {as bs : List Tree} :
    sameItems as bs = true ↔ List.Forall₂ (fun a b => same a b = true) as bs := by
  induction as generalizing bs with
  | nil =>
      cases bs with
      | nil => simp [sameItems]
      | cons b bs => simp [sameItems]
  | cons a as ih =>
      cases bs with
      | nil => simp [sameItems]
      | cons b bs => simp [sameItems, ih]

/-- An entry of a mapping has an equal one in a list of entries. -/
def Matched (entry : Tree × Tree) (others : List (Tree × Tree)) : Prop :=
  ∃ other ∈ others, same entry.1 other.1 = true ∧ same entry.2 other.2 = true

theorem sameEntries_iff {entries others : List (Tree × Tree)} :
    sameEntries entries others = true ↔ ∀ entry ∈ entries, Matched entry others := by
  induction entries with
  | nil => simp [sameEntries]
  | cons head rest ih =>
      obtain ⟨k, v⟩ := head
      simp only [sameEntries, Bool.and_eq_true, ih, List.any_eq_true, List.forall_mem_cons]
      rfl

theorem same_seq_iff {as : List Tree} {t : Tree} :
    same (.seq as) t = true ↔
      ∃ bs, t = .seq bs ∧ List.Forall₂ (fun a b => same a b = true) as bs := by
  cases t with
  | seq bs => simp [same, sameItems_iff]
  | _ => simp [same]

theorem same_map_iff {entries : List (Tree × Tree)} {t : Tree} :
    same (.map entries) t = true ↔
      ∃ others, t = .map others ∧ entries.length = others.length ∧
        ∀ entry ∈ entries, Matched entry others := by
  cases t with
  | map others => simp [same, sameEntries_iff]
  | _ => simp [same]

theorem same_tagged_iff {tag : String} {value t : Tree} :
    same (.tagged tag value) t = true ↔
      ∃ other w, t = .tagged other w ∧ bareTag tag = bareTag other ∧ same value w = true := by
  cases t with
  | tagged other w => simp [same]
  | _ => simp [same]

/-! ## Reflexivity and transitivity -/

theorem sameFloat_self (x : Binary64) : sameFloat x x = true := by
  unfold sameFloat Binary64.same
  cases x.isNaN <;> simp

theorem sameFloat_symm {x y : Binary64} (h : sameFloat x y = true) : sameFloat y x = true := by
  unfold sameFloat Binary64.same at h ⊢
  cases hx : x.isNaN <;> cases hy : y.isNaN <;> simp_all
  rcases h with h | ⟨h, h'⟩
  · exact .inl h.symm
  · exact .inr ⟨h', h⟩

theorem sameFloat_trans {x y z : Binary64} (h : sameFloat x y = true)
    (h' : sameFloat y z = true) : sameFloat x z = true := by
  have hzero {a b : Binary64} (hbits : a.bits = b.bits) : a.isZero = b.isZero := by
    cases a
    cases b
    cases hbits
    rfl
  unfold sameFloat Binary64.same at h h' ⊢
  cases hx : x.isNaN <;> cases hy : y.isNaN <;> cases hz : z.isNaN <;> simp_all
  rcases h with h | ⟨hxzero, hyzero⟩
  · rcases h' with h' | ⟨hyzero, hzzero⟩
    · exact .inl (h.trans h')
    · exact .inr ⟨(hzero h).trans hyzero, hzzero⟩
  · rcases h' with h' | ⟨-, hzzero⟩
    · exact .inr ⟨hxzero, (hzero h').symm.trans hyzero⟩
    · exact .inr ⟨hxzero, hzzero⟩

@[simp] theorem same_self (t : Tree) : same t t = true := by
  induction t using part_induction with
  | step t ih =>
      cases t with
      | float x => exact sameFloat_self x
      | seq items =>
          refine same_seq_iff.2 ⟨items, rfl, List.forall₂_same.2 ?_⟩
          intro t hmem
          exact ih t (.item hmem)
      | map entries =>
          refine same_map_iff.2 ⟨entries, rfl, rfl, ?_⟩
          rintro ⟨k, v⟩ hmem
          exact ⟨(k, v), hmem, ih k (.key hmem), ih v (.value hmem)⟩
      | tagged tag value => exact same_tagged_iff.2 ⟨tag, value, rfl, rfl, ih value .tagged⟩
      | _ => simp [same]

theorem same_trans (t : Tree) :
    ∀ {u v : Tree}, same t u = true → same u v = true → same t v = true := by
  induction t using part_induction with
  | step t ih =>
      intro u v h h'
      cases t with
      | null => cases u <;> simp_all [same]
      | bool b => cases u <;> simp_all [same]
      | int i => cases u <;> simp_all [same]
      | string s => cases u <;> simp_all [same]
      | float x =>
          cases u <;> simp only [same, Bool.false_eq_true] at h
          cases v <;> simp only [same, Bool.false_eq_true] at h'
          exact sameFloat_trans h h'
      | seq as =>
          obtain ⟨bs, rfl, hbs⟩ := same_seq_iff.1 h
          obtain ⟨cs, rfl, hcs⟩ := same_seq_iff.1 h'
          refine same_seq_iff.2 ⟨cs, rfl, ?_⟩
          have heach : ∀ a ∈ as, ∀ {b c}, same a b = true → same b c = true → same a c = true :=
            fun a hmem => ih a (.item hmem)
          clear h h' ih
          induction hbs generalizing cs with
          | nil =>
              cases hcs
              exact .nil
          | cons hab _ ihs =>
              cases hcs with
              | cons hbc hrest =>
                  refine .cons (heach _ List.mem_cons_self hab hbc) (ihs _ hrest ?_)
                  intro a hmem
                  exact heach a (List.mem_cons_of_mem _ hmem)
      | map entries =>
          obtain ⟨others, rfl, hlength, hmatched⟩ := same_map_iff.1 h
          obtain ⟨further, rfl, hlength', hmatched'⟩ := same_map_iff.1 h'
          refine same_map_iff.2 ⟨further, rfl, hlength.trans hlength', ?_⟩
          rintro ⟨k, v⟩ hmem
          obtain ⟨other, hother, hk, hv⟩ := hmatched (k, v) hmem
          obtain ⟨last, hlast, hk', hv'⟩ := hmatched' other hother
          exact ⟨last, hlast, ih k (.key hmem) hk hk', ih v (.value hmem) hv hv'⟩
      | tagged tag value =>
          obtain ⟨tag', value', rfl, htag, hvalue⟩ := same_tagged_iff.1 h
          obtain ⟨tag'', value'', rfl, htag', hvalue'⟩ := same_tagged_iff.1 h'
          exact same_tagged_iff.2
            ⟨tag'', value'', rfl, htag.trans htag', ih value .tagged hvalue hvalue'⟩

/-! ## Symmetry -/

/-- Of two mappings with as many entries, every entry of the second one is matched as well: the
first one has no two equal keys, so that no two of its entries are matched by one. -/
theorem exists_same_of_matched {entries others : List (Tree × Tree)}
    (hlength : entries.length = others.length)
    (hmatched : ∀ entry ∈ entries, Matched entry others)
    (distinct : entries.Pairwise fun a b => same b.1 a.1 = false)
    (hsymm : ∀ entry ∈ entries, ∀ other ∈ others,
      same entry.1 other.1 = true → same other.1 entry.1 = true) :
    ∀ other ∈ others, ∃ entry ∈ entries,
      same entry.1 other.1 = true ∧ same entry.2 other.2 = true := by
  have hindex (i : Fin entries.length) : ∃ j : Fin others.length,
      same entries[i].1 others[j].1 = true ∧ same entries[i].2 others[j].2 = true := by
    obtain ⟨other, hother, hk, hv⟩ := hmatched entries[i] (List.getElem_mem i.2)
    obtain ⟨j, hj, rfl⟩ := List.getElem_of_mem hother
    exact ⟨⟨j, hj⟩, hk, hv⟩
  choose f hkey hvalue using hindex
  have hless {i j : Fin entries.length} (hlt : i < j) : f i ≠ f j := by
    intro heq
    have hj := hkey j
    rw [← heq] at hj
    have hback := hsymm _ (List.getElem_mem i.2) _ (List.getElem_mem _) (hkey i)
    have hboth := same_trans _ hj hback
    have hne := List.pairwise_iff_getElem.1 distinct i j i.2 j.2 hlt
    exact Bool.noConfusion (hboth.symm.trans hne)
  have hinjective : Function.Injective f := by
    intro i j heq
    rcases lt_trichotomy i j with hlt | hsame | hlt
    · exact absurd heq (hless hlt)
    · exact hsame
    · exact absurd heq.symm (hless hlt)
  -- as many entries are matched as there are
  have hsurjective : Function.Surjective f :=
    ((Fintype.bijective_iff_injective_and_card f).2 ⟨hinjective, by simpa using hlength⟩).2
  intro other hother
  obtain ⟨j, hj, rfl⟩ := List.getElem_of_mem hother
  obtain ⟨i, hi⟩ := hsurjective ⟨j, hj⟩
  have hk := hkey i
  have hv := hvalue i
  rw [hi] at hk hv
  exact ⟨entries[i], List.getElem_mem i.2, hk, hv⟩

theorem same_symm (t : Tree) :
    ∀ {u : Tree}, t.WellFormed → same t u = true → same u t = true := by
  induction t using part_induction with
  | step t ih =>
      intro u wf h
      cases t with
      | null => cases u <;> simp_all [same]
      | bool b => cases u <;> simp_all [same]
      | int i => cases u <;> simp_all [same]
      | string s => cases u <;> simp_all [same]
      | float x =>
          cases u <;> simp only [same, Bool.false_eq_true] at h
          exact sameFloat_symm h
      | seq as =>
          obtain ⟨bs, rfl, hbs⟩ := same_seq_iff.1 h
          refine same_seq_iff.2 ⟨as, rfl, ?_⟩
          have heach : ∀ a ∈ as, ∀ {b}, same a b = true → same b a = true :=
            fun a hmem => ih a (.item hmem) (wf.of_part (.item hmem))
          clear h ih wf
          induction hbs with
          | nil => exact .nil
          | cons hab _ ihs =>
              refine .cons (heach _ List.mem_cons_self hab) (ihs ?_)
              intro a hmem
              exact heach a (List.mem_cons_of_mem _ hmem)
      | map entries =>
          obtain ⟨others, rfl, hlength, hmatched⟩ := same_map_iff.1 h
          refine same_map_iff.2 ⟨entries, rfl, hlength.symm, ?_⟩
          have distinct : entries.Pairwise fun a b => same b.1 a.1 = false := by
            cases wf with
            | map keys_wf values_wf distinct => exact distinct
          have hkeys : ∀ entry ∈ entries, ∀ other ∈ others,
              same entry.1 other.1 = true → same other.1 entry.1 = true := by
            rintro ⟨k, v⟩ hmem other - hsame
            exact ih k (.key hmem) (wf.of_part (.key hmem)) hsame
          intro other hother
          obtain ⟨⟨k, v⟩, hmem, hk, hv⟩ :=
            exists_same_of_matched hlength hmatched distinct hkeys other hother
          exact ⟨(k, v), hmem, ih k (.key hmem) (wf.of_part (.key hmem)) hk,
            ih v (.value hmem) (wf.of_part (.value hmem)) hv⟩
      | tagged tag value =>
          obtain ⟨tag', value', rfl, htag, hvalue⟩ := same_tagged_iff.1 h
          exact same_tagged_iff.2
            ⟨tag, value, rfl, htag.symm, ih value .tagged (wf.of_part .tagged) hvalue⟩

/-- Equal keys are equal to the same keys. -/
theorem same_congr_left {t u : Tree} (wf : t.WellFormed) (h : same t u = true) (v : Tree) :
    same t v = same u v := by
  apply Bool.eq_iff_iff.2
  constructor
  · intro htv
    exact same_trans u (same_symm t wf h) htv
  · intro huv
    exact same_trans t h huv

theorem same_congr_right {t u : Tree} (wf : t.WellFormed) (h : same t u = true) (v : Tree) :
    same v t = same v u := by
  apply Bool.eq_iff_iff.2
  constructor
  · intro hvt
    exact same_trans v hvt h
  · intro hvu
    exact same_trans v hvu (same_symm t wf h)

end Tree

end DataCatalog
