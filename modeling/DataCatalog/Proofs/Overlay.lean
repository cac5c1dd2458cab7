import DataCatalog.Configuration.Basic
import DataCatalog.Proofs.KeyEquality

/-!
# Layers of parameters

Layers are merged one after the other.  `merges_overlay` says what comes of it: every key occurs
once, in the place where a layer first has it, with the value of the last layer that has it.
-/

set_option autoImplicit false

namespace DataCatalog

namespace Tree

theorem isSome_get? (key : Tree) (entries : List (Tree × Tree)) :
    (get? key entries).isSome = hasKey key entries := by
  induction entries with
  | nil => rfl
  | cons head rest ih =>
      obtain ⟨k, value⟩ := head
      unfold hasKey at ih ⊢
      rw [List.any_cons, ← ih, get?]
      cases same key k <;> simp

theorem get?_congr {key other : Tree} (wf : key.WellFormed) (h : same key other = true)
    (entries : List (Tree × Tree)) : get? key entries = get? other entries := by
  induction entries with
  | nil => rfl
  | cons head rest ih =>
      obtain ⟨k, value⟩ := head
      rw [get?, get?, same_congr_left wf h k, ih]

/-- Setting a key changes what is found under the keys equal to it, and nothing else. -/
theorem get?_setKey {key other : Tree} (wf : key.WellFormed) (wf_other : other.WellFormed)
    (value : Tree) (entries : List (Tree × Tree)) :
    get? other (setKey key value entries) =
      if same other key then some value else get? other entries := by
  induction entries with
  | nil => rfl
  | cons head rest ih =>
      obtain ⟨k, old⟩ := head
      rw [setKey]
      cases hk : same key k with
      | true =>
          -- the entry that is replaced has an equal key
          have hsame : same other key = same other k := same_congr_right wf hk other
          rw [if_pos rfl, get?, get?, hsame]
          cases same other k <;> rfl
      | false =>
          rw [if_neg Bool.false_ne_true, get?, get?, ih]
          cases hok : same other k with
          | false => rfl
          | true =>
              have hne : same other key = false := by
                cases hother : same other key with
                | false => rfl
                | true =>
                    have hcongr := same_congr_left wf_other hother k
                    rw [hok, hk] at hcongr
                    exact hcongr
              rw [hne]
              rfl

/-- A key that is there keeps its place, and a new one comes last. -/
theorem keys_setKey (key value : Tree) (entries : List (Tree × Tree)) :
    (setKey key value entries).map Prod.fst =
      if hasKey key entries then entries.map Prod.fst else entries.map Prod.fst ++ [key] := by
  induction entries with
  | nil => rfl
  | cons head rest ih =>
      obtain ⟨k, old⟩ := head
      unfold hasKey at ih ⊢
      rw [setKey, List.any_cons]
      cases same key k with
      | true => simp
      | false =>
          simp only [Bool.false_eq_true, if_false, List.map_cons, ih, Bool.false_or]
          split <;> simp

theorem mem_setKey {key value : Tree} {entries : List (Tree × Tree)} {entry : Tree × Tree}
    (h : entry ∈ setKey key value entries) : entry.2 = value ∨ entry ∈ entries := by
  induction entries with
  | nil => exact .inl (congrArg Prod.snd (List.mem_singleton.1 h))
  | cons head rest ih =>
      obtain ⟨k, old⟩ := head
      rw [setKey] at h
      split at h
      · rcases List.mem_cons.1 h with rfl | h
        · exact .inl rfl
        · exact .inr (List.mem_cons_of_mem _ h)
      · rcases List.mem_cons.1 h with rfl | h
        · exact .inr List.mem_cons_self
        · exact (ih h).imp_right (List.mem_cons_of_mem _)

/-- In terms of the keys alone: no key of a mapping is equal to an earlier one. -/
theorem wellFormed_map_iff {entries : List (Tree × Tree)} :
    WellFormed (.map entries) ↔
      (∀ key ∈ entries.map Prod.fst, key.WellFormed) ∧
        (∀ entry ∈ entries, entry.2.WellFormed) ∧
        (entries.map Prod.fst).Pairwise fun a b => same b a = false := by
  constructor
  · intro h
    cases h with
    | map keys_wf values_wf distinct =>
        exact ⟨List.forall_mem_map.2 keys_wf, values_wf, List.pairwise_map.2 distinct⟩
  · rintro ⟨keys_wf, values_wf, distinct⟩
    exact .map (List.forall_mem_map.1 keys_wf) values_wf (List.pairwise_map.1 distinct)

theorem WellFormed.setKey {entries : List (Tree × Tree)} {key value : Tree}
    (h : WellFormed (.map entries)) (wf : key.WellFormed) (wf_value : value.WellFormed) :
    WellFormed (.map (setKey key value entries)) := by
  obtain ⟨keys_wf, values_wf, distinct⟩ := wellFormed_map_iff.1 h
  have hvalues : ∀ entry ∈ Tree.setKey key value entries, entry.2.WellFormed := by
    intro entry hmem
    rcases mem_setKey hmem with hvalue | hold
    · exact hvalue ▸ wf_value
    · exact values_wf entry hold
  apply wellFormed_map_iff.2
  rw [keys_setKey]
  cases hnew : hasKey key entries with
  | true => exact ⟨keys_wf, hvalues, distinct⟩
  | false =>
      refine ⟨?_, hvalues, ?_⟩
      · intro other hmem
        rcases List.mem_append.1 hmem with hmem | hmem
        · exact keys_wf other hmem
        · exact List.mem_singleton.1 hmem ▸ wf
      · refine List.pairwise_append.2 ⟨distinct, List.pairwise_singleton _ _, ?_⟩
        intro other hother last hlast
        obtain ⟨entry, hentry, rfl⟩ := List.mem_map.1 hother
        rw [List.mem_singleton.1 hlast]
        simpa using List.any_eq_false.1 hnew entry hentry

end Tree

namespace Configuration

open DataCatalog.Tree

/-! ## One layer over another -/

/-- A key has the value of the layer, or else the value that it had. -/
theorem get?_mergeLayer {key : Tree} (wf : key.WellFormed) {layer : List (Tree × Tree)}
    (wf_layer : WellFormed (.map layer)) (merged : List (Tree × Tree)) :
    get? key (mergeLayer merged layer) = (get? key layer).or (get? key merged) := by
  induction layer generalizing merged with
  | nil => rfl
  | cons head rest ih =>
      obtain ⟨k, value⟩ := head
      obtain ⟨keys_wf, values_wf, distinct⟩ := wellFormed_map_iff.1 wf_layer
      obtain ⟨hk, hrest⟩ := List.forall_mem_cons.1 keys_wf
      obtain ⟨hhead, htail⟩ := List.pairwise_cons.1 distinct
      have wf_rest : WellFormed (.map rest) :=
        wellFormed_map_iff.2 ⟨hrest, (List.forall_mem_cons.1 values_wf).2, htail⟩
      show get? key (mergeLayer (setKey k value merged) rest) = _
      rw [ih wf_rest, get?_setKey hk wf, get?]
      cases hsame : same key k with
      | false => rfl
      | true =>
          -- the keys of a layer are distinct, so that what follows has no equal one
          have hnone : get? key rest = none := by
            rw [← Option.not_isSome_iff_eq_none, get?_congr wf hsame, isSome_get?]
            intro hfound
            obtain ⟨entry, hentry, heq⟩ := List.any_eq_true.1 hfound
            have hback := hhead entry.1 (List.mem_map_of_mem hentry)
            exact Bool.noConfusion ((same_symm k hk heq).symm.trans hback)
          rw [hnone]
          rfl

/-- The keys of a layer come after those that are there, each once. -/
theorem keys_mergeLayer (merged layer : List (Tree × Tree)) :
    (mergeLayer merged layer).map Prod.fst =
      List.eraseDupsBy.loop same (layer.map Prod.fst) (merged.map Prod.fst).reverse := by
  induction layer generalizing merged with
  | nil => exact (List.reverse_reverse _).symm
  | cons head rest ih =>
      obtain ⟨k, value⟩ := head
      show (mergeLayer (setKey k value merged) rest).map Prod.fst = _
      rw [ih, keys_setKey, List.map_cons, List.eraseDupsBy.loop, List.any_reverse, List.any_map]
      unfold hasKey
      cases hfound : merged.any fun entry => same k entry.1 with
      | true => simp [Function.comp_def, hfound]
      | false => simp [Function.comp_def, hfound]

theorem wellFormed_mergeLayer {merged layer : List (Tree × Tree)}
    (wf : WellFormed (.map merged)) (wf_layer : WellFormed (.map layer)) :
    WellFormed (.map (mergeLayer merged layer)) := by
  have keys_wf (entry : Tree × Tree) (hmem : entry ∈ layer) : entry.1.WellFormed :=
    wf_layer.of_part (.key hmem)
  have values_wf (entry : Tree × Tree) (hmem : entry ∈ layer) : entry.2.WellFormed :=
    wf_layer.of_part (.value hmem)
  clear wf_layer
  induction layer generalizing merged with
  | nil => exact wf
  | cons head rest ih =>
      have hset : WellFormed (.map (setKey head.1 head.2 merged)) :=
        wf.setKey (keys_wf head List.mem_cons_self) (values_wf head List.mem_cons_self)
      apply ih hset
      · intro entry hmem
        exact keys_wf entry (List.mem_cons_of_mem _ hmem)
      · intro entry hmem
        exact values_wf entry (List.mem_cons_of_mem _ hmem)

/-! ## All layers -/

/-- The parameters of layers, merged one after the other. -/
def overlay (layers : List (List (Tree × Tree))) : List (Tree × Tree) :=
  layers.foldl mergeLayer []

theorem overlay_concat (layers : List (List (Tree × Tree))) (layer : List (Tree × Tree)) :
    overlay (layers ++ [layer]) = mergeLayer (overlay layers) layer := by
  unfold overlay
  rw [List.foldl_append]
  rfl

/-- Merging layers one by one is merging all their entries. -/
theorem overlay_eq_mergeLayer (layers : List (List (Tree × Tree))) :
    overlay layers = mergeLayer [] layers.flatten := by
  induction layers using List.reverseRecOn with
  | nil => rfl
  | append_singleton layers layer ih =>
      rw [overlay_concat, ih, List.flatten_append, mergeLayer_append, List.flatten_singleton]

/-- What the last of some layers that has a key has under it. -/
def lastValue? (key : Tree) (layers : List (List (Tree × Tree))) : Option Tree :=
  layers.reverse.findSome? (get? key)

theorem lastValue?_append (key : Tree) (first second : List (List (Tree × Tree))) :
    lastValue? key (first ++ second) = (lastValue? key second).or (lastValue? key first) := by
  unfold lastValue?
  rw [List.reverse_append, List.findSome?_append]

/-- What comes of merging layers: each key occurs once, the keys stand in the order in which they
first occur in the layers, and each has the value of the last layer that has it. -/
structure Merges (layers : List (List (Tree × Tree))) (merged : List (Tree × Tree)) : Prop where
  once : merged.Pairwise fun a b => same a.1 b.1 = false
  order : merged.map Prod.fst = (layers.flatten.map Prod.fst).eraseDupsBy same
  last : ∀ key, key.WellFormed → get? key merged = lastValue? key layers

section WellFormedLayers

variable {layers : List (List (Tree × Tree))} (wf : ∀ layer ∈ layers, WellFormed (.map layer))

include wf

theorem wellFormed_overlay : WellFormed (.map (overlay layers)) := by
  induction layers using List.reverseRecOn with
  | nil => exact .empty
  | append_singleton layers layer ih =>
      obtain ⟨hlayers, hlayer⟩ := List.forall_mem_append.1 wf
      rw [overlay_concat]
      exact wellFormed_mergeLayer (ih hlayers) (hlayer layer List.mem_cons_self)

theorem get?_overlay {key : Tree} (wf_key : key.WellFormed) :
    get? key (overlay layers) = lastValue? key layers := by
  induction layers using List.reverseRecOn with
  | nil => rfl
  | append_singleton layers layer ih =>
      obtain ⟨hlayers, hlayer⟩ := List.forall_mem_append.1 wf
      rw [overlay_concat, get?_mergeLayer wf_key (hlayer layer List.mem_cons_self), ih hlayers,
        lastValue?_append]
      simp [lastValue?]

theorem merges_overlay : Merges layers (overlay layers) := by
  refine ⟨?_, ?_, fun key wf_key => get?_overlay wf wf_key⟩
  · obtain ⟨keys_wf, -, distinct⟩ := wellFormed_map_iff.1 (wellFormed_overlay wf)
    -- a key is not equal to an earlier one, nor then an earlier one to it
    apply List.Pairwise.imp_of_mem _ (List.pairwise_map.1 distinct)
    intro a b ha _ hne
    cases hsame : same a.1 b.1 with
    | false => rfl
    | true =>
        have hback := same_symm a.1 (keys_wf a.1 (List.mem_map_of_mem ha)) hsame
        exact hback.symm.trans hne
  · rw [overlay_eq_mergeLayer, keys_mergeLayer]
    rfl

end WellFormedLayers

end Configuration

end DataCatalog
