import DataCatalog.Proofs.AskedArguments
import DataCatalog.Proofs.Decoding
import DataCatalog.Proofs.Runs

/-!
# Values up to the identity of their sources

Two values match if they are the same but for the identities of the sources in them, at every depth;
`R` says which identities may stand for each other.  What can be said of a value without looking
into its sources is the same for values that match, and so is what a callable makes of arguments
that match, apart from the values that it hands on.

Main statements: `Value.Matches.encode_eq` says that matching values have the same text in a file,
`FileFormat.sources_of_decode` that what is read from a file has no sources, and
`Arguments.Match.read_payload_match`, `read_file_eq` and `read_bound_eq` what the built-in callables
make of matching arguments.
-/

set_option autoImplicit false

namespace DataCatalog

namespace Value

mutual

/-- The sources in a value, at every depth. -/
def sources : Value → List Source
  | .list items => itemSources items
  | .map entries => entrySources entries
  | .source s => [s]
  | _ => []

def itemSources : List Value → List Source
  | [] => []
  | v :: rest => sources v ++ itemSources rest

def entrySources : List (String × Value) → List Source
  | [] => []
  | (_, v) :: rest => sources v ++ entrySources rest

end

mutual

/-- Values that are the same but for the identities of sources, which are related. -/
def Matches (R : Nat → Nat → Prop) : Value → Value → Prop
  | .list items, other => ∃ others, other = .list others ∧ ItemsMatch R items others
  | .map entries, other => ∃ others, other = .map others ∧ EntriesMatch R entries others
  | .source s, other => ∃ identity, other = .source ⟨identity, s.kind⟩ ∧ R s.identity identity
  | v, other => other = v

def ItemsMatch (R : Nat → Nat → Prop) : List Value → List Value → Prop
  | [], others => others = []
  | v :: rest, others => ∃ w later, others = w :: later ∧ Matches R v w ∧ ItemsMatch R rest later

def EntriesMatch (R : Nat → Nat → Prop) : List (String × Value) → List (String × Value) → Prop
  | [], others => others = []
  | (k, v) :: rest, others =>
      ∃ w later, others = (k, w) :: later ∧ Matches R v w ∧ EntriesMatch R rest later

end

variable {R : Nat → Nat → Prop}

mutual

/-- A value whose sources stand for themselves matches itself. -/
theorem matches_self : (v : Value) → (∀ s ∈ v.sources, R s.identity s.identity) → v.Matches R v
  | .null, _ => rfl
  | .bool _, _ => rfl
  | .int _, _ => rfl
  | .float _, _ => rfl
  | .string _, _ => rfl
  | .object _, _ => rfl
  | .list items, h => ⟨items, rfl, itemsMatch_self items h⟩
  | .map entries, h => ⟨entries, rfl, entriesMatch_self entries h⟩
  | .source s, h => ⟨s.identity, rfl, h s List.mem_cons_self⟩

theorem itemsMatch_self : (items : List Value) →
    (∀ s ∈ itemSources items, R s.identity s.identity) → ItemsMatch R items items
  | [], _ => rfl
  | v :: rest, h =>
      ⟨v, rest, rfl, matches_self v fun s hmem => h s (List.mem_append_left _ hmem),
        itemsMatch_self rest fun s hmem => h s (List.mem_append_right _ hmem)⟩

theorem entriesMatch_self : (entries : List (String × Value)) →
    (∀ s ∈ entrySources entries, R s.identity s.identity) → EntriesMatch R entries entries
  | [], _ => rfl
  | (_, v) :: rest, h =>
      ⟨v, rest, rfl, matches_self v fun s hmem => h s (List.mem_append_left _ hmem),
        entriesMatch_self rest fun s hmem => h s (List.mem_append_right _ hmem)⟩

end

mutual

/-- Only the value itself matches a value under identities that stand for themselves alone. -/
theorem eq_of_matches_eq : (v : Value) → {w : Value} → v.Matches Eq w → w = v
  | .null, _, h => h
  | .bool _, _, h => h
  | .int _, _, h => h
  | .float _, _, h => h
  | .string _, _, h => h
  | .object _, _, h => h
  | .list items, _, ⟨_, hw, hitems⟩ => by rw [hw, eq_of_itemsMatch_eq items hitems]
  | .map entries, _, ⟨_, hw, hentries⟩ => by rw [hw, eq_of_entriesMatch_eq entries hentries]
  | .source _, _, ⟨_, hw, hidentity⟩ => by rw [hw, ← hidentity]

theorem eq_of_itemsMatch_eq : (items : List Value) → {others : List Value} →
    ItemsMatch Eq items others → others = items
  | [], _, h => h
  | v :: rest, _, ⟨_, _, hothers, hv, hrest⟩ => by
      rw [hothers, eq_of_matches_eq v hv, eq_of_itemsMatch_eq rest hrest]

theorem eq_of_entriesMatch_eq : (entries : List (String × Value)) →
    {others : List (String × Value)} → EntriesMatch Eq entries others → others = entries
  | [], _, h => h
  | (_, v) :: rest, _, ⟨_, _, hothers, hv, hrest⟩ => by
      rw [hothers, eq_of_matches_eq v hv, eq_of_entriesMatch_eq rest hrest]

end

theorem ItemsMatch.length_eq {items others : List Value} (h : ItemsMatch R items others) :
    others.length = items.length := by
  induction items generalizing others with
  | nil =>
      obtain rfl := h
      rfl
  | cons v rest ih =>
      obtain ⟨w, later, rfl, -, hrest⟩ := h
      rw [List.length_cons, List.length_cons, ih hrest]

theorem EntriesMatch.keys_eq {entries others : Entries Value} (h : EntriesMatch R entries others) :
    Entries.keys others = Entries.keys entries := by
  induction entries generalizing others with
  | nil =>
      obtain rfl := h
      rfl
  | cons head rest ih =>
      obtain ⟨k, v⟩ := head
      obtain ⟨w, later, rfl, -, hrest⟩ := h
      exact congrArg (k :: ·) (ih hrest)

theorem EntriesMatch.length_eq {entries others : Entries Value}
    (h : EntriesMatch R entries others) : others.length = entries.length := by
  have hkeys := congrArg List.length h.keys_eq
  rwa [Entries.keys, Entries.keys, List.length_map, List.length_map] at hkeys

namespace Matches

variable {v w : Value}

/-- Matching values are the same, or both lists, maps or sources. -/
theorem shapes (h : v.Matches R w) :
    w = v ∨
      (∃ items others, v = .list items ∧ w = .list others ∧ ItemsMatch R items others) ∨
      (∃ entries others, v = .map entries ∧ w = .map others ∧ EntriesMatch R entries others) ∨
      ∃ s identity, v = .source s ∧ w = .source ⟨identity, s.kind⟩ ∧ R s.identity identity := by
  cases v with
  | list items =>
      obtain ⟨others, rfl, hitems⟩ := h
      exact .inr (.inl ⟨items, others, rfl, rfl, hitems⟩)
  | map entries =>
      obtain ⟨others, rfl, hentries⟩ := h
      exact .inr (.inr (.inl ⟨entries, others, rfl, rfl, hentries⟩))
  | source s =>
      obtain ⟨identity, rfl, hR⟩ := h
      exact .inr (.inr (.inr ⟨s, identity, rfl, rfl, hR⟩))
  | _ => exact .inl h

theorem kind_eq (h : v.Matches R w) : w.kind = v.kind := by
  rcases h.shapes with rfl | ⟨_, _, rfl, rfl, -⟩ | ⟨_, _, rfl, rfl, -⟩ | ⟨_, _, rfl, rfl, -⟩ <;> rfl

theorem isNull_eq (h : v.Matches R w) : w.isNull = v.isNull := by
  rcases h.shapes with rfl | ⟨_, _, rfl, rfl, -⟩ | ⟨_, _, rfl, rfl, -⟩ | ⟨_, _, rfl, rfl, -⟩ <;> rfl

theorem size?_eq (h : v.Matches R w) : w.size? = v.size? := by
  rcases h.shapes with rfl | ⟨items, others, rfl, rfl, hitems⟩ |
    ⟨entries, others, rfl, rfl, hentries⟩ | ⟨s, identity, rfl, rfl, -⟩
  · rfl
  · exact congrArg some hitems.length_eq
  · exact congrArg some hentries.length_eq
  · rfl

theorem isEmpty_eq (h : v.Matches R w) : w.isEmpty = v.isEmpty := by
  unfold isEmpty
  rw [h.isNull_eq, h.size?_eq]

end Matches

/-! ## Matching values as documents -/

/-- Descriptions that do not tell related sources apart. -/
def DescribesAlike (R : Nat → Nat → Prop) (describe describe' : Source → String) : Prop :=
  ∀ s identity, R s.identity identity → describe' ⟨identity, s.kind⟩ = describe s

section Documents

variable {describe describe' : Source → String}

mutual

theorem Matches.toTree_eq (alike : DescribesAlike R describe describe') :
    (v : Value) → {w : Value} → v.Matches R w → w.toTree describe' = v.toTree describe
  | .null, _, h => by
      obtain rfl := h
      rfl
  | .bool _, _, h => by
      obtain rfl := h
      rfl
  | .int _, _, h => by
      obtain rfl := h
      rfl
  | .float _, _, h => by
      obtain rfl := h
      rfl
  | .string _, _, h => by
      obtain rfl := h
      rfl
  | .object _, _, h => by
      obtain rfl := h
      rfl
  | .list items, _, h => by
      obtain ⟨others, rfl, hitems⟩ := h
      rw [toTree, toTree, ItemsMatch.toTrees_eq alike items hitems]
  | .map entries, _, h => by
      obtain ⟨others, rfl, hentries⟩ := h
      rw [toTree, toTree, EntriesMatch.toTreeEntries_eq alike entries hentries]
  | .source s, _, h => by
      obtain ⟨identity, rfl, hR⟩ := h
      rw [toTree, toTree, alike s identity hR]

theorem ItemsMatch.toTrees_eq (alike : DescribesAlike R describe describe') :
    (items : List Value) → {others : List Value} → ItemsMatch R items others →
    toTrees describe' others = toTrees describe items
  | [], _, h => by
      obtain rfl := h
      rfl
  | v :: rest, _, h => by
      obtain ⟨w, later, rfl, hv, hrest⟩ := h
      rw [toTrees, toTrees, Matches.toTree_eq alike v hv, ItemsMatch.toTrees_eq alike rest hrest]

theorem EntriesMatch.toTreeEntries_eq (alike : DescribesAlike R describe describe') :
    (entries : List (String × Value)) → {others : Entries Value} →
    EntriesMatch R entries others →
    toTreeEntries describe' others = toTreeEntries describe entries
  | [], _, h => by
      obtain rfl := h
      rfl
  | (k, v) :: rest, _, h => by
      obtain ⟨w, later, rfl, hv, hrest⟩ := h
      rw [toTreeEntries, toTreeEntries, Matches.toTree_eq alike v hv,
        EntriesMatch.toTreeEntries_eq alike rest hrest]

end

mutual

theorem Matches.toJson_eq (alike : DescribesAlike R describe describe') :
    (v : Value) → {w : Value} → v.Matches R w → w.toJson describe' = v.toJson describe
  | .null, _, h => by
      obtain rfl := h
      rfl
  | .bool _, _, h => by
      obtain rfl := h
      rfl
  | .int _, _, h => by
      obtain rfl := h
      rfl
  | .float _, _, h => by
      obtain rfl := h
      rfl
  | .string _, _, h => by
      obtain rfl := h
      rfl
  | .object _, _, h => by
      obtain rfl := h
      rfl
  | .list items, _, h => by
      obtain ⟨others, rfl, hitems⟩ := h
      rw [toJson, toJson, ItemsMatch.toJsons_eq alike items hitems]
  | .map entries, _, h => by
      obtain ⟨others, rfl, hentries⟩ := h
      rw [toJson, toJson, EntriesMatch.toJsonEntries_eq alike entries hentries]
  | .source s, _, h => by
      obtain ⟨identity, rfl, hR⟩ := h
      rw [toJson, toJson, alike s identity hR]

theorem ItemsMatch.toJsons_eq (alike : DescribesAlike R describe describe') :
    (items : List Value) → {others : List Value} → ItemsMatch R items others →
    toJsons describe' others = toJsons describe items
  | [], _, h => by
      obtain rfl := h
      rfl
  | v :: rest, _, h => by
      obtain ⟨w, later, rfl, hv, hrest⟩ := h
      rw [toJsons, toJsons, Matches.toJson_eq alike v hv, ItemsMatch.toJsons_eq alike rest hrest]

theorem EntriesMatch.toJsonEntries_eq (alike : DescribesAlike R describe describe') :
    (entries : List (String × Value)) → {others : Entries Value} →
    EntriesMatch R entries others →
    toJsonEntries describe' others = toJsonEntries describe entries
  | [], _, h => by
      obtain rfl := h
      rfl
  | (k, v) :: rest, _, h => by
      obtain ⟨w, later, rfl, hv, hrest⟩ := h
      rw [toJsonEntries, toJsonEntries, Matches.toJson_eq alike v hv,
        EntriesMatch.toJsonEntries_eq alike rest hrest]

end

theorem ItemsMatch.encodeLines_eq {items others : List Value} (h : ItemsMatch R items others) :
    FileFormat.encodeLines others = FileFormat.encodeLines items := by
  induction items generalizing others with
  | nil =>
      obtain rfl := h
      rfl
  | cons v rest ih =>
      obtain ⟨w, later, rfl, hv, hrest⟩ := h
      have hlater := ih hrest
      rcases hv.shapes with rfl | ⟨_, _, rfl, rfl, -⟩ | ⟨_, _, rfl, rfl, -⟩ | ⟨_, _, rfl, rfl, -⟩
      · cases w with
        | string line => rw [FileFormat.encodeLines, FileFormat.encodeLines, hlater]
        | _ => rfl
      · rfl
      · rfl
      · rfl

/-- Matching values have the same text in a file. -/
theorem Matches.encode_eq (alike : DescribesAlike R describe describe') {v w : Value}
    (h : v.Matches R w) (format : FileFormat) :
    format.encode describe' w = format.encode describe v := by
  cases format with
  | yaml =>
      show Except.ok (Yaml.write (w.toTree describe')) = Except.ok (Yaml.write (v.toTree describe))
      rw [Matches.toTree_eq alike v h]
  | json =>
      show Except.ok ((w.toJson describe').pretty ++ "\n") =
        Except.ok ((v.toJson describe).pretty ++ "\n")
      rw [Matches.toJson_eq alike v h]
  | text =>
      rcases h.shapes with rfl | ⟨_, _, rfl, rfl, -⟩ | ⟨_, _, rfl, rfl, -⟩ | ⟨_, _, rfl, rfl, -⟩
      · cases w <;> rfl
      · rfl
      · rfl
      · rfl
  | lines =>
      rcases h.shapes with rfl | ⟨items, others, rfl, rfl, hitems⟩ | ⟨_, _, rfl, rfl, -⟩ |
        ⟨_, _, rfl, rfl, -⟩
      · cases w <;> rfl
      · exact hitems.encodeLines_eq
      · rfl
      · rfl

end Documents

end Value

/-! ## Decoded data -/

namespace Value

theorem entrySources_put {key : String} {v : Value} (hv : v.sources = []) {entries : Entries Value}
    (h : entrySources entries = []) : entrySources (Entries.put key v entries) = [] := by
  induction entries with
  | nil =>
      show v.sources ++ [] = []
      rw [hv, List.append_nil]
  | cons head rest ih =>
      obtain ⟨k, old⟩ := head
      have hparts : old.sources ++ entrySources rest = [] := h
      obtain ⟨hold, hrest⟩ := List.append_eq_nil_iff.1 hparts
      unfold Entries.put
      split
      · show v.sources ++ (old.sources ++ entrySources rest) = []
        rw [hv, hold, hrest]
        rfl
      · split
        · show v.sources ++ entrySources rest = []
          rw [hv, hrest]
          rfl
        · show old.sources ++ entrySources (Entries.put key v rest) = []
          rw [hold, ih hrest]
          rfl

mutual

/-- There are no sources in decoded data. -/
theorem sources_of_ofReading : (r : Reading) → {v : Value} → ofReading r = .ok v → v.sources = []
  | .null, _, h => by
      cases h
      rfl
  | .bool _, _, h => by
      cases h
      rfl
  | .int i, _, h => by
      rw [ofReading] at h
      split at h
      · cases h
        rfl
      · cases h
  | .float _, _, h => by
      cases h
      rfl
  | .string _, _, h => by
      cases h
      rfl
  | .seq items, _, h => by
      rw [ofReading] at h
      split at h
      · rename_i values hvalues
        cases h
        exact itemSources_of_ofReadings items hvalues
      · cases h
  | .map entries, _, h => by
      rw [ofReading] at h
      split at h
      · rename_i added hadded
        cases h
        exact entrySources_of_ofReadingEntries entries rfl hadded
      · cases h
  | .tagged _ _, _, h => by cases h
  | .fault, _, h => by cases h

theorem itemSources_of_ofReadings : (items : List Reading) → {values : List Value} →
    ofReadings items = .ok values → itemSources values = []
  | [], _, h => by
      cases h
      rfl
  | r :: rest, _, h => by
      rw [ofReadings] at h
      split at h
      · cases h
      · rename_i v hv
        split at h
        · cases h
        · rename_i vs hvs
          cases h
          rw [itemSources, sources_of_ofReading r hv, itemSources_of_ofReadings rest hvs]
          rfl

theorem entrySources_of_ofReadingEntries : (entries : List (Reading × Reading)) →
    {acc added : Entries Value} → entrySources acc = [] →
    ofReadingEntries acc entries = .ok added → entrySources added = []
  | [], _, _, hacc, h => by
      cases h
      exact hacc
  | (k, r) :: rest, _, _, hacc, h => by
      rw [ofReadingEntries] at h
      split at h
      · cases h
      · split at h
        · cases h
        · rename_i v hv
          split at h
          · cases h
          · split at h
            · cases h
            · rename_i found hfound
              obtain ⟨-, rfl⟩ := addEntry_eq_ok_iff.1 hfound
              exact entrySources_of_ofReadingEntries rest
                (entrySources_put (sources_of_ofReading r hv) hacc) h

end

theorem itemSources_strings (lines : List String) : itemSources (lines.map .string) = [] := by
  induction lines with
  | nil => rfl
  | cons line rest ih => exact ih

end Value

theorem TextReading.sources_of_value {r : TextReading} {v : Value} (h : r.value = .ok v) :
    v.sources = [] := by
  unfold value finish at h
  split at h
  · rename_i found hfound
    split at h
    · cases h
      exact Value.sources_of_ofReading _ hfound
    · cases h
  · cases h

/-- What is read from a file holds no sources. -/
theorem FileFormat.sources_of_decode {format : FileFormat} {content : String} {v : Value}
    (h : format.decode content = .ok v) : v.sources = [] := by
  cases format with
  | text =>
      cases h
      rfl
  | lines =>
      cases h
      exact Value.itemSources_strings _
  | yaml => exact TextReading.sources_of_value (mapError_eq_ok_iff.1 h)
  | json => exact TextReading.sources_of_value (mapError_eq_ok_iff.1 h)

/-! ## Matching arguments -/

open Value

variable {R : Nat → Nat → Prop}

theorem Value.EntriesMatch.get?_match {entries others : Entries Value}
    (h : EntriesMatch R entries others) (key : String) :
    Option.Rel (Matches R) (Entries.get? key entries) (Entries.get? key others) := by
  induction entries generalizing others with
  | nil =>
      obtain rfl := h
      exact .none
  | cons head rest ih =>
      obtain ⟨k, v⟩ := head
      obtain ⟨w, later, rfl, hv, hrest⟩ := h
      unfold Entries.get?
      by_cases hk : k = key
      · rw [if_pos hk, if_pos hk]
        exact .some hv
      · rw [if_neg hk, if_neg hk]
        exact ih hrest

theorem Value.EntriesMatch.put {entries others : Entries Value} (h : EntriesMatch R entries others)
    (key : String) {v w : Value} (hv : v.Matches R w) :
    EntriesMatch R (Entries.put key v entries) (Entries.put key w others) := by
  induction entries generalizing others with
  | nil =>
      obtain rfl := h
      exact ⟨w, [], rfl, hv, rfl⟩
  | cons head rest ih =>
      obtain ⟨k, old⟩ := head
      obtain ⟨new, later, rfl, hold, hrest⟩ := h
      unfold Entries.put
      split
      · exact ⟨w, _, rfl, hv, new, later, rfl, hold, hrest⟩
      · split
        · exact ⟨w, later, rfl, hv, hrest⟩
        · exact ⟨new, _, rfl, hold, ih hrest⟩

theorem Value.EntriesMatch.ofList {entries others : Entries Value}
    (h : EntriesMatch R entries others) :
    EntriesMatch R (Entries.ofList entries) (Entries.ofList others) := by
  have hfold (acc acc' : Entries Value) (hacc : EntriesMatch R acc acc') :
      EntriesMatch R (entries.foldl (fun acc entry => Entries.put entry.1 entry.2 acc) acc)
        (others.foldl (fun acc entry => Entries.put entry.1 entry.2 acc) acc') := by
    induction entries generalizing others acc acc' with
    | nil =>
        obtain rfl := h
        exact hacc
    | cons head rest ih =>
        obtain ⟨k, v⟩ := head
        obtain ⟨w, later, rfl, hv, hrest⟩ := h
        exact ih hrest _ _ (hacc.put k hv)
  exact hfold [] [] rfl

/-- A shape whose arguments are texts or numbers, not values. -/
inductive Shape.HoldsNoValue : Shape → Prop where
  | string : HoldsNoValue .string
  | natural : HoldsNoValue .natural

/-- Outcomes that are the same error, or results that are related. -/
inductive ExceptMatch {ε α β : Type} (Q : α → β → Prop) : Except ε α → Except ε β → Prop where
  | error (e : ε) : ExceptMatch Q (.error e) (.error e)
  | ok {a : α} {b : β} (h : Q a b) : ExceptMatch Q (.ok a) (.ok b)

theorem ExceptMatch.mono {ε α β : Type} {Q Q' : α → β → Prop} (hQ : ∀ a b, Q a b → Q' a b)
    {x : Except ε α} {y : Except ε β} (h : ExceptMatch Q x y) : ExceptMatch Q' x y := by
  cases h with
  | error e => exact .error e
  | ok hab => exact .ok (hQ _ _ hab)

namespace Arguments

theorem convert_eq {shape : Shape} (hshape : shape.HoldsNoValue) (name : String) {v w : Value}
    (h : v.Matches R w) : convert shape name w = convert shape name v := by
  rcases h.shapes with rfl | ⟨_, _, rfl, rfl, -⟩ | ⟨_, _, rfl, rfl, -⟩ | ⟨_, _, rfl, rfl, -⟩
  · rfl
  · cases hshape with
    | _ => rfl
  · cases hshape with
    | _ => rfl
  · cases hshape with
    | _ => rfl

/-- Arguments that match: the same names lead to matching values. -/
structure Match (R : Nat → Nat → Prop) (a b : Arguments) : Prop where
  value? : ∀ name, Option.Rel (Matches R) (a.value? name) (b.value? name)
  keys : b.explicit.keys = a.explicit.keys

/-- Matching arguments of a recipe, over the same initialised values. -/
theorem match_of_entries {entries others : Entries Value} {initialised : Dict Value}
    (h : EntriesMatch R entries others)
    (hinitialised : EntriesMatch R initialised.entries initialised.entries) :
    Match R ⟨Dict.ofList entries, initialised⟩ ⟨Dict.ofList others, initialised⟩ where
  value? name := by
    have hexplicit := h.ofList.get?_match name
    show Option.Rel (Matches R)
      ((Entries.get? name (Entries.ofList entries)).or (initialised.get? name))
      ((Entries.get? name (Entries.ofList others)).or (initialised.get? name))
    generalize Entries.get? name (Entries.ofList entries) = found at hexplicit
    generalize Entries.get? name (Entries.ofList others) = found' at hexplicit
    cases hexplicit with
    | some hv => exact .some hv
    | none => exact hinitialised.get?_match name
  keys := h.ofList.keys_eq

namespace Match

variable {a b : Arguments} (h : Match R a b)
include h

theorem finish_eq (asked : List String) : b.finish asked = a.finish asked := by
  unfold finish unexpected
  rw [h.keys]

/-- What must be there and holds no value is the same. -/
theorem required_eq {shape : Shape} (hshape : shape.HoldsNoValue) (name : String) :
    b.required shape name = a.required shape name := by
  have hvalue := h.value? name
  unfold required
  generalize a.value? name = found at hvalue
  generalize b.value? name = found' at hvalue
  cases hvalue with
  | none => rfl
  | some hv => exact convert_eq hshape name hv

/-- What may be missing and holds no value is the same. -/
theorem optional_eq {shape : Shape} (hshape : shape.HoldsNoValue) (name : String) :
    b.optional shape name = a.optional shape name := by
  have hvalue := h.value? name
  unfold optional
  generalize a.value? name = found at hvalue
  generalize b.value? name = found' at hvalue
  cases hvalue with
  | none => rfl
  | @some v w hv =>
      have hconvert := congrArg (Except.map some) (convert_eq hshape name hv)
      rcases hv.shapes with rfl | ⟨_, _, rfl, rfl, -⟩ | ⟨_, _, rfl, rfl, -⟩ | ⟨_, _, rfl, rfl, -⟩
      · rfl
      · exact hconvert
      · exact hconvert
      · exact hconvert

theorem read_nothing_eq : b.read ArgumentReader.finish = a.read ArgumentReader.finish := by
  rw [read_nothing, read_nothing, h.finish_eq]

theorem read_bound_eq (name : String) :
    b.read (Validator.bound name) = a.read (Validator.bound name) := by
  rw [read_bound, read_bound, h.required_eq .natural, h.finish_eq]

theorem read_file_eq : b.read FileSource.described = a.read FileSource.described := by
  rw [read_file, read_file, h.required_eq .string, h.optional_eq .string, h.optional_eq .string,
    h.finish_eq]

/-- The payloads in matching arguments match. -/
theorem read_payload_match :
    ExceptMatch (Matches R) (a.read MemorySource.described) (b.read MemorySource.described) := by
  have hvalue := h.value? "data"
  rw [read_payload, read_payload, h.finish_eq]
  unfold required
  generalize a.value? "data" = found at hvalue
  generalize b.value? "data" = found' at hvalue
  cases hvalue with
  | none => exact .error _
  | some hv =>
      cases a.finish ["data"] with
      | error e => exact .error e
      | ok _ => exact .ok hv

end Match

end Arguments

end DataCatalog
