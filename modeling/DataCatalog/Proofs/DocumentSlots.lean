import DataCatalog.Proofs.DocumentPosition
import DataCatalog.Proofs.Relocation
import Mathlib.Data.List.Duplicate

/-!
# What the parser takes the parts of a document for

What is asked of a part of a document depends on what the parser takes it for.  A `Slot` says this,
and `Slot.descend` follows a position down a document and keeps track of it: a recipe has its
callable and its arguments under their keys, a list of validations has recipes for elements,
everything else is values.  `Slot.Breaks` has one constructor for each rule of the parser, and
`Slot.Locates` says of an error that its position leads to a part that breaks its rule.
-/

set_option autoImplicit false

namespace DataCatalog

/-- What a part of a document is taken for. -/
inductive Slot where
  | value
  | recipe
  | dataset
  | callable
  | arguments
  | validations
  deriving DecidableEq, Repr

namespace Slot

/-- The keys that have a meaning in a recipe. -/
def keys : Slot → List String
  | .dataset => [Recipe.callableKey, Recipe.argsKey, Recipe.validationsKey]
  | _ => [Recipe.callableKey, Recipe.argsKey]

/-- The entries of a mapping.  The arguments of a recipe must be a mapping as they stand, everything
else is looked at under its tags. -/
def entries? : Slot → Tree → Option (List (Tree × Tree))
  | .value, t => t.mapping?
  | .recipe, t => t.mapping?
  | .dataset, t => t.mapping?
  | .arguments, .map entries => some entries
  | _, _ => none

/-- Whether the mapping with these entries is taken for a recipe. -/
def isRecipe : Slot → List (Tree × Tree) → Bool
  | .value, entries => Tree.hasKey (.string Recipe.callableKey) entries
  | .recipe, _ => true
  | .dataset, _ => true
  | _, _ => false

/-- What stands under a key of a recipe. -/
def ofKey (slot : Slot) (name : String) : Option Slot :=
  if name = Recipe.callableKey then some .callable
  else if name = Recipe.argsKey then some .arguments
  else if slot = .dataset ∧ name = Recipe.validationsKey then some .validations
  else none

/-- What the part one step down is taken for. -/
def below (slot : Slot) (t : Tree) : Step → Option Slot
  | .key name =>
      match slot.entries? t with
      | some entries => if slot.isRecipe entries then slot.ofKey name else some .value
      | none => none
  | .index _ =>
      match slot, t with
      | .value, _ => some .value
      | .validations, .seq _ => some .recipe
      | _, _ => none

/-- The part that a position leads to, and what it is taken for. -/
def descend (slot : Slot) (t : Tree) : Position → Option (Slot × Tree)
  | [] => some (slot, t)
  | step :: rest =>
      match slot.below t step, t.child? step with
      | some part, some u => part.descend u rest
      | _, _ => none

/-- A part of a document breaks a rule of the parser. -/
inductive Breaks : Slot → Tree → Malformation → Prop where
  | integerRange {t : Tree} {i : Int} (shape : t.untagged = .int i)
      (range : i < Int64.minValue.toInt ∨ Int64.maxValue.toInt < i) :
      Breaks .value t (.integerRange i)
  | keyNotScalar {slot : Slot} {t : Tree} {entries : List (Tree × Tree)}
      (shape : slot.entries? t = some entries) (key : ∃ entry ∈ entries, ¬entry.1.IsScalar) :
      Breaks slot t .keyNotScalar
  | duplicateKey {slot : Slot} {t : Tree} {entries : List (Tree × Tree)} {key : String}
      (shape : slot.entries? t = some entries)
      (twice : List.Duplicate (some key) (entries.map fun entry => entry.1.keyText?)) :
      Breaks slot t (.duplicateKey key)
  | callableNotText {t : Tree} (blank : ∀ s, t = .string s → Text.isAllBlank s = true) :
      Breaks .callable t .callableNotText
  | callableMissing {slot : Slot} {t : Tree} {entries : List (Tree × Tree)}
      (shape : slot.entries? t = some entries) (recipe : slot.isRecipe entries = true)
      (missing : ∀ v, (.string Recipe.callableKey, v) ∉ entries) :
      Breaks slot t .callableMissing
  | unknownKeys {slot : Slot} {t : Tree} {entries : List (Tree × Tree)} {s : String}
      {names : List String} (shape : slot.entries? t = some entries)
      (recipe : slot.isRecipe entries = true)
      (name : (.string Recipe.callableKey, .string s) ∈ entries)
      (each : ∀ k, k ∈ names ↔ k ∉ slot.keys ∧ ∃ entry ∈ entries, entry.1.keyText? = some k)
      (ordered : names.Pairwise (· < ·)) (unknown : names ≠ []) :
      Breaks slot t (.unknownKeys (Text.trim s) names)
  | argsNotMapping {t : Tree} (given : t ≠ .null) (other : ∀ entries, t ≠ .map entries) :
      Breaks .arguments t .argsNotMapping
  | validationsNotList {t : Tree} (given : t ≠ .null) (other : ∀ items, t ≠ .seq items) :
      Breaks .validations t .validationsNotList
  | recipeNotMapping {t : Tree} (other : t.mapping? = none) : Breaks .recipe t .recipeNotMapping
  | datasetNotMapping {t : Tree} (other : t.mapping? = none) :
      Breaks .dataset t .datasetNotMapping

/-- An error leads to a part of the document that breaks the rule. -/
def Locates (slot : Slot) (t : Tree) (e : Malformed) : Prop :=
  ∃ part u, slot.descend t e.position = some (part, u) ∧ part.Breaks u e.rule

/-! ## Positions in a document -/

theorem descend_cons {slot part : Slot} {t u : Tree} {step : Step}
    (hbelow : slot.below t step = some part) (hchild : t.child? step = some u) (rest : Position) :
    slot.descend t (step :: rest) = part.descend u rest := by
  rw [descend, hbelow, hchild]

/-- What a position leads to is what stands there in the document. -/
theorem follow_of_descend {slot part : Slot} {t u : Tree} {q : Position}
    (h : slot.descend t q = some (part, u)) : t.follow q = some u := by
  induction q generalizing slot t with
  | nil =>
      cases h
      rfl
  | cons step rest ih =>
      rw [descend] at h
      split at h
      · rename_i next v _ hchild
        rw [Tree.follow_cons hchild]
        exact ih h
      · cases h

theorem Locates.here {slot : Slot} {t : Tree} {rule : Malformation} (h : slot.Breaks t rule) :
    slot.Locates t ⟨Position.root, rule⟩ :=
  ⟨slot, t, rfl, h⟩

theorem Locates.step {slot part : Slot} {t u : Tree} {step : Step} {e : Malformed}
    (h : part.Locates u e) (hbelow : slot.below t step = some part)
    (hchild : t.child? step = some u) : slot.Locates t (e.under [step]) := by
  obtain ⟨own, v, hdescend, hbreaks⟩ := h
  exact ⟨own, v, (descend_cons hbelow hchild e.position).trans hdescend, hbreaks⟩

/-- An error in a part of a document is one in the document, one step further down. -/
theorem Locates.of_part {α : Type} {x y : Except Malformed α} {slot part : Slot} {t u : Tree}
    {step : Step} {e : Malformed} (h : x = .error e)
    (hrelocate : x = y.mapError (.under [step]))
    (hpart : ∀ inner, y = .error inner → part.Locates u inner)
    (hbelow : slot.below t step = some part) (hchild : t.child? step = some u) :
    slot.Locates t e := by
  rw [hrelocate] at h
  obtain ⟨inner, hinner, rfl⟩ := mapError_eq_error_iff.1 h
  exact (hpart inner hinner).step hbelow hchild

theorem Breaks.tagged {tag : String} {t : Tree} {rule : Malformation}
    (h : Slot.value.Breaks t rule) : Slot.value.Breaks (.tagged tag t) rule := by
  cases h with
  | integerRange shape range => exact .integerRange shape range
  | keyNotScalar shape key => exact .keyNotScalar shape key
  | duplicateKey shape twice => exact .duplicateKey shape twice
  | callableMissing shape recipe missing => exact .callableMissing shape recipe missing
  | unknownKeys shape recipe name each ordered unknown =>
      exact .unknownKeys shape recipe name each ordered unknown

/-- Tags on a value are passed over. -/
theorem Locates.tagged {tag : String} {t : Tree} {e : Malformed} (h : Slot.value.Locates t e) :
    Slot.value.Locates (.tagged tag t) e := by
  obtain ⟨position, rule⟩ := e
  obtain ⟨part, u, hdescend, hbreaks⟩ := h
  cases position with
  | nil =>
      cases hdescend
      exact .here hbreaks.tagged
  | cons step rest => exact ⟨part, u, hdescend, hbreaks⟩

section Entries

variable {slot : Slot} {t : Tree} {entries : List (Tree × Tree)}
  (shape : slot.entries? t = some entries)

include shape

theorem untagged_of_entries? : t.untagged = .map entries := by
  cases slot with
  | value => exact Tree.untagged_of_mapping? shape
  | recipe => exact Tree.untagged_of_mapping? shape
  | dataset => exact Tree.untagged_of_mapping? shape
  | callable => cases shape
  | validations => cases shape
  | arguments =>
      cases t with
      | map found =>
          cases shape
          rfl
      | _ => cases shape

theorem child?_of_entries? (distinct : Tree.DistinctKeys entries) {k u : Tree} {name : String}
    (hmem : (k, u) ∈ entries) (hk : k.keyText? = some name) : t.child? (.key name) = some u := by
  rw [← Tree.child?_untagged, untagged_of_entries? shape]
  exact distinct.valueNamed? hmem hk

theorem below_of_data (data : slot.isRecipe entries = false) (name : String) :
    slot.below t (.key name) = some .value := by
  simp [below, shape, data]

theorem below_of_recipe (recipe : slot.isRecipe entries = true) (name : String) :
    slot.below t (.key name) = slot.ofKey name := by
  simp [below, shape, recipe]

end Entries

end Slot

end DataCatalog
