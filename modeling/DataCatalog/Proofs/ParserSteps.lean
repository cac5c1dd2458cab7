import DataCatalog.Proofs.Runs
import DataCatalog.Recipe.Parser

/-!
# The steps of the parser

Every function of the parser takes its steps one after the other and stops at the first that fails.
The equations here say so once, in terms of `Except.bind` and `Except.map`; whoever wants to know
what an attempt comes to, or where it fails, follows the steps by the laws of these two.
-/

set_option autoImplicit false

namespace DataCatalog

/-! ## Attempts -/

section Attempts

variable {ε ε' α β : Type} (x : Except ε α)

@[simp] theorem mapError_bind (f : ε → ε') (g : α → Except ε β) :
    (x.bind g).mapError f = (x.mapError f).bind fun a => (g a).mapError f := by
  cases x <;> rfl

@[simp] theorem mapError_map (f : ε → ε') (g : α → β) :
    (x.map g).mapError f = (x.mapError f).map g := by
  cases x <;> rfl

@[simp] theorem toOption_bind (g : α → Except ε β) :
    (x.bind g).toOption = x.toOption.bind fun a => (g a).toOption := by
  cases x <;> rfl

@[simp] theorem toOption_map (g : α → β) : (x.map g).toOption = x.toOption.map g := by
  cases x <;> rfl

variable {x}

theorem toOption_eq_some_iff {a : α} : x.toOption = some a ↔ x = .ok a := by
  cases x <;> simp [Except.toOption]

/-- Attempts that come to the same where they come to anything. -/
theorem toOption_eq_iff {y : Except ε' α} :
    x.toOption = y.toOption ↔ ∀ a, x = .ok a ↔ y = .ok a := by
  rw [Option.ext_iff]
  simp only [toOption_eq_some_iff]

theorem map_eq_error_iff {g : α → β} {e : ε} : x.map g = .error e ↔ x = .error e := by
  cases x <;> simp [Except.map]

/-- A walk along a list, which visits each element under its index, fails where a visit does. -/
theorem exists_visit_eq_error {walk : Nat → List α → Except ε (List β)}
    {visit : Nat → α → Except ε β} {i : Nat} {items : List α} {e : ε}
    (h : walk i items = .error e) (nil : ∀ i, walk i [] = .ok [])
    (cons : ∀ i a rest, walk i (a :: rest) =
      (visit i a).bind fun b => (walk (i + 1) rest).map (b :: ·)) :
    ∃ (j : Nat) (a : α), items[j]? = some a ∧ visit (i + j) a = .error e := by
  induction items generalizing i with
  | nil =>
      rw [nil] at h
      cases h
  | cons a rest ih =>
      rw [cons] at h
      rcases bind_eq_error_iff.1 h with hfirst | ⟨b, -, hlater⟩
      · exact ⟨0, a, rfl, hfirst⟩
      · obtain ⟨j, a', hj, hvisit⟩ := ih (map_eq_error_iff.1 hlater)
        have heq : i + 1 + j = i + (j + 1) := by omega
        exact ⟨j + 1, a', hj, heq ▸ hvisit⟩

end Attempts

namespace Outline

/-! ## Equations -/

variable (p : Position)

theorem node_seq (items : List Outline) :
    node p (.seq items) = (itemNodes p 0 items).map .seq := by
  rw [node]
  cases itemNodes p 0 items <;> rfl

theorem itemNodes_cons (i : Nat) (o : Outline) (rest : List Outline) :
    itemNodes p i (o :: rest) =
      (node (p.index i) o).bind fun n => (itemNodes p (i + 1) rest).map (n :: ·) := by
  rw [itemNodes]
  cases node (p.index i) o with
  | error e => rfl
  | ok n => cases itemNodes p (i + 1) rest <;> rfl

theorem entryNodes_cons (k : String) (o : Outline) (rest : Entries Outline) :
    entryNodes p ((k, o) :: rest) =
      (node (p.key k) o).bind fun n => (entryNodes p rest).map ((k, n) :: ·) := by
  rw [entryNodes]
  cases node (p.key k) o with
  | error e => rfl
  | ok n => cases entryNodes p rest <;> rfl

theorem recipe_eq (allowed : List String) (entries : Entries Outline) :
    recipe p allowed entries =
      (recipeHead p allowed entries).bind fun callable =>
        (argsIn p entries).map fun args => ⟨callable, args⟩ := by
  rw [recipe]
  cases recipeHead p allowed entries with
  | error e => rfl
  | ok callable => cases argsIn p entries <;> rfl

/-- A mapping is a recipe when it has the key `callable`, and data else. -/
theorem node_map (entries : Entries Outline) :
    node p (.map entries) =
      if Entries.has Recipe.callableKey entries then (recipe p [] entries).map Recipe.node
      else (entryNodes p entries).map .map := by
  rw [node, recipe_eq]
  split
  · cases recipeHead p [] entries with
    | error e => rfl
    | ok callable => cases argsIn p entries <;> rfl
  · cases entryNodes p entries <;> rfl

theorem argsIn_cons (k : String) (o : Outline) (rest : Entries Outline) :
    argsIn p ((k, o) :: rest) =
      if k = Recipe.argsKey then argsOf (p.key Recipe.argsKey) o else argsIn p rest := by
  rw [argsIn]

theorem recipesFrom_cons (i : Nat) (o : Outline) (rest : List Outline) :
    recipesFrom p i (o :: rest) =
      (recipeOnly (p.index i) o).bind fun r => (recipesFrom p (i + 1) rest).map (r :: ·) := by
  rw [recipesFrom]
  cases recipeOnly (p.index i) o with
  | error e => rfl
  | ok r => cases recipesFrom p (i + 1) rest <;> rfl

/-- The validations of a dataset are read before its recipe. -/
theorem dataset_of_map {o : Outline} {entries : Entries Outline} (h : o.untagged = .map entries) :
    dataset p o =
      (validations p entries).bind fun recipes =>
        (recipe p [Recipe.validationsKey] entries).map fun source => ⟨source, recipes⟩ := by
  rw [dataset, h]
  dsimp only
  cases validations p entries with
  | error e => rfl
  | ok recipes => cases recipe p [Recipe.validationsKey] entries <;> rfl

/-! ## Errors -/

section Errors

variable {p : Position} {e : Malformed}

theorem of_itemNodes_eq_error {i : Nat} {items : List Outline}
    (h : itemNodes p i items = .error e) :
    ∃ (j : Nat) (o : Outline), items[j]? = some o ∧ node (p.index (i + j)) o = .error e :=
  exists_visit_eq_error h (fun _ => rfl) (itemNodes_cons p)

theorem of_entryNodes_eq_error {entries : Entries Outline}
    (h : entryNodes p entries = .error e) :
    ∃ name o, (name, o) ∈ entries ∧ node (p.key name) o = .error e := by
  induction entries with
  | nil => cases h
  | cons head rest ih =>
      obtain ⟨k, o⟩ := head
      rw [entryNodes_cons] at h
      rcases bind_eq_error_iff.1 h with hfirst | ⟨n, -, hlater⟩
      · exact ⟨k, o, List.mem_cons_self, hfirst⟩
      · obtain ⟨name, o', hmem, hnode⟩ := ih (map_eq_error_iff.1 hlater)
        exact ⟨name, o', List.mem_cons_of_mem _ hmem, hnode⟩

theorem of_recipesFrom_eq_error {i : Nat} {items : List Outline}
    (h : recipesFrom p i items = .error e) :
    ∃ (j : Nat) (o : Outline), items[j]? = some o ∧ recipeOnly (p.index (i + j)) o = .error e :=
  exists_visit_eq_error h (fun _ => rfl) (recipesFrom_cons p)

theorem callableName_eq_error {entries : Entries Outline}
    (h : callableName p entries = .error e) :
    (Entries.get? Recipe.callableKey entries = none ∧ e = ⟨p, .callableMissing⟩) ∨
      ∃ o, Entries.get? Recipe.callableKey entries = some o ∧
        (∀ s, o = .string s → Text.isAllBlank s = true) ∧
        e = ⟨p.key Recipe.callableKey, .callableNotText⟩ := by
  rw [callableName] at h
  split at h
  · rename_i s hget
    split at h
    · rename_i hblank
      cases h
      refine .inr ⟨.string s, hget, fun s' heq => ?_, rfl⟩
      cases heq
      exact hblank
    · cases h
  · rename_i o hother hget
    cases h
    exact .inr ⟨o, hget, fun s heq => absurd heq (hother s), rfl⟩
  · rename_i hget
    cases h
    exact .inl ⟨hget, rfl⟩

theorem recipeHead_eq_error {allowed : List String} {entries : Entries Outline}
    (h : recipeHead p allowed entries = .error e) :
    callableName p entries = .error e ∨
      ∃ callable, callableName p entries = .ok callable ∧ unknownKeys allowed entries ≠ [] ∧
        e = ⟨p, .unknownKeys callable (unknownKeys allowed entries)⟩ := by
  rw [recipeHead] at h
  cases hname : callableName p entries with
  | error e' =>
      rw [hname] at h
      exact .inl h
  | ok callable =>
      simp only [hname] at h
      split at h
      · cases h
      · rename_i names hnames
        cases h
        exact .inr ⟨callable, rfl, hnames, rfl⟩

end Errors

end Outline

end DataCatalog
