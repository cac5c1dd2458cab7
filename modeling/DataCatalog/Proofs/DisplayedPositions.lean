import DataCatalog.Position

/-!
# Reading displayed positions

The text that names a position in a message is read back step by step: a dot begins a key, an
opening bracket an index, and what stands before the first of them is a key too.  This finds the
position again as long as its keys do not look like something else.  A key with a dot or an opening
bracket reads like several steps, an empty key in front is not seen, and a position of the one key
`<root>` reads like the root.

Main statement: `Position.display_identifies` says that positions with such keys are read back, so
that no two of them are displayed alike.
-/

set_option autoImplicit false

namespace DataCatalog

/-- A step that reads as one step: its key is not empty and holds no dot and no opening bracket. -/
def Step.Legible : Step → Prop
  | .key name => name ≠ "" ∧ '.' ∉ name.toList ∧ '[' ∉ name.toList
  | .index _ => True

instance Step.decidableLegible : DecidablePred Step.Legible
  | .key name => inferInstanceAs (Decidable (name ≠ "" ∧ '.' ∉ name.toList ∧ '[' ∉ name.toList))
  | .index _ => inferInstanceAs (Decidable True)

namespace Position

/-- A position whose text reads as what it is. -/
structure Legible (p : Position) : Prop where
  steps : ∀ step ∈ p, step.Legible
  not_named_root : p ≠ [.key "<root>"]

/-- The characters before the first dot or opening bracket, and the steps after them.  The last
character of what follows a bracket is the closing one. -/
def readSteps : List Char → List Char × List Step
  | [] => ([], [])
  | '.' :: rest =>
      let (name, later) := readSteps rest
      ([], .key (String.ofList name) :: later)
  | '[' :: rest =>
      let (digits, later) := readSteps rest
      ([], .index (Nat.ofDigitChars 10 digits.dropLast 0) :: later)
  | c :: rest =>
      let (word, later) := readSteps rest
      (c :: word, later)

/-- The position that a text displays. -/
def ofDisplay (text : String) : Position :=
  if text = "<root>" then root
  else
    match readSteps text.toList with
    | ([], steps) => steps
    | (first, later) => .key (String.ofList first) :: later

/-- The characters of steps after the first one. -/
def stepChars (steps : List Step) : List Char :=
  steps.flatMap fun step => (showStep step).toList

theorem toList_display_key (name : String) (later : List Step) :
    (display (.key name :: later)).toList = name.toList ++ stepChars later := by
  rw [display, String.toList_append, String.toList_join, List.flatMap_map]
  rfl

theorem toList_display_index (i : Nat) (later : List Step) :
    (display (.index i :: later)).toList = stepChars (.index i :: later) := by
  rw [display, String.toList_append, String.toList_join, List.flatMap_map]
  rfl

/-! ## Reading steps -/

/-- A word without dots and opening brackets is read as one. -/
theorem readSteps_append {word : List Char} (hdot : '.' ∉ word) (hbracket : '[' ∉ word)
    (rest : List Char) :
    readSteps (word ++ rest) = (word ++ (readSteps rest).1, (readSteps rest).2) := by
  induction word with
  | nil => rfl
  | cons c word ih =>
      obtain ⟨hc, hword⟩ := List.ne_and_not_mem_of_not_mem_cons hdot
      obtain ⟨hc', hword'⟩ := List.ne_and_not_mem_of_not_mem_cons hbracket
      rw [List.cons_append, readSteps]
      · rw [ih hword hword']
        rfl
      · exact fun heq => hc heq.symm
      · exact fun heq => hc' heq.symm

theorem readSteps_key {name : String} (h : (Step.key name).Legible) {rest : List Char}
    {later : List Step} (hrest : readSteps rest = ([], later)) :
    readSteps ((showStep (.key name)).toList ++ rest) = ([], .key name :: later) := by
  obtain ⟨-, hdot, hbracket⟩ := h
  have hchars : (showStep (.key name)).toList ++ rest = '.' :: (name.toList ++ rest) := by
    simp [showStep]
  rw [hchars, readSteps, readSteps_append hdot hbracket, hrest]
  simp

/-- The digits of an index are read as one word together with the closing bracket. -/
theorem readSteps_index (i : Nat) {rest : List Char} {later : List Step}
    (hrest : readSteps rest = ([], later)) :
    readSteps ((showStep (.index i)).toList ++ rest) = ([], .index i :: later) := by
  have hchars : (showStep (.index i)).toList ++ rest =
      '[' :: ((Nat.toDigits 10 i ++ [']']) ++ rest) := by
    simp [showStep, Nat.toString_eq_repr]
  have hdigits (c : Char) (hc : c.isDigit = false) (hclosing : c ≠ ']') :
      c ∉ Nat.toDigits 10 i ++ [']'] := by
    intro hmem
    rcases List.mem_append.1 hmem with hmem | hmem
    · rw [Nat.isDigit_of_mem_toDigits (by decide) (by decide) hmem] at hc
      cases hc
    · exact hclosing (List.mem_singleton.1 hmem)
  rw [hchars, readSteps,
    readSteps_append (hdigits '.' (by decide) (by decide)) (hdigits '[' (by decide) (by decide)),
    hrest]
  simp

/-- Steps after the first one are read back. -/
theorem readSteps_stepChars {steps : List Step} (h : ∀ step ∈ steps, step.Legible) :
    readSteps (stepChars steps) = ([], steps) := by
  induction steps with
  | nil => rfl
  | cons step later ih =>
      obtain ⟨hstep, hlater⟩ := List.forall_mem_cons.1 h
      cases step with
      | key name => exact readSteps_key hstep (ih hlater)
      | index i => exact readSteps_index i (ih hlater)

/-! ## Reading positions -/

theorem readSteps_display_key {name : String} {later : List Step}
    (h : ∀ step ∈ Step.key name :: later, step.Legible) :
    readSteps (display (.key name :: later)).toList = (name.toList, later) := by
  obtain ⟨⟨-, hdot, hbracket⟩, hlater⟩ := List.forall_mem_cons.1 h
  rw [toList_display_key, readSteps_append hdot hbracket, readSteps_stepChars hlater,
    List.append_nil]

theorem readSteps_display_index {i : Nat} {later : List Step}
    (h : ∀ step ∈ Step.index i :: later, step.Legible) :
    readSteps (display (.index i :: later)).toList = ([], .index i :: later) := by
  rw [toList_display_index, readSteps_stepChars h]

/-- Only the root is displayed as `<root>`. -/
theorem display_ne_root {first : Step} {later : List Step} (h : Legible (first :: later)) :
    display (first :: later) ≠ "<root>" := by
  intro hroot
  -- Read as steps, `<root>` is a single key, and this is the one position that is left out.
  have hread : readSteps (display (first :: later)).toList = ("<root>".toList, []) := by
    rw [hroot]
    decide
  cases first with
  | key name =>
      rw [readSteps_display_key h.steps] at hread
      obtain ⟨hname, rfl⟩ := Prod.mk.inj hread
      exact h.not_named_root (by rw [String.toList_inj.1 hname])
  | index i =>
      rw [readSteps_display_index h.steps] at hread
      exact List.cons_ne_nil _ _ (Prod.mk.inj hread).2

theorem ofDisplay_display {p : Position} (h : p.Legible) : ofDisplay p.display = p := by
  cases p with
  | nil => rfl
  | cons first later =>
      rw [ofDisplay, if_neg (display_ne_root h)]
      cases first with
      | key name =>
          obtain ⟨hname, -, -⟩ := h.steps _ List.mem_cons_self
          rw [readSteps_display_key h.steps]
          -- An empty word in front would be taken for the beginning of an index.
          cases hchars : name.toList with
          | nil => exact absurd (String.toList_inj.1 (hchars.trans String.toList_empty.symm)) hname
          | cons c cs =>
              show Step.key (String.ofList (c :: cs)) :: later = Step.key name :: later
              rw [← hchars, String.ofList_toList]
      | index i => rw [readSteps_display_index h.steps]

/-- The text of a position determines its steps, keys and indices alike: it is read back, and two
different positions have different texts. -/
theorem display_identifies :
    (∀ p : Position, p.Legible → ofDisplay p.display = p) ∧
    ∀ p q : Position, p.Legible → q.Legible → p ≠ q → p.display ≠ q.display := by
  refine ⟨fun p hp => ofDisplay_display hp, fun p q hp hq hne heq => hne ?_⟩
  rw [← ofDisplay_display hp, heq, ofDisplay_display hq]

/-- The arguments of a validator of a dataset. -/
def validatorArgs (i : Nat) : Position := [.key "sales", .key "validations", .index i, .key "args"]

/-- The second validator and the twelfth are told apart, and the twelfth is found again. -/
theorem display_identifies_validators :
    (validatorArgs 1).Legible ∧ (validatorArgs 11).Legible ∧
      (validatorArgs 1).display ≠ (validatorArgs 11).display ∧
      ofDisplay "sales.validations[11].args" = validatorArgs 11 := by
  have hsecond : (validatorArgs 1).Legible := ⟨by decide, by decide⟩
  have htwelfth : (validatorArgs 11).Legible := ⟨by decide, by decide⟩
  have hdisplay : (validatorArgs 11).display = "sales.validations[11].args" := by decide
  obtain ⟨hread, hdistinct⟩ := display_identifies
  refine ⟨hsecond, htwelfth, hdistinct _ _ hsecond htwelfth (by decide), ?_⟩
  rw [← hdisplay]
  exact hread _ htwelfth

/-- A key with a dot reads like two keys. -/
example : display [.key "a.b"] = display [.key "a", .key "b"] := by decide

end Position

end DataCatalog
