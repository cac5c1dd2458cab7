/-!
# White space, lines and separated parts

The blanks are the characters with the Unicode property White_Space.  `trim` takes them off both
ends of a text.  `lines` takes a text apart at line feeds, a carriage return before a line feed
being part of the line end, and `split` takes it apart at every occurrence of one character.

Main statements: `splitChars_append` says that splitting a joined text splits its two halves, and
`trim_eq_empty_iff` that a text trims to nothing exactly when it holds nothing but blanks.
-/

set_option autoImplicit false

namespace DataCatalog.Text

/-- The characters that count as white space. -/
def isBlank (c : Char) : Bool :=
  let n := c.toNat
  (9 ≤ n && n ≤ 13) || n == 0x20 || n == 0x85 || n == 0xa0 || n == 0x1680 ||
    (0x2000 ≤ n && n ≤ 0x200a) || n == 0x2028 || n == 0x2029 || n == 0x202f || n == 0x205f ||
    n == 0x3000

/-- Drops the characters with a property from both ends. -/
def trimChars (drop : Char → Bool) (cs : List Char) : List Char :=
  ((cs.dropWhile drop).reverse.dropWhile drop).reverse

/-- A text without the blanks at its two ends. -/
def trim (s : String) : String :=
  String.ofList (trimChars isBlank s.toList)

/-- A text of blanks alone, the empty text included. -/
def isAllBlank (s : String) : Bool :=
  s.toList.all isBlank

/-- The lines of a text: each ends at a line feed, or at a carriage return and a line feed; a last
line without an end counts when it holds a character. -/
def lineChars : List Char → List (List Char)
  | [] => []
  | '\n' :: rest => [] :: lineChars rest
  | '\r' :: '\n' :: rest => [] :: lineChars rest
  | c :: rest =>
      match lineChars rest with
      | [] => [[c]]
      | line :: later => (c :: line) :: later

/-- The lines of a text, without their ends. -/
def lines (s : String) : List String :=
  (lineChars s.toList).map String.ofList

/-- The parts between the occurrences of a separator, of a text or of other lists; always at least
one part. -/
def splitChars {α : Type} [DecidableEq α] (separator : α) : List α → List (List α)
  | [] => [[]]
  | c :: rest =>
      if c = separator then [] :: splitChars separator rest
      else
        match splitChars separator rest with
        | [] => [[c]]
        | part :: later => (c :: part) :: later

/-- The parts of a text between the occurrences of a separator. -/
def split (separator : Char) (s : String) : List String :=
  (splitChars separator s.toList).map String.ofList

/-- How often a character occurs. -/
def occurrences (c : Char) (s : String) : Nat :=
  s.toList.count c

/-- What follows a beginning of a text, if the text has it. -/
def after? : List Char → List Char → Option (List Char)
  | [], cs => some cs
  | _ :: _, [] => none
  | e :: expected, c :: cs => if e = c then after? expected cs else none

section Splitting

variable {α : Type} [DecidableEq α]

theorem splitChars_ne_nil (separator : α) (cs : List α) : splitChars separator cs ≠ [] := by
  cases cs with
  | nil => simp [splitChars]
  | cons c rest =>
      unfold splitChars
      split
      · simp
      · split <;> simp

theorem splitChars_of_not_mem {separator : α} {cs : List α} (h : separator ∉ cs) :
    splitChars separator cs = [cs] := by
  induction cs with
  | nil => rfl
  | cons c rest ih =>
      have hc : c ≠ separator := fun heq => h (heq ▸ List.mem_cons_self)
      have hrest : separator ∉ rest := fun hmem => h (List.mem_cons_of_mem _ hmem)
      simp [splitChars, hc, ih hrest]

/-- Splitting at a separator that stands between two texts splits the two texts. -/
theorem splitChars_append (separator : α) (left right : List α) :
    splitChars separator (left ++ separator :: right) =
      splitChars separator left ++ splitChars separator right := by
  induction left with
  | nil => simp [splitChars]
  | cons c rest ih =>
      by_cases h : c = separator
      · simp [splitChars, h, ih]
      · have hne := splitChars_ne_nil separator rest
        cases hr : splitChars separator rest with
        | nil => exact absurd hr hne
        | cons part later => simp [splitChars, h, ih, hr]

end Splitting

theorem dropWhile_eq_nil_iff_all (drop : Char → Bool) (cs : List Char) :
    cs.dropWhile drop = [] ↔ cs.all drop = true := by
  induction cs with
  | nil => simp
  | cons c rest ih => by_cases h : drop c <;> simp [h, ih]

/-- A text trims to nothing exactly when it holds nothing but what is trimmed. -/
theorem trimChars_eq_nil_iff (drop : Char → Bool) (cs : List Char) :
    trimChars drop cs = [] ↔ cs.all drop = true := by
  unfold trimChars
  rw [List.reverse_eq_nil_iff, dropWhile_eq_nil_iff_all, List.all_reverse,
    ← dropWhile_eq_nil_iff_all]
  induction cs with
  | nil => simp
  | cons c rest ih =>
      by_cases h : drop c
      · simpa [List.dropWhile_cons, h] using ih
      · simp [h]

theorem trim_eq_empty_iff (s : String) : trim s = "" ↔ isAllBlank s = true := by
  unfold trim isAllBlank
  rw [← trimChars_eq_nil_iff]
  constructor
  · intro h
    have := congrArg String.toList h
    simpa using this
  · intro h
    simp [h]

end DataCatalog.Text
