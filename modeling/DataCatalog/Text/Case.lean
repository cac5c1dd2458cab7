import DataCatalog.Text.CaseTable

/-!
# Lower and upper case

Both mappings are Unicode's full mappings.  Two rules go beyond one character at a time: a capital
dotted I becomes an i and a combining dot, and a capital sigma that ends a word becomes a final
sigma.  The ASCII letters are settled without the tables.
-/

set_option autoImplicit false

namespace DataCatalog.Text

/-- Whether a code point lies in one of the ranges. -/
def inRanges (ranges : Array (Nat × Nat)) (n : Nat) : Bool :=
  ranges.any fun (first, last) => first ≤ n && n ≤ last

/-- Where a table of runs sends a code point, if it has it. -/
def shiftOf (runs : Array (Nat × Nat × Nat × Int)) (n : Nat) : Option Nat :=
  (runs.find? fun (first, last, step, _) => first ≤ n && n ≤ last && (n - first) % step == 0).map
    fun (_, _, _, shift) => ((n : Int) + shift).toNat

/-- The lower-case form of one character, taken by itself. -/
def lowerChar (c : Char) : List Char :=
  if c.toNat < 0x80 then [c.toLower]
  else if c.toNat = 0x130 then ['i', Char.ofNat 0x307]
  else [((shiftOf lowerRuns c.toNat).map Char.ofNat).getD c]

/-- The upper-case form of one character. -/
def upperChar (c : Char) : List Char :=
  if c.toNat < 0x80 then [c.toUpper]
  else
    match upperExpansions.find? (·.1 == c.toNat) with
    | some (_, expansion) => expansion.map Char.ofNat
    | none => [((shiftOf upperRuns c.toNat).map Char.ofNat).getD c]

def isCased (c : Char) : Bool :=
  inRanges casedRanges c.toNat

def isCaseIgnorable (c : Char) : Bool :=
  inRanges caseIgnorableRanges c.toNat

/-- Whether the first character that case does not look through has case. -/
def meetsCased (cs : List Char) : Bool :=
  ((cs.dropWhile isCaseIgnorable).head?.map isCased).getD false

/-- Lower-cases what follows; `before` holds the characters already passed, nearest first. -/
def lowerFrom (before : List Char) : List Char → List Char
  | [] => []
  | c :: rest =>
      let lowered :=
        if c.toNat = 0x3a3 then
          if meetsCased before && !meetsCased rest then [Char.ofNat 0x3c2] else [Char.ofNat 0x3c3]
        else lowerChar c
      lowered ++ lowerFrom (c :: before) rest

/-- The lower-case form of a text. -/
def lower (s : String) : String :=
  String.ofList (lowerFrom [] s.toList)

/-- The upper-case form of a text. -/
def upper (s : String) : String :=
  String.ofList (s.toList.flatMap upperChar)

end DataCatalog.Text
