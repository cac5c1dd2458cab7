import DataCatalog.Number.Shortest

/-!
# Writing floating-point numbers

Every format writes the shortest digits that read back.  What differs is kept in one record per
format: which magnitudes are written without an exponent, whether a whole number keeps `.0`,
whether a positive exponent has a sign, and the words for infinity and NaN.
-/

set_option autoImplicit false

namespace DataCatalog

/-- How a format lays out the digits of a number. -/
structure DecimalStyle where
  /-- The least and greatest position of the point, counted from the first digit, without an
  exponent. -/
  positional : Option (Int × Int)
  /-- Whether a whole number without an exponent ends in `.0`. -/
  keepsPoint : Bool
  /-- Whether a positive exponent has a plus sign. -/
  signsExponent : Bool
  infinity : String
  nan : String

namespace DecimalStyle

/-- The debugging form: `1.0`, `1e16`, `1e-5`. -/
def debug : DecimalStyle := ⟨some (-3, 16), true, false, "inf", "NaN"⟩

/-- The plain form, which never has an exponent: `1`, `0.0000001`. -/
def plain : DecimalStyle := ⟨none, false, false, "inf", "NaN"⟩

/-- The form of YAML documents: `1.0`, `1e16`, `1e-6`, `.inf`. -/
def yaml : DecimalStyle := ⟨some (-4, 16), true, false, ".inf", ".nan"⟩

/-- The form of JSON documents; the words for infinity and NaN do not occur there. -/
def json : DecimalStyle := ⟨some (-4, 16), true, true, "null", "null"⟩

/-- The form of rendered templates: never an exponent, `.0` kept. -/
def template : DecimalStyle := ⟨none, true, false, "inf", "NaN"⟩

end DecimalStyle

namespace Binary64

def zeros (n : Nat) : List Char := List.replicate n '0'

/-- Digits with the point after the first `point` of them, padded with zeros. -/
def positionalDigits (style : DecimalStyle) (digits : List Char) (point : Int) : List Char :=
  if point ≤ 0 then '0' :: '.' :: zeros (-point).toNat ++ digits
  else if digits.length ≤ point.toNat then
    digits ++ zeros (point.toNat - digits.length) ++ (if style.keepsPoint then ['.', '0'] else [])
  else digits.take point.toNat ++ '.' :: digits.drop point.toNat

/-- Digits with an exponent, the point after the first digit. -/
def exponentDigits (style : DecimalStyle) (digits : List Char) (point : Int) : List Char :=
  let mantissa :=
    match digits with
    | [] => []
    | [d] => [d]
    | d :: rest => d :: '.' :: rest
  let exponent := point - 1
  let sign :=
    if exponent < 0 then ['-'] else if style.signsExponent then ['+'] else []
  mantissa ++ 'e' :: sign ++ Nat.toDigits 10 exponent.natAbs

/-- The text of a number's magnitude. -/
def magnitudeText (style : DecimalStyle) (x : Binary64) : List Char :=
  if x.isInfinite then style.infinity.toList
  else if x.isZero then '0' :: (if style.keepsPoint then ['.', '0'] else [])
  else
    let (number, exponent) := x.shortest
    let digits := Nat.toDigits 10 number
    let point := (digits.length : Int) + exponent
    let fits :=
      match style.positional with
      | none => true
      | some (least, greatest) => least ≤ point && point ≤ greatest
    if fits then positionalDigits style digits point else exponentDigits style digits point

/-- The text of a number in a style. -/
def text (style : DecimalStyle) (x : Binary64) : String :=
  if x.isNaN then style.nan
  else String.ofList ((if x.isNegative then ['-'] else []) ++ magnitudeText style x)

end Binary64

end DataCatalog
