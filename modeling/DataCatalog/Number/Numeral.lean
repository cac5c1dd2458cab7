import DataCatalog.Number.Binary64

/-!
# Reading numerals

`digits?` reads the digits of a base and nothing else.  `decimal?` reads a decimal with an optional
sign, point and exponent into the nearest binary number, which may be infinite.
-/

set_option autoImplicit false

namespace DataCatalog.Numeral

/-- The value of a digit; letters of either case follow nine. -/
def digitValue (c : Char) : Option Nat :=
  if '0' ≤ c && c ≤ '9' then some (c.toNat - '0'.toNat)
  else if 'a' ≤ c && c ≤ 'z' then some (c.toNat - 'a'.toNat + 10)
  else if 'A' ≤ c && c ≤ 'Z' then some (c.toNat - 'A'.toNat + 10)
  else none

def isDigit (c : Char) : Bool :=
  '0' ≤ c && c ≤ '9'

/-- Reads on from a value already read. -/
def digitsFrom (base value : Nat) : List Char → Option Nat
  | [] => some value
  | c :: rest =>
      match digitValue c with
      | some d => if d < base then digitsFrom base (value * base + d) rest else none
      | none => none

/-- A natural number written in a base with at least one digit. -/
def digits? (base : Nat) : List Char → Option Nat
  | [] => none
  | cs => digitsFrom base 0 cs

/-- A natural number below `2 ^ 64` in decimal digits, with an optional plus sign. -/
def index? (cs : List Char) : Option Nat :=
  let unsigned :=
    match cs with
    | '+' :: rest => rest
    | _ => cs
  (digits? 10 unsigned).filter (· < Nat.pow 2 64)

/-- A sign, taken off the front of a numeral. -/
def takeSign : List Char → Bool × List Char
  | '-' :: rest => (true, rest)
  | '+' :: rest => (false, rest)
  | cs => (false, cs)

/-- The exponent part: nothing, or a letter e, an optional sign and digits. -/
def exponent? : List Char → Option Int
  | [] => some 0
  | c :: rest =>
      if c = 'e' || c = 'E' then
        let (negative, ds) := takeSign rest
        (digits? 10 ds).map fun n => if negative then -(n : Int) else n
      else none

/-- A decimal: a sign, digits with at most one point and at least one digit, an exponent. -/
def decimal? (cs : List Char) : Option Binary64 :=
  let (negative, body) := takeSign cs
  let whole := body.takeWhile isDigit
  let afterWhole := body.dropWhile isDigit
  let (fraction, afterFraction) :=
    match afterWhole with
    | '.' :: rest => (rest.takeWhile isDigit, rest.dropWhile isDigit)
    | _ => ([], afterWhole)
  match digits? 10 (whole ++ fraction), exponent? afterFraction with
  | some n, some e => some (Binary64.ofDecimal negative n (e - fraction.length))
  | _, _ => none

end DataCatalog.Numeral
