/-!
# Binary floating-point numbers of 64 bits

A number is its bit pattern: a sign bit, eleven exponent bits and fifty-two fraction bits.  All
arithmetic here is exact arithmetic on fractions of natural numbers followed by one rounding to
the nearest number, ties to the even one, so that every definition computes inside the logic.

Main definitions: `ofRatio` rounds a fraction, `toRatio?` gives the exact value back, and `same` is
the numerical comparison under which a NaN differs from itself and the two zeros are equal.
-/

set_option autoImplicit false

namespace DataCatalog

/-- A 64-bit binary floating-point number, as its bits. -/
structure Binary64 where
  bits : UInt64
  deriving DecidableEq, Inhabited, Repr

namespace Binary64

/-- The eleven exponent bits. -/
def exponentField (x : Binary64) : Nat :=
  x.bits.toNat / Nat.pow 2 52 % Nat.pow 2 11

/-- The fifty-two fraction bits. -/
def fractionField (x : Binary64) : Nat :=
  x.bits.toNat % Nat.pow 2 52

def isNegative (x : Binary64) : Bool :=
  Nat.pow 2 63 ≤ x.bits.toNat

def isNaN (x : Binary64) : Bool :=
  x.exponentField == 2047 && x.fractionField != 0

def isInfinite (x : Binary64) : Bool :=
  x.exponentField == 2047 && x.fractionField == 0

def isFinite (x : Binary64) : Bool :=
  x.exponentField != 2047

def isZero (x : Binary64) : Bool :=
  x.exponentField == 0 && x.fractionField == 0

/-- The number with a given sign and the remaining sixty-three bits. -/
def ofMagnitude (negative : Bool) (magnitude : Nat) : Binary64 :=
  ⟨UInt64.ofNat ((if negative then Nat.pow 2 63 else 0) + magnitude)⟩

def infinity (negative : Bool) : Binary64 :=
  ofMagnitude negative (2047 * Nat.pow 2 52)

def nan : Binary64 :=
  ofMagnitude false (2047 * Nat.pow 2 52 + Nat.pow 2 51)

def zero (negative : Bool) : Binary64 :=
  ofMagnitude negative 0

/-- The number, with one NaN for all of them. -/
def canonical (x : Binary64) : Binary64 :=
  if x.isNaN then nan else x

/-- The number with the other sign. -/
def negate (x : Binary64) : Binary64 :=
  ofMagnitude (!x.isNegative) (x.bits.toNat % Nat.pow 2 63)

/-- For a finite number, `m` and `q` with magnitude `m * 2 ^ q`. -/
def significand (x : Binary64) : Nat × Int :=
  -- a subnormal number has no leading one
  if x.exponentField = 0 then (x.fractionField, -1074)
  else (Nat.pow 2 52 + x.fractionField, (x.exponentField : Int) - 1075)

/-- The fraction `num / den` times a power of a base. -/
def scaled (num den base : Nat) (power : Int) : Nat × Nat :=
  if power ≥ 0 then (num * Nat.pow base power.toNat, den)
  else (num, den * Nat.pow base (-power).toNat)

/-- The magnitude of a finite number as a fraction. -/
def toRatio? (x : Binary64) : Option (Nat × Nat) :=
  if x.isFinite then
    let (m, q) := x.significand
    some (scaled m 1 2 q)
  else none

/-- The quotient rounded to the nearest natural number, a half to the even one. -/
def roundDiv (num den : Nat) : Nat :=
  let q := num / den
  let twice := 2 * (num % den)
  if twice > den || (twice == den && q % 2 == 1) then q + 1 else q

/-- The greatest `k` with `2 ^ k ≤ num / den`, for positive arguments. -/
def binaryExponent (num den : Nat) : Int :=
  let k : Int := (num.log2 : Int) - den.log2
  let (n, d) := scaled 1 1 2 k
  if num * d < den * n then k - 1 else k

/-- The number nearest to a fraction; a tie goes to the even one, an overflow to infinity. -/
def ofRatio (negative : Bool) (num den : Nat) : Binary64 :=
  if num = 0 || den = 0 then zero negative
  else
    -- the power of the last place; all subnormal numbers share the least one
    let q := max (binaryExponent num den - 52) (-1074)
    let (n, d) := scaled num den 2 (-q)
    -- the leading one and a carry of the rounding both count in the exponent field
    let magnitude := (q + 1074).toNat * Nat.pow 2 52 + roundDiv n d
    ofMagnitude negative (min magnitude (2047 * Nat.pow 2 52))

/-- The number nearest to an integer. -/
def ofInt (i : Int) : Binary64 :=
  ofRatio (i < 0) i.natAbs 1

/-- The number nearest to `digits * 10 ^ exponent`.  Magnitudes beyond every finite number are
settled before a power of ten is formed. -/
def ofDecimal (negative : Bool) (digits : Nat) (exponent : Int) : Binary64 :=
  if digits = 0 then zero negative
  else
    let size : Int := (Nat.toDigits 10 digits).length + exponent
    if size > 310 then infinity negative
    else if size < -330 then zero negative
    else
      let (num, den) := scaled digits 1 10 exponent
      ofRatio negative num den

/-- Equality as numbers: a NaN equals nothing, the two zeros are equal. -/
def same (x y : Binary64) : Bool :=
  !x.isNaN && !y.isNaN && (x.bits == y.bits || (x.isZero && y.isZero))

/-- A finite number as a fraction with a sign. -/
def toSigned? (x : Binary64) : Option (Int × Nat) :=
  x.toRatio?.map fun (num, den) => (if x.isNegative then -(num : Int) else num, den)

/-- The order of two numbers, none of them a NaN. -/
def order (x y : Binary64) : Ordering :=
  match x.toSigned?, y.toSigned? with
  | some (a, b), some (c, d) => compare (a * d) (c * b)
  | none, some _ => if x.isNegative then .lt else .gt
  | some _, none => if y.isNegative then .gt else .lt
  | none, none => compare (if x.isNegative then 0 else 1) (if y.isNegative then 0 else 1)

/-- The rounded sum. -/
def add (x y : Binary64) : Binary64 :=
  match x.toSigned?, y.toSigned? with
  | some (a, b), some (c, d) =>
      let num := a * d + c * b
      if num = 0 then zero (x.isNegative && y.isNegative)
      else ofRatio (num < 0) num.natAbs (b * d)
  | none, some _ => x
  | some _, none => y
  | none, none => if x.isNaN || y.isNaN || x.isNegative != y.isNegative then nan else x

/-- The rounded product with a positive finite number. -/
def mul (x y : Binary64) : Binary64 :=
  match x.toRatio?, y.toRatio? with
  | some (a, b), some (c, d) => ofRatio (x.isNegative != y.isNegative) (a * c) (b * d)
  | _, _ => if x.isNaN || y.isNaN || x.isZero || y.isZero then nan
      else infinity (x.isNegative != y.isNegative)

/-- The rounded quotient by a positive finite number. -/
def div (x y : Binary64) : Binary64 :=
  match x.toRatio?, y.toRatio? with
  | some (a, b), some (c, d) =>
      if c = 0 then (if a = 0 then nan else infinity (x.isNegative != y.isNegative))
      else ofRatio (x.isNegative != y.isNegative) (a * d) (b * c)
  | none, some _ => if x.isNaN then nan else infinity (x.isNegative != y.isNegative)
  | some _, none => if y.isNaN then nan else zero (x.isNegative != y.isNegative)
  | none, none => nan

end Binary64

end DataCatalog
