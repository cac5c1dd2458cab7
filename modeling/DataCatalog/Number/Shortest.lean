import DataCatalog.Number.Binary64

/-!
# The fewest decimal digits that read back

The reals that round to a finite number form an interval around it.  For one, two, … up to
seventeen digits, `shortest` looks at the two points of that decimal grid next to the number; the
first grid with a point in the interval wins, and of two such points the nearer one.
-/

set_option autoImplicit false

namespace DataCatalog.Binary64

/-- The greatest `k` with `10 ^ k ≤ num / den`, for positive arguments. -/
def decimalExponent (num den : Nat) : Int :=
  -- 30103 / 100000 is the logarithm of 2, so that the guess is off by a few at most
  let guess : Int := ((num.log2 : Int) - den.log2) * 30103 / 100000 - 1
  let below (k : Int) : Bool :=
    let (n, d) := scaled 1 1 10 k
    n * den ≤ num * d
  if below (guess + 3) then guess + 3
  else if below (guess + 2) then guess + 2
  else if below (guess + 1) then guess + 1
  else guess

/-- The interval of fractions over a common denominator that round to `m * 2 ^ q`: its lower end,
the value, its upper end, the denominator, and whether the ends belong to it. -/
structure Neighbourhood where
  low : Nat
  value : Nat
  high : Nat
  den : Nat
  closed : Bool

/-- The interval around a finite number; it is narrower below a power of two. -/
def neighbourhood (x : Binary64) : Neighbourhood :=
  let (m, q) := x.significand
  -- in quarters of the last place: half a step is 2, and 1 where the steps below are shorter
  let (scale, den) := scaled 1 4 2 q
  let gap := if m = Nat.pow 2 52 && x.exponentField > 1 then 1 else 2
  ⟨(4 * m - gap) * scale, 4 * m * scale, (4 * m + 2) * scale, den, m % 2 == 0⟩

/-- Whether `num / den` lies in the interval. -/
def Neighbourhood.holds (n : Neighbourhood) (num den : Nat) : Bool :=
  if n.closed then n.low * den ≤ num * n.den && num * n.den ≤ n.high * den
  else n.low * den < num * n.den && num * n.den < n.high * den

/-- The digits of the grid `10 ^ k` in the interval that are nearest to the value. -/
def Neighbourhood.onGrid (n : Neighbourhood) (k : Int) : Option Nat :=
  let (step, den) := scaled 1 1 10 k
  let below := n.value * den / (n.den * step)
  let above := below + 1
  match n.holds (below * step) den, n.holds (above * step) den with
  | true, false => some below
  | false, true => some above
  | false, false => none
  | true, true =>
      -- both points read back: the nearer one, or the even one of two that are equally near
      let down := n.value * den - below * step * n.den
      let up := above * step * n.den - n.value * den
      if down < up || (down == up && below % 2 == 0) then some below else some above

/-- Moves trailing zeros of the digits into the exponent; `fuel` bounds their number. -/
def dropZeros : Nat → Nat → Int → Nat × Int
  | 0, digits, exponent => (digits, exponent)
  | fuel + 1, digits, exponent =>
      if digits ≠ 0 && digits % 10 = 0 then dropZeros fuel (digits / 10) (exponent + 1)
      else (digits, exponent)

/-- Tries grids from coarse to fine; seventeen digits always suffice. -/
def searchGrid (n : Neighbourhood) : Nat → Int → Nat × Int
  | 0, k => (n.value * (scaled 1 1 10 k).2 / (n.den * (scaled 1 1 10 k).1), k)
  | fuel + 1, k =>
      match n.onGrid k with
      | some digits => dropZeros 20 digits k
      | none => searchGrid n fuel (k - 1)

/-- Digits and power of ten of the shortest decimal that reads back as a finite nonzero number. -/
def shortest (x : Binary64) : Nat × Int :=
  let n := x.neighbourhood
  searchGrid n 17 (decimalExponent n.value n.den)

end DataCatalog.Binary64
