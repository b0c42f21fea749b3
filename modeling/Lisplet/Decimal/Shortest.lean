/-!
# The shortest decimal of a binary fraction

A finite binary64 number other than zero is `mantissa · 2 ^ exponent`. The real numbers that round
to it form an interval around it, which contains its ends exactly when the mantissa is even. On the
decimal grid of step `10 ^ place`, the points next to the number are the quotient by the step and
its successor; `Neighbourhood.point?` gives the one that lies in the interval, the nearer one when
both do, and the upper one of two that are equally near. The shortest decimal is the point on the
coarsest grid that has one.

All comparisons are exact: they are made between products of natural numbers.
-/

set_option autoImplicit false

namespace Lisplet.Decimal

/-- A positive number and the interval of the numbers that round to it, all three in units of
`2 ^ exponent`. -/
structure Neighbourhood where
  low : Nat
  value : Nat
  high : Nat
  /-- Whether the two ends belong to the interval. -/
  closed : Bool
  exponent : Int
  deriving DecidableEq, Repr

/-- A decimal: `digits · 10 ^ place`. -/
structure Point where
  digits : Nat
  place : Int
  deriving DecidableEq, Repr

namespace Neighbourhood

/-- The numbers that round to `mantissa · 2 ^ exponent`. They reach half a step to either side, but
only a quarter of a step down from a power of two above the least exponent. -/
def ofParts (mantissa : Nat) (exponent : Int) (atPowerOfTwo : Bool) : Neighbourhood where
  low := 4 * mantissa - (if atPowerOfTwo then 1 else 2)
  value := 4 * mantissa
  high := 4 * mantissa + 2
  closed := mantissa % 2 == 0
  exponent := exponent - 2

/-- The factors by which a number in units of `2 ^ exponent` and a count of steps `10 ^ place` have
to be multiplied to make them comparable. -/
def scale (neighbourhood : Neighbourhood) (place : Int) : Nat × Nat :=
  (Nat.pow 2 neighbourhood.exponent.toNat * Nat.pow 10 (-place).toNat,
    Nat.pow 2 (-neighbourhood.exponent).toNat * Nat.pow 10 place.toNat)

/-- The multiple of `10 ^ place` in the interval that is nearest to the number; of two that are
equally near, the upper one. -/
def point? (neighbourhood : Neighbourhood) (place : Int) : Option Nat :=
  let (unit, step) := neighbourhood.scale place
  let below := neighbourhood.value * unit / step
  let above := below + 1
  let lowFits := if neighbourhood.closed then neighbourhood.low * unit ≤ below * step
    else neighbourhood.low * unit < below * step
  let highFits := if neighbourhood.closed then above * step ≤ neighbourhood.high * unit
    else above * step < neighbourhood.high * unit
  let aboveNearer :=
    above * step - neighbourhood.value * unit ≤ neighbourhood.value * unit - below * step
  if lowFits ∧ ¬(highFits ∧ aboveNearer) then some below
  else if highFits then some above
  else none

/-- The point on the first grid that has one, of the given number of grids from `place` down. -/
def search (neighbourhood : Neighbourhood) : Nat → Int → Option Point
  | 0, _ => none
  | grids + 1, place =>
      match neighbourhood.point? place with
      | some digits => some ⟨digits, place⟩
      | none => neighbourhood.search grids (place - 1)

/-- The place of a power of ten that is greater than the number. -/
def firstPlace (neighbourhood : Neighbourhood) : Nat :=
  (Nat.toDigits 10 (neighbourhood.value * Nat.pow 2 neighbourhood.exponent.toNat /
    Nat.pow 2 (-neighbourhood.exponent).toNat)).length

/-- No interval is so narrow that the grid of step `10 ^ -324` has no point in it. -/
def lastPlace : Nat := 324

/-- The shortest decimal in the interval. -/
def shortest? (neighbourhood : Neighbourhood) : Option Point :=
  neighbourhood.search (neighbourhood.firstPlace + lastPlace + 1) neighbourhood.firstPlace

end Neighbourhood

end Lisplet.Decimal
