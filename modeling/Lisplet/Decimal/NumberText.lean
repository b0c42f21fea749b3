import Lisplet.Decimal.Shortest

/-!
# Numbers in decimal

A number is written with its shortest decimal digits and without an exponent: an integral number has
no decimal point, a number below one starts with `0.`, and zeros fill the places between the digits
and the point. Zero keeps its sign, the infinities are `inf` and `-inf`, and NaN has none.
-/

set_option autoImplicit false

namespace Lisplet.Decimal

/-- The digits of a decimal, with the point where it belongs. -/
def Point.text (point : Point) : List Char :=
  let digits := Nat.toDigits 10 point.digits
  let scale := (-point.place).toNat
  if point.place ≥ 0 then digits ++ List.replicate point.place.toNat '0'
  else if scale < digits.length then
    digits.take (digits.length - scale) ++ '.' :: digits.drop (digits.length - scale)
  else '0' :: '.' :: (List.replicate (scale - digits.length) '0' ++ digits)

/-- The number of different fractions of a binary64 number. -/
def fractions : Nat := 0x10000000000000

/-- The number of different exponent fields of a binary64 number. -/
def exponentFields : Nat := 2048

/-- The exponent of the least bit of the numbers with the least exponent. -/
def leastExponent : Int := -1074

/-- The text of a number without its sign, from its exponent field and its fraction field. -/
def magnitudeText (exponentField fraction : Nat) : List Char :=
  if exponentField + 1 = exponentFields then
    if fraction = 0 then "inf".toList else "NaN".toList
  else if exponentField = 0 ∧ fraction = 0 then ['0']
  else
    let mantissa := if exponentField = 0 then fraction else fraction + fractions
    let exponent := if exponentField = 0 then leastExponent else leastExponent + exponentField - 1
    let neighbourhood := Neighbourhood.ofParts mantissa exponent (fraction = 0 ∧ 1 < exponentField)
    match neighbourhood.shortest? with
    | some point => point.text
    | none => []

/-- The text of a number. -/
def numberText (number : Float) : List Char :=
  let bits := number.toBits.toNat
  let exponentField := bits / fractions % exponentFields
  let fraction := bits % fractions
  let magnitude := magnitudeText exponentField fraction
  let positive := bits / fractions < exponentFields
  let undefined := exponentField + 1 = exponentFields ∧ fraction ≠ 0
  if positive ∨ undefined then magnitude else '-' :: magnitude

end Lisplet.Decimal
