import Lisplet.Proofs.Decimal.Binary64
import Lisplet.Proofs.Equality
import Mathlib

/-!
# The rational number that a binary64 number is

A finite number is its mantissa, scaled by a power of two and with its sign (`Number.rational?`);
the two zeros are both zero. The infinities and NaN are no rational number.

The mantissas that unpacking gives have 53 bits, or fewer with the least exponent (`IsCanonical`),
so a rational number other than zero is written in one way only (`IsCanonical.unique`). Two numbers
are therefore equal in the sense of the machine just when they are the same rational number
(`beq_iff_rational?`).

A number that is not negative is converted to the word of its whole part, as far as there is one
(`toNat_toUInt64`), and a word below `2 ^ 53` is converted to the number that it is
(`rational?_toFloat`).
-/

set_option autoImplicit false

namespace Lisplet.Number

open Float.Model (Format UnpackedFloat)
open Float.Model.UnpackedFloat

/-- The rational number that a mantissa and an exponent stand for. -/
def magnitude (mantissa : Nat) (exponent : Int) : ℚ := mantissa * 2 ^ exponent

/-- The rational number that the parts of a number stand for, if they stand for one. -/
def partsValue? : UnpackedFloat → Option ℚ
  | .zero _ => some 0
  | .finite .positive mantissa exponent _ => some (magnitude mantissa exponent)
  | .finite .negative mantissa exponent _ => some (-magnitude mantissa exponent)
  | .infinity _ => none
  | .notANumber => none

/-- The rational number that a number is, if it is one. -/
def rational? (number : Float) : Option ℚ := partsValue? number.toModel.unpack

theorem magnitude_pos {mantissa : Nat} (positive : 0 < mantissa) (exponent : Int) :
    0 < magnitude mantissa exponent :=
  mul_pos (Nat.cast_pos.mpr positive) (zpow_pos two_pos exponent)

/-! ## One way of writing a number -/

/-- A mantissa has 53 bits, or fewer when the exponent cannot be any smaller. -/
structure CanonicalParts (mantissa : Nat) (exponent : Int) : Prop where
  small : mantissa < 2 ^ 53
  least : -1074 ≤ exponent
  full : 2 ^ 52 ≤ mantissa ∨ exponent = -1074

/-- The mantissa and the exponent of a number, if it has them, are canonical. -/
def IsCanonical : UnpackedFloat → Prop
  | .finite _ mantissa exponent _ => CanonicalParts mantissa exponent
  | _ => True

theorem isCanonical_unpack (bits : BitVec (Format.numBits .binary64)) :
    IsCanonical (unpack .binary64 bits) := by
  have mantissaField : (unpackMantissa bits).toNat < 2 ^ 52 := BitVec.isLt _
  have leading : (1#1 ++ unpackMantissa bits).toNat =
      2 ^ 52 + (unpackMantissa bits).toNat := by
    rw [BitVec.toNat_append, ← Nat.shiftLeft_add_eq_or_of_lt (BitVec.isLt _)]
    rfl
  have bias :
      (Format.exponentBias .binary64 : Int) + Format.mantissaBitsWithoutImplicit .binary64 = 1075 :=
    rfl
  rw [unpack]
  dsimp only
  split_ifs with greatest noMantissa least noBit
  · trivial
  · trivial
  · trivial
  · -- The exponent field is zero, and there is no leading bit.
    have exponent : (((unpackExponent bits).toNat : Int) - 1075) + 1 = -1074 := by
      rw [least]
      rfl
    rw [bias, exponent]
    exact ⟨mantissaField.trans (by decide), le_refl _, Or.inr rfl⟩
  · -- The leading bit stands before the bits of the mantissa field.
    have positive : 0 < (unpackExponent bits).toNat :=
      Nat.pos_of_ne_zero fun zero => least (BitVec.eq_of_toNat_eq zero)
    rw [bias]
    refine ⟨?_, by omega, Or.inl ?_⟩
    · rw [leading]
      omega
    · rw [leading]
      exact Nat.le_add_right _ _

section Canonical

variable {mantissa other : Nat} {exponent otherExponent : Int}
    (canonical : CanonicalParts mantissa exponent)
  (otherCanonical : CanonicalParts other otherExponent)
  (same : magnitude mantissa exponent = magnitude other otherExponent)
include canonical otherCanonical same

/-- A mantissa of 53 bits that is moved up does not have 53 bits any more. -/
theorem CanonicalParts.exponent_le : otherExponent ≤ exponent := by
  by_contra greater
  obtain ⟨places, moved⟩ : ∃ places : Nat, otherExponent = exponent + (places + 1 : Nat) :=
    ⟨(otherExponent - exponent - 1).toNat, by omega⟩
  have scaled : (mantissa : ℚ) = other * 2 ^ (places + 1) := by
    rw [magnitude, magnitude, moved, zpow_add₀ two_ne_zero, zpow_natCast] at same
    exact mul_right_cancel₀ (zpow_ne_zero exponent two_ne_zero) (by rw [same]; ring)
  have naturals : mantissa = other * 2 ^ (places + 1) := by exact_mod_cast scaled
  have doubled : other * 2 ≤ mantissa := by
    rw [naturals, Nat.pow_succ, ← Nat.mul_assoc]
    exact Nat.mul_le_mul_right 2 (Nat.le_mul_of_pos_right other (Nat.two_pow_pos places))
  have small := canonical.small
  have least := canonical.least
  have full := otherCanonical.full
  omega

theorem CanonicalParts.unique : exponent = otherExponent ∧ mantissa = other := by
  have exponents : exponent = otherExponent :=
    le_antisymm (otherCanonical.exponent_le canonical same.symm)
      (canonical.exponent_le otherCanonical same)
  subst exponents
  have mantissas := mul_right_cancel₀ (zpow_ne_zero exponent two_ne_zero) same
  exact ⟨rfl, by exact_mod_cast mantissas⟩

end Canonical

/-! ## Equality of numbers -/

theorem parts_compare_eq_iff {mantissa other : Nat} {exponent otherExponent : Int}
    (canonical : CanonicalParts mantissa exponent)
    (otherCanonical : CanonicalParts other otherExponent) :
    (compare exponent otherExponent).then (compare mantissa other) = .eq ↔
      magnitude other otherExponent = magnitude mantissa exponent := by
  rw [Ordering.then_eq_eq, compare_eq_iff_eq, compare_eq_iff_eq]
  constructor
  · rintro ⟨rfl, rfl⟩
    rfl
  · intro same
    exact canonical.unique otherCanonical same.symm

theorem compare_eq_iff_partsValue? {left right : UnpackedFloat} {value : ℚ}
    (leftCanonical : IsCanonical left)
    (rightCanonical : IsCanonical right) (rational : partsValue? left = some value) :
    left.compare right = some .eq ↔ partsValue? right = some value := by
  cases left with
  | notANumber => cases rational
  | infinity sign => cases rational
  | zero sign =>
      cases rational
      cases right with
      | notANumber => exact iff_of_false (by rintro ⟨⟩) (by rintro ⟨⟩)
      | infinity sign => cases sign <;> exact iff_of_false (by rintro ⟨⟩) (by rintro ⟨⟩)
      | zero sign => exact iff_of_true rfl rfl
      | finite sign mantissa exponent positive =>
          have above := magnitude_pos positive exponent
          cases sign <;>
            exact iff_of_false (by rintro ⟨⟩) fun zero => by linarith [Option.some.inj zero]
  | finite leftSign leftMantissa leftExponent leftPositive =>
      have leftAbove := magnitude_pos leftPositive leftExponent
      cases right with
      | notANumber =>
          exact iff_of_false (by cases leftSign <;> rintro ⟨⟩) (by rintro ⟨⟩)
      | infinity sign =>
          exact iff_of_false (by cases leftSign <;> cases sign <;> rintro ⟨⟩) (by rintro ⟨⟩)
      | zero sign =>
          cases leftSign <;> cases rational <;>
            exact iff_of_false (by rintro ⟨⟩) fun zero => by linarith [Option.some.inj zero]
      | finite sign mantissa exponent positive =>
          have above := magnitude_pos positive exponent
          have parts := parts_compare_eq_iff leftCanonical rightCanonical
          cases leftSign <;> cases sign <;> cases rational
          · rw [UnpackedFloat.compare, partsValue?, Option.some_inj, Option.some_inj, neg_inj,
              ← parts, Ordering.swap_eq_eq]
          · exact iff_of_false (by rintro ⟨⟩) fun same => by linarith [Option.some.inj same]
          · exact iff_of_false (by rintro ⟨⟩) fun same => by linarith [Option.some.inj same]
          · rw [UnpackedFloat.compare, partsValue?, Option.some_inj, Option.some_inj, ← parts]

/-- **Equal numbers are the same rational number.** A number that is rational is equal, in the sense
of the machine, to the numbers that are the same rational number and to no others. -/
theorem beq_iff_rational? {left right : Float} {value : ℚ}
    (rational : rational? left = some value) :
    (left == right) = true ↔ rational? right = some value :=
  beq_iff.trans (compare_eq_iff_partsValue? (isCanonical_unpack _) (isCanonical_unpack _) rational)

/-- A number that is rational and not negative is a zero, or it has a mantissa and an exponent. -/
theorem parts_of_nonnegative {number : Float} {value : ℚ} (rational : rational? number = some value)
    (nonnegative : 0 ≤ value) :
    (∃ sign, number.toModel.unpack = .zero sign ∧ value = 0) ∨
      ∃ mantissa exponent positive,
        number.toModel.unpack = .finite .positive mantissa exponent positive ∧
          value = magnitude mantissa exponent ∧ CanonicalParts mantissa exponent := by
  have canonical : IsCanonical number.toModel.unpack := isCanonical_unpack _
  rw [rational?] at rational
  cases parts : number.toModel.unpack with
  | notANumber | infinity _ =>
      rw [parts] at rational
      cases rational
  | zero sign =>
      rw [parts] at rational
      exact Or.inl ⟨sign, rfl, (Option.some.inj rational).symm⟩
  | finite sign mantissa exponent positive =>
      rw [parts] at rational canonical
      cases sign with
      | negative =>
          have above := magnitude_pos positive exponent
          have below : -magnitude mantissa exponent = value := Option.some.inj rational
          linarith
      | positive =>
          exact Or.inr ⟨mantissa, exponent, positive, rfl, (Option.some.inj rational).symm,
            canonical⟩

/-! ## Words -/

theorem rational?_toFloat {word : UInt64} (small : word.toNat < 2 ^ 53) :
    rational? word.toFloat = some (word.toNat : ℚ) := by
  have model : word.toFloat.toModel = .pack (UnpackedFloat.ofNat .binary64 word.toNat) := rfl
  rw [rational?, model]
  rcases Nat.eq_zero_or_pos word.toNat with zero | positive
  · rw [zero, Nat.cast_zero]
    rfl
  · have length := Binary64.log2_lt_of_small positive small
    have exponent : (Binary64.fieldOf word.toNat : Int) - 1075 =
        -((52 - word.toNat.log2 : Nat) : Int) := by
      rw [Binary64.fieldOf]
      omega
    rw [Binary64.ofNat_eq positive small, Binary64.unpack_natural positive small, partsValue?,
      magnitude, Binary64.mantissaOf, exponent, zpow_neg, zpow_natCast]
    push_cast
    rw [mul_inv_cancel_right₀ (pow_ne_zero _ two_ne_zero)]

theorem shiftRight_mantissa (extended : ExtendedMantissa) (places : Nat) :
    (extended >>> places).mantissa = extended.mantissa / 2 ^ places := by
  show (Nat.repeat ExtendedMantissa.shiftRightOne places extended).mantissa = _
  induction places with
  | zero => rw [Nat.repeat, Nat.pow_zero, Nat.div_one]
  | succ places ih =>
      rw [Nat.repeat, ExtendedMantissa.shiftRightOne, ih, Nat.div_div_eq_div_mul, Nat.pow_succ]

/-- Rounding towards zero gives the whole part. -/
theorem roundToInt_eq_floor (mantissa : Nat) (exponent : Int) :
    roundToInt .positive mantissa exponent = ⌊magnitude mantissa exponent⌋₊ := by
  -- The mantissa is moved up by a positive exponent, and down by a negative one.
  have up : exponent - 0 = exponent := Int.sub_zero exponent
  have down : (0 - (exponent - exponent.toNat) : Int).toNat = (-exponent).toNat := by omega
  have quotient : magnitude mantissa exponent =
      ((mantissa * 2 ^ exponent.toNat : Nat) : ℚ) / ((2 ^ (-exponent).toNat : Nat) : ℚ) := by
    have split : exponent = exponent.toNat - (-exponent).toNat := by omega
    rw [magnitude, Nat.cast_mul, Nat.cast_pow, Nat.cast_pow, Nat.cast_two, mul_div_assoc,
      ← zpow_natCast, ← zpow_natCast, ← zpow_sub₀ two_ne_zero, ← split]
  rw [quotient, Nat.floor_div_eq_div, roundToInt, decreaseExponent]
  dsimp only
  rw [shiftToExponent]
  dsimp only
  rw [up, down, Nat.shiftLeft_eq, shiftRight_mantissa, Sign.apply,
    ExtendedMantissa.ofMantissaAndAccuracy]

theorem toInt_eq_floor {number : Float} {value : ℚ} (rational : rational? number = some value)
    (nonnegative : 0 ≤ value) (lower upper : Int) :
    number.toModel.unpack.toInt lower upper = ⌊value⌋₊ := by
  rcases parts_of_nonnegative rational nonnegative with
    ⟨sign, parts, rfl⟩ | ⟨mantissa, exponent, positive, parts, rfl, -⟩
  · rw [parts, Nat.floor_zero]
    rfl
  · rw [parts]
    exact roundToInt_eq_floor mantissa exponent

/-- **A number is converted to the word of its whole part**, or to the greatest word if that is
smaller. -/
theorem toNat_toUInt64 {number : Float} {value : ℚ} (rational : rational? number = some value)
    (nonnegative : 0 ≤ value) : number.toUInt64.toNat = min ⌊value⌋₊ (2 ^ 64 - 1) := by
  show (UInt64.ofNatClamp (number.toModel.unpack.toInt 0 (UInt64.size - 1)).toNat).toNat = _
  rw [toInt_eq_floor rational nonnegative, Int.toNat_natCast, UInt64.ofNatClamp]
  split
  next small =>
    have bound : ⌊value⌋₊ < 2 ^ 64 := small
    rw [min_eq_left (by omega)]
    rfl
  next large =>
    have bound : ¬ ⌊value⌋₊ < 2 ^ 64 := large
    rw [min_eq_right (by omega)]
    rfl

/-- A natural number that is a word is converted to itself. -/
theorem toNat_toUInt64_of_natural {number : Float} {whole : Nat}
    (natural : rational? number = some (whole : ℚ)) (small : whole < 2 ^ 64) :
    number.toUInt64.toNat = whole := by
  rw [toNat_toUInt64 natural (Nat.cast_nonneg whole), Nat.floor_natCast]
  exact min_eq_left (Nat.le_sub_one_of_lt small)

end Lisplet.Number
