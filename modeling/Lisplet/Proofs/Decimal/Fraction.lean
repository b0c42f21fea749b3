import Lisplet.Proofs.Decimal.ExactValue
import Mathlib

/-!
# Differences and fractions

The fraction of a number is its difference from the number cut off at the point, and a difference is
rounded. Yet it is never rounded to zero: the least exponent is the one that the difference of two
numbers can have at least, so a mantissa that is not zero keeps its first bit (`round_fits`), and
its bits are not packed into those of a zero (`unpack_pack_finite_ne_zero`). A difference is
therefore zero exactly when the two numbers are the same rational number (`sub_beq_zero_iff`).

A number that is not negative is cut off to its whole part (`rational?_truncated`), through a
machine word below `2 ^ 52` and as it stands from there on, where the exponent leaves no room for a
fraction. So it has no fraction exactly when it is a natural number (`fraction_beq_zero_iff`).
-/

set_option autoImplicit false

namespace Lisplet.Number

open Float.Model (Format UnpackedFloat totalExponent)
open Float.Model.UnpackedFloat

/-! ## Rounding keeps a number from becoming zero -/

theorem le_roundedMantissa (extended : ExtendedMantissa) :
    extended.mantissa ≤ extended.roundedMantissa := by
  obtain ⟨mantissa, round, sticky⟩ := extended
  cases round <;> cases sticky <;>
    simp [ExtendedMantissa.roundedMantissa, ExtendedMantissa.accuracy,
      Accuracy.roundToNearestEven]

/-- A mantissa that fits, at an exponent that is not too small. -/
def Fits : UnpackedFloat → Prop
  | .finite _ mantissa exponent _ => mantissa < 2 ^ 53 ∧ -1074 ≤ exponent
  | _ => True

theorem IsCanonical.fits {parts : UnpackedFloat} (canonical : IsCanonical parts) : Fits parts := by
  cases parts with
  | finite _ _ _ _ => exact ⟨canonical.small, canonical.least⟩
  | zero _ | infinity _ | notANumber => trivial

section Rounding

variable {mantissa : Nat} {exponent : Int} (positive : 0 < mantissa) (least : -1074 ≤ exponent)
include positive least

/-- A mantissa is shifted to at most 53 bits, and its first bit is not lost. -/
theorem shiftToTargetExponent_fits :
    let shifted := shiftToTargetExponent .binary64 mantissa exponent .exact
    0 < shifted.1.mantissa ∧ shifted.1.mantissa < 2 ^ 53 ∧ -1074 ≤ shifted.2 := by
  have low := Nat.log2_self_le positive.ne'
  have high := Nat.lt_log2_self (n := mantissa)
  have target : Format.binary64.targetExponent (totalExponent mantissa exponent) =
      max (mantissa.log2 + 1 + exponent - 53) (-1074) := rfl
  rw [shiftToTargetExponent, target]
  dsimp only [shiftToExponent]
  rw [shiftRight_mantissa, ExtendedMantissa.ofMantissaAndAccuracy]
  dsimp only
  generalize amount : (max ((mantissa.log2 : Int) + 1 + exponent - 53) (-1074) - exponent).toNat =
    places
  have enough : mantissa.log2 ≤ 52 + places := by omega
  have notAll : places ≤ mantissa.log2 := by omega
  refine ⟨Nat.div_pos ((Nat.pow_le_pow_right two_pos notAll).trans low) (Nat.two_pow_pos places),
    ?_, by omega⟩
  rw [Nat.div_lt_iff_lt_mul (Nat.two_pow_pos places), ← Nat.pow_add]
  exact high.trans_le (Nat.pow_le_pow_right two_pos (by omega))

/-- A positive mantissa is rounded to a positive one. -/
theorem roundWithAccuracy_fits (sign : Sign) :
    ∃ rounded moved, ∃ above : 0 < rounded,
      roundWithAccuracy .binary64 sign mantissa exponent .exact = .finite sign rounded moved above ∧
        Fits (.finite sign rounded moved above) := by
  obtain ⟨first₁, -, least₁⟩ := shiftToTargetExponent_fits positive least
  obtain ⟨above, small, least₂⟩ :=
    shiftToTargetExponent_fits (first₁.trans_le (le_roundedMantissa _)) least₁
  refine ⟨_, _, above, ?_, small, least₂⟩
  rw [roundWithAccuracy]
  exact dif_neg above.ne'

/-- **A number that is not zero is not rounded to zero**, unless its exponent is too small. -/
theorem round_fits (sign : Sign) :
    ∃ rounded moved, ∃ above : 0 < rounded,
      UnpackedFloat.round .binary64 sign mantissa exponent = .finite sign rounded moved above ∧
        Fits (.finite sign rounded moved above) := by
  have target : -1074 ≤ Format.binary64.targetExponent (totalExponent mantissa exponent) :=
    le_max_right _ _
  rw [UnpackedFloat.round, decreaseExponent]
  dsimp only
  rw [Nat.shiftLeft_eq]
  exact roundWithAccuracy_fits (Nat.mul_pos positive (Nat.two_pow_pos _)) (by omega) sign

end Rounding

/-! ## Zero -/

theorem partsValue?_eq_zero_iff {parts : UnpackedFloat} :
    partsValue? parts = some 0 ↔ ∃ sign, parts = .zero sign := by
  cases parts with
  | notANumber => exact iff_of_false (by rintro ⟨⟩) (by rintro ⟨_, ⟨⟩⟩)
  | infinity sign => exact iff_of_false (by rintro ⟨⟩) (by rintro ⟨_, ⟨⟩⟩)
  | zero sign => exact iff_of_true rfl ⟨sign, rfl⟩
  | finite sign mantissa exponent positive =>
      have above := magnitude_pos positive exponent
      refine iff_of_false (fun zero => ?_) (by rintro ⟨_, ⟨⟩⟩)
      cases sign <;> linarith [Option.some.inj zero]

theorem finite_ne_zero (sign : Sign) {mantissa : Nat} (exponent : Int) (positive : 0 < mantissa) :
    partsValue? (.finite sign mantissa exponent positive) ≠ some 0 := by
  rw [Ne, partsValue?_eq_zero_iff]
  rintro ⟨_, ⟨⟩⟩

/-- In the bits of a zero, the fields of the exponent and of the mantissa are zero. -/
theorem fields_of_unpack_eq_zero {bits : BitVec (Format.numBits .binary64)} {sign : Sign}
    (zero : unpack .binary64 bits = .zero sign) :
    (unpackExponent bits).toNat = 0 ∧ (unpackMantissa bits).toNat = 0 := by
  rw [unpack] at zero
  dsimp only at zero
  split_ifs at zero with greatest noMantissa least noBit
  rw [least, noBit]
  exact ⟨rfl, rfl⟩

theorem unpack_pack_finite_ne_zero {mantissa : Nat} {exponent : Int} (sign other : Sign)
    (positive : 0 < mantissa) (small : mantissa < 2 ^ 53) (least : -1074 ≤ exponent) :
    unpack .binary64 (pack .binary64 (.finite sign mantissa exponent positive)) ≠ .zero other := by
  intro zero
  obtain ⟨noExponent, noMantissa⟩ := fields_of_unpack_eq_zero zero
  have bias : exponent + (Format.exponentBias .binary64 : Int) +
      (Format.mantissaBitsWithoutImplicit .binary64 : Int) = exponent + 1075 := by
    rw [Int.add_assoc]
    rfl
  rw [pack, bias] at noExponent noMantissa
  dsimp only at noExponent noMantissa
  split_ifs at noExponent noMantissa with great normal
  · rw [packedInfinity, unpackExponent_packComponents] at noExponent
    cases noExponent
  · -- The exponent field is positive.
    have room : ¬ 2048 ≤ (exponent + 1075).toNat + 1 := great
    rw [unpackExponent_packComponents, BitVec.toNat_ofNat] at noExponent
    have field : (exponent + 1075).toNat % 2048 = 0 := noExponent
    omega
  · -- There is no leading bit, so all bits of the mantissa are in its field.
    have length : mantissa.log2 < 52 := by
      have shorter : mantissa.log2 < 53 := (Nat.log2_lt positive.ne').mpr small
      have other : mantissa.log2 + 1 ≠ 53 := normal
      omega
    have fits : mantissa < 2 ^ 52 := (Nat.log2_lt positive.ne').mp length
    rw [unpackMantissa_packComponents, BitVec.toNat_ofNat] at noMantissa
    have field : mantissa % 2 ^ 52 = 0 := noMantissa
    omega

/-- What fits is packed into a zero only if it is zero. -/
theorem partsValue?_pack_eq_zero_iff {parts : UnpackedFloat} (fits : Fits parts) :
    partsValue? (unpack .binary64 (pack .binary64 parts)) = some 0 ↔
      partsValue? parts = some 0 := by
  cases parts with
  | notANumber => exact iff_of_false (by rintro ⟨⟩) (by rintro ⟨⟩)
  | infinity sign =>
      exact iff_of_false (by cases sign <;> rintro ⟨⟩) (by rintro ⟨⟩)
  | zero sign => exact iff_of_true (by cases sign <;> rfl) rfl
  | finite sign mantissa exponent positive =>
      rw [partsValue?_eq_zero_iff, partsValue?_eq_zero_iff]
      refine iff_of_false ?_ (by rintro ⟨_, ⟨⟩⟩)
      rintro ⟨other, zero⟩
      exact unpack_pack_finite_ne_zero sign other positive fits.1 fits.2 zero

/-! ## Differences -/

/-- The rational number that a number with a sign, a mantissa and an exponent is. -/
theorem partsValue?_finite (sign : Sign) {mantissa : Nat} (exponent : Int)
    (positive : 0 < mantissa) :
    partsValue? (.finite sign mantissa exponent positive) =
      some ((sign.apply mantissa : ℤ) * 2 ^ exponent : ℚ) := by
  cases sign with
  | positive => rw [partsValue?, magnitude, Sign.apply, Int.cast_natCast]
  | negative => rw [partsValue?, magnitude, Sign.apply, Int.cast_neg, Int.cast_natCast, neg_mul]

/-- With a smaller exponent a number has a greater mantissa. -/
theorem apply_decreaseExponent (sign : Sign) (mantissa : Nat) {exponent smaller : Int}
    (le : smaller ≤ exponent) :
    ((sign.apply (decreaseExponent mantissa exponent smaller).1 : ℤ) : ℚ) * 2 ^ smaller =
      (sign.apply mantissa : ℤ) * 2 ^ exponent := by
  obtain ⟨places, rfl⟩ := Int.le.dest le
  have amount : (smaller + (places : Int) - smaller).toNat = places := by omega
  rw [decreaseExponent]
  dsimp only
  rw [amount, Nat.shiftLeft_eq, zpow_add₀ two_ne_zero, zpow_natCast]
  cases sign <;> rw [Sign.apply, Sign.apply] <;> push_cast <;> ring

theorem normalize_fits (mantissa : Int) {exponent : Int} (least : -1074 ≤ exponent) (sign : Sign) :
    Fits (normalize .binary64 mantissa exponent sign) ∧
      (partsValue? (normalize .binary64 mantissa exponent sign) = some 0 ↔ mantissa = 0) := by
  rw [UnpackedFloat.normalize, partsValue?_eq_zero_iff]
  rcases lt_trichotomy mantissa 0 with below | rfl | above
  · have positive : 0 < (-mantissa).toNat := by omega
    obtain ⟨_, _, _, rounded, fits⟩ := round_fits positive least .negative
    rw [compare_lt_iff_lt.mpr below]
    dsimp only
    rw [rounded]
    exact ⟨fits, iff_of_false (by rintro ⟨_, ⟨⟩⟩) below.ne⟩
  · exact ⟨trivial, iff_of_true ⟨sign, rfl⟩ rfl⟩
  · have positive : 0 < mantissa.toNat := by omega
    obtain ⟨_, _, _, rounded, fits⟩ := round_fits positive least .positive
    rw [compare_gt_iff_gt.mpr above]
    dsimp only
    rw [rounded]
    exact ⟨fits, iff_of_false (by rintro ⟨_, ⟨⟩⟩) above.ne'⟩

/-- Two finite numbers are brought to the smaller exponent, and their mantissas are subtracted. -/
theorem sub_finite_fits (sign other : Sign) {mantissa otherMantissa : Nat}
    {exponent otherExponent : Int} (positive : 0 < mantissa) (otherPositive : 0 < otherMantissa)
    (least : -1074 ≤ min exponent otherExponent) :
    let left : UnpackedFloat := .finite sign mantissa exponent positive
    let right : UnpackedFloat := .finite other otherMantissa otherExponent otherPositive
    Fits (UnpackedFloat.sub .binary64 left right) ∧
      (partsValue? (UnpackedFloat.sub .binary64 left right) = some 0 ↔
        partsValue? left = partsValue? right) := by
  intro left right
  have scaled := apply_decreaseExponent sign mantissa (min_le_left exponent otherExponent)
  have otherScaled :=
    apply_decreaseExponent other otherMantissa (min_le_right exponent otherExponent)
  have normalized := normalize_fits
    (sign.apply (decreaseExponent mantissa exponent (min exponent otherExponent)).1 -
      other.apply (decreaseExponent otherMantissa otherExponent (min exponent otherExponent)).1)
    least .positive
  refine ⟨normalized.1, normalized.2.trans ?_⟩
  rw [partsValue?_finite, partsValue?_finite, ← scaled, ← otherScaled, sub_eq_zero,
    Option.some_inj, mul_left_inj' (zpow_ne_zero _ two_ne_zero), Int.cast_inj]

/-- The difference of two numbers fits, and is zero exactly when they are the same rational
number. -/
theorem sub_fits {left right : UnpackedFloat} (leftFits : Fits left) (rightFits : Fits right) :
    Fits (UnpackedFloat.sub .binary64 left right) ∧
      (partsValue? (UnpackedFloat.sub .binary64 left right) = some 0 ↔
        ∃ value, partsValue? left = some value ∧ partsValue? right = some value) := by
  cases left with
  | notANumber => exact ⟨trivial, iff_of_false (by rintro ⟨⟩) (by rintro ⟨_, ⟨⟩, _⟩)⟩
  | infinity sign =>
      cases right with
      | infinity other =>
          cases sign <;> cases other <;>
            exact ⟨trivial, iff_of_false (by rintro ⟨⟩) (by rintro ⟨_, ⟨⟩, _⟩)⟩
      | notANumber | zero _ | finite _ _ _ _ =>
          exact ⟨trivial, iff_of_false (by rintro ⟨⟩) (by rintro ⟨_, ⟨⟩, _⟩)⟩
  | zero sign =>
      cases right with
      | notANumber | infinity _ =>
          exact ⟨trivial, iff_of_false (by rintro ⟨⟩) (by rintro ⟨_, _, ⟨⟩⟩)⟩
      | zero other =>
          cases sign <;> cases other <;> exact ⟨trivial, iff_of_true rfl ⟨0, rfl, rfl⟩⟩
      | finite other mantissa exponent positive =>
          refine ⟨rightFits, iff_of_false (finite_ne_zero (-other) exponent positive) ?_⟩
          rintro ⟨_, ⟨⟩, zero⟩
          exact finite_ne_zero other exponent positive zero
  | finite sign mantissa exponent positive =>
      cases right with
      | notANumber | infinity _ =>
          exact ⟨trivial, iff_of_false (by rintro ⟨⟩) (by rintro ⟨_, _, ⟨⟩⟩)⟩
      | zero other =>
          refine ⟨leftFits, iff_of_false (finite_ne_zero sign exponent positive) ?_⟩
          rintro ⟨_, zero, ⟨⟩⟩
          exact finite_ne_zero sign exponent positive zero
      | finite other otherMantissa otherExponent otherPositive =>
          obtain ⟨fits, same⟩ := sub_finite_fits sign other positive otherPositive
            (le_min leftFits.2 rightFits.2)
          refine ⟨fits, same.trans ⟨fun equal => ?_, ?_⟩⟩
          · exact ⟨_, partsValue?_finite sign exponent positive,
              equal ▸ partsValue?_finite sign exponent positive⟩
          · rintro ⟨_, found, otherFound⟩
            rw [found, otherFound]

/-- **A difference is zero only between equal numbers.** -/
theorem sub_beq_zero_iff {left right : Float} :
    (left - right == 0) = true ↔
      ∃ value, rational? left = some value ∧ rational? right = some value := by
  have leftFits := (isCanonical_unpack left.toModel.toBits.toBitVec).fits
  have rightFits := (isCanonical_unpack right.toModel.toBits.toBitVec).fits
  obtain ⟨fits, zero⟩ := sub_fits leftFits rightFits
  have nothing : rational? 0 = some 0 := rfl
  rw [BEq.comm, beq_iff_rational? nothing]
  exact (partsValue?_pack_eq_zero_iff fits).trans zero

/-! ## Fractions -/

/-- A number that is rational is negative exactly when the rational number is. -/
theorem zero_le_iff {number : Float} {value : ℚ} (rational : rational? number = some value) :
    0 ≤ number ↔ 0 ≤ value := by
  have compared : 0 ≤ number ↔
      ((UnpackedFloat.zero .positive).compare number.toModel.unpack).any (·.isLE) = true := by
    show decide (((0 : Float).toModel.unpack.compare number.toModel.unpack).any (·.isLE) = true) =
      true ↔ _
    rw [decide_eq_true_iff]
    rfl
  rw [compared]
  rw [rational?] at rational
  cases parts : number.toModel.unpack with
  | notANumber | infinity _ =>
      rw [parts] at rational
      cases rational
  | zero sign =>
      rw [parts] at rational
      cases rational
      exact iff_of_true rfl le_rfl
  | finite sign mantissa exponent positive =>
      rw [parts] at rational
      have above := magnitude_pos positive exponent
      cases sign <;> cases rational
      · exact iff_of_false (by rintro ⟨⟩) (by linarith)
      · exact iff_of_true rfl above.le

/-- Below `2 ^ 52` the exponent is at most zero, and from there on at least zero. -/
theorem lt_twoPow52_iff {number : Float} {mantissa : Nat} {exponent : Int} {positive : 0 < mantissa}
    (parts : number.toModel.unpack = .finite .positive mantissa exponent positive) :
    number < 4503599627370496 ↔ exponent < 0 ∨ exponent = 0 ∧ mantissa < 2 ^ 52 := by
  have bound : (4503599627370496 : Float).toModel.unpack =
      .finite .positive (2 ^ 52) 0 (by decide) :=
    rfl
  rw [lt_iff, order?, parts, bound, UnpackedFloat.compare, Option.some_inj, Ordering.then_eq_lt,
    compare_lt_iff_lt, compare_eq_iff_eq, compare_lt_iff_lt]

theorem magnitude_le {mantissa : Nat} {exponent : Int} (nonpositive : exponent ≤ 0) :
    magnitude mantissa exponent ≤ mantissa :=
  mul_le_of_le_one_right (Nat.cast_nonneg mantissa) (zpow_le_one_of_nonpos₀ one_le_two nonpositive)

/-- Without a negative exponent there is no fraction. -/
theorem magnitude_eq_floor {mantissa : Nat} {exponent : Int} (nonnegative : 0 ≤ exponent) :
    magnitude mantissa exponent = ⌊magnitude mantissa exponent⌋₊ := by
  obtain ⟨places, rfl⟩ := Int.eq_ofNat_of_zero_le nonnegative
  have natural : magnitude mantissa places = ((mantissa * 2 ^ places : Nat) : ℚ) := by
    rw [magnitude, zpow_natCast, Nat.cast_mul, Nat.cast_pow, Nat.cast_two]
  rw [natural, Nat.floor_natCast]

/-- Below `2 ^ 52` a number has a small whole part, and from there on it is its whole part. -/
theorem floor_small_or_eq {number : Float} {value : ℚ} (rational : rational? number = some value)
    (nonnegative : 0 ≤ value) :
    (number < 4503599627370496 → ⌊value⌋₊ < 2 ^ 53) ∧
      (¬ number < 4503599627370496 → value = ⌊value⌋₊) := by
  rcases parts_of_nonnegative rational nonnegative with
    ⟨sign, parts, rfl⟩ | ⟨mantissa, exponent, positive, parts, rfl, canonical⟩
  · rw [Nat.floor_zero]
    exact ⟨fun _ => Nat.two_pow_pos 53, fun _ => Nat.cast_zero.symm⟩
  · rw [lt_twoPow52_iff parts]
    constructor
    · intro small
      have nonpositive : exponent ≤ 0 := by omega
      exact (Nat.floor_le_of_le (magnitude_le nonpositive)).trans_lt canonical.small
    · intro large
      exact magnitude_eq_floor (by omega)

/-- **A number that is not negative is cut off to its whole part.** -/
theorem rational?_truncated {number : Float} {value : ℚ} (rational : rational? number = some value)
    (nonnegative : 0 ≤ value) : rational? (truncated number) = some (⌊value⌋₊ : ℚ) := by
  obtain ⟨small, large⟩ := floor_small_or_eq rational nonnegative
  rw [truncated, if_pos ((zero_le_iff rational).mpr nonnegative)]
  split
  next below =>
    have word : number.toUInt64.toNat = ⌊value⌋₊ := by
      rw [toNat_toUInt64 rational nonnegative]
      exact min_eq_left ((small below).le.trans (by decide))
    rw [rational?_toFloat (by rw [word]; exact small below), word]
  next notBelow => rw [← large notBelow, rational]

/-- **A number that is not negative has no fraction exactly when it is a natural number.** -/
theorem fraction_beq_zero_iff {number : Float} (nonnegative : 0 ≤ number) :
    (fraction number == 0) = true ↔ ∃ whole : Nat, rational? number = some (whole : ℚ) := by
  rw [fraction, sub_beq_zero_iff]
  constructor
  · rintro ⟨value, rational, cut⟩
    have above := (zero_le_iff rational).mp nonnegative
    rw [rational?_truncated rational above, Option.some_inj] at cut
    exact ⟨⌊value⌋₊, by rw [cut, rational]⟩
  · rintro ⟨whole, natural⟩
    refine ⟨whole, natural, ?_⟩
    rw [rational?_truncated natural (Nat.cast_nonneg whole), Nat.floor_natCast]

end Lisplet.Number
