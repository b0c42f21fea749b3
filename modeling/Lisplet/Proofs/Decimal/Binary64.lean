import Mathlib

/-!
# Natural numbers in binary64

A natural number below `2 ^ 53` is a binary64 number: with its bits moved up to 53 places it is a
mantissa, and the places it was moved by go into the exponent (`Float.Model.UnpackedFloat.ofNat`
under `ofNat_eq`). Nothing is rounded on the way, because a mantissa of 53 bits with any number of
zeros behind it is shifted back to itself (`roundWithAccuracy_exact`).

For the conversion `Float.ofNat`, which goes through a machine word and a multiplication by one,
this gives the three fields of the number (`toBits_ofNat`).
-/

set_option autoImplicit false

namespace Lisplet.Binary64

open Float.Model (Format UnpackedFloat totalExponent)
open Float.Model.UnpackedFloat

/-! ## Mantissas with zeros behind them -/

theorem log2_mul_two_pow {number : Nat} (nonzero : number ≠ 0) (places : Nat) :
    (number * 2 ^ places).log2 = number.log2 + places := by
  obtain ⟨low, high⟩ := (Nat.log2_eq_iff nonzero).mp rfl
  refine (Nat.log2_eq_iff (Nat.mul_ne_zero nonzero (Nat.two_pow_pos places).ne')).mpr ⟨?_, ?_⟩
  · rw [Nat.pow_add]
    exact Nat.mul_le_mul_right _ low
  · rw [Nat.add_right_comm, Nat.pow_add]
    exact Nat.mul_lt_mul_of_pos_right high (Nat.two_pow_pos places)

theorem shiftRight_mul_two_pow (mantissa places : Nat) :
    (ExtendedMantissa.mk (mantissa * 2 ^ places) false false) >>> places =
      ⟨mantissa, false, false⟩ := by
  show Nat.repeat ExtendedMantissa.shiftRightOne places _ = _
  induction places generalizing mantissa with
  | zero => rw [Nat.repeat, Nat.pow_zero, Nat.mul_one]
  | succ places ih =>
      have doubled : mantissa * 2 ^ (places + 1) = 2 * mantissa * 2 ^ places := by ring
      rw [Nat.repeat, doubled, ih, ExtendedMantissa.shiftRightOne]
      simp

section Mantissa

variable {mantissa : Nat} {exponent : Int} (places : Nat) (bits : mantissa.log2 = 52)
  (least : -1074 ≤ exponent)
include bits least

theorem shiftToTargetExponent_exact :
    shiftToTargetExponent .binary64 (mantissa * 2 ^ places) (exponent - places) .exact =
      (⟨mantissa, false, false⟩, exponent) := by
  have nonzero : mantissa ≠ 0 := by
    rintro rfl
    cases bits
  have target : Format.binary64.targetExponent
      (totalExponent (mantissa * 2 ^ places) (exponent - places)) = exponent := by
    simp [Format.targetExponent, totalExponent, Format.mantissaBits, Format.minExponent,
      log2_mul_two_pow nonzero, bits]
    omega
  have amount : (exponent - (exponent - places)).toNat = places := by omega
  rw [shiftToTargetExponent, target]
  dsimp only [shiftToExponent]
  rw [amount, ExtendedMantissa.ofMantissaAndAccuracy, shiftRight_mul_two_pow]
  congr 1
  omega

/-- **A mantissa of 53 bits is not rounded**, nor is one with zeros behind it. -/
theorem roundWithAccuracy_exact (sign : Sign) (positive : 0 < mantissa) :
    roundWithAccuracy .binary64 sign (mantissa * 2 ^ places) (exponent - places) .exact =
      .finite sign mantissa exponent positive := by
  -- The mantissa is shifted once more after it has been rounded, now by no place.
  have again := shiftToTargetExponent_exact 0 bits least
  rw [Nat.pow_zero, Nat.mul_one, Int.natCast_zero, Int.sub_zero] at again
  rw [roundWithAccuracy, shiftToTargetExponent_exact places bits least]
  dsimp only [ExtendedMantissa.roundedMantissa, ExtendedMantissa.accuracy,
    Accuracy.roundToNearestEven]
  rw [again]
  exact dif_neg positive.ne'

end Mantissa

/-! ## Normal numbers

A normal number has an exponent field other than the least and the greatest one, which stand for the
numbers without a leading bit and for those that are not finite. -/

section Normal

variable {mantissa field : Nat} (positive : 0 < mantissa) (bits : mantissa.log2 = 52)
  (least : 0 < field) (greatest : field < 2047)
include bits least greatest

theorem pack_normal :
    pack .binary64 (.finite .positive mantissa (field - 1075) positive) =
      packComponents .binary64 .positive (BitVec.ofNat 11 field) (BitVec.ofNat 52 mantissa) := by
  have biased : ((field : Int) - 1075 + ↑Format.binary64.exponentBias +
      ↑Format.binary64.mantissaBitsWithoutImplicit).toNat = field := by
    show ((field : Int) - 1075 + 1023 + 52).toNat = field
    omega
  have room : ¬ 2 ^ Format.binary64.exponentBits ≤ field + 1 := by
    show ¬ 2048 ≤ field + 1
    omega
  rw [pack, biased]
  exact (if_neg room).trans (if_pos (by rw [bits]; rfl))

theorem unpack_pack_normal :
    (Float.Model.pack (.finite .positive mantissa (field - 1075) positive)).unpack =
      .finite .positive mantissa (field - 1075) positive := by
  obtain ⟨low, high⟩ := (Nat.log2_eq_iff positive.ne').mp bits
  have fieldBits : (BitVec.ofNat 11 field).toNat = field := Nat.mod_eq_of_lt (by omega)
  have mantissaBits : (1#1 ++ BitVec.ofNat 52 mantissa).toNat = mantissa := by
    rw [BitVec.toNat_append, ← Nat.shiftLeft_add_eq_or_of_lt (BitVec.isLt _)]
    simp only [BitVec.toNat_ofNat]
    omega
  have other (value : Nat) (different : field ≠ value) (small : value < 2048) :
      BitVec.ofNat 11 field ≠ BitVec.ofNat 11 value := by
    intro same
    have numbers := congrArg BitVec.toNat same
    rw [fieldBits, BitVec.toNat_ofNat, Nat.mod_eq_of_lt small] at numbers
    exact different numbers
  have notGreatest : BitVec.ofNat 11 field ≠ -1#11 := other 2047 (by omega) (by omega)
  show unpack .binary64 (pack .binary64 _) = _
  rw [pack_normal positive bits least greatest, unpack]
  simp only [unpackMantissa_packComponents, unpackExponent_packComponents,
    unpackSign_packComponents]
  rw [if_neg notGreatest, if_neg (other 0 (by omega) (by omega))]
  simp only [mantissaBits, fieldBits]
  rfl

theorem toNat_pack_normal :
    (Float.Model.pack (.finite .positive mantissa (field - 1075) positive)).toBits.toNat =
      field * 2 ^ 52 + (mantissa - 2 ^ 52) := by
  obtain ⟨low, high⟩ := (Nat.log2_eq_iff positive.ne').mp bits
  show (pack .binary64 _).toNat = _
  rw [pack_normal positive bits least greatest, packComponents, BitVec.toNat_append,
    ← Nat.shiftLeft_add_eq_or_of_lt (BitVec.isLt _), BitVec.toNat_append,
    ← Nat.shiftLeft_add_eq_or_of_lt (BitVec.isLt _)]
  simp only [BitVec.toNat_ofNat, Sign.toBitVec, Nat.shiftLeft_eq]
  omega

end Normal

/-! ## Natural numbers -/

/-- The mantissa of a natural number: its bits, moved up to 53 places. -/
def mantissaOf (number : Nat) : Nat := number * 2 ^ (52 - number.log2)

/-- The exponent field of a natural number. -/
def fieldOf (number : Nat) : Nat := number.log2 + 1023

section Natural

theorem mantissaOf_pos {number : Nat} (positive : 0 < number) : 0 < mantissaOf number :=
  Nat.mul_pos positive (Nat.two_pow_pos _)

variable {number : Nat} (positive : 0 < number) (small : number < 2 ^ 53)
include positive small

theorem log2_lt_of_small : number.log2 < 53 := (Nat.log2_lt positive.ne').mpr small

theorem log2_mantissaOf : (mantissaOf number).log2 = 52 := by
  have length := log2_lt_of_small positive small
  rw [mantissaOf, log2_mul_two_pow positive.ne']
  omega

theorem mantissaOf_bounds : 2 ^ 52 ≤ mantissaOf number ∧ mantissaOf number < 2 ^ 53 :=
  (Nat.log2_eq_iff (mantissaOf_pos positive).ne').mp (log2_mantissaOf positive small)

theorem fieldOf_bounds : 1023 ≤ fieldOf number ∧ fieldOf number < 1076 := by
  have length := log2_lt_of_small positive small
  rw [fieldOf]
  omega

/-- The number whose mantissa and exponent are those of a natural number is packed and unpacked
unchanged. -/
theorem unpack_natural :
    (Float.Model.pack
        (.finite .positive (mantissaOf number) (fieldOf number - 1075)
          (mantissaOf_pos positive))).unpack =
      .finite .positive (mantissaOf number) (fieldOf number - 1075) (mantissaOf_pos positive) := by
  obtain ⟨least, greatest⟩ := fieldOf_bounds positive small
  exact unpack_pack_normal (mantissaOf_pos positive) (log2_mantissaOf positive small) (by omega)
    (by omega)

theorem ofNat_eq :
    UnpackedFloat.ofNat .binary64 number =
      .finite .positive (mantissaOf number) (fieldOf number - 1075) (mantissaOf_pos positive) := by
  have length := log2_lt_of_small positive small
  have least : -1074 ≤ (fieldOf number : Int) - 1075 := by
    rw [fieldOf]
    omega
  have target : Format.binary64.targetExponent (totalExponent number 0) =
      (fieldOf number : Int) - 1075 := by
    simp [Format.targetExponent, totalExponent, Format.mantissaBits, Format.minExponent, fieldOf]
    omega
  have comparison : compare (number : Int) 0 = .gt := Int.compare_eq_gt.mpr (by omega)
  have places : ((0 : Int) - ((fieldOf number : Int) - 1075)).toNat = 52 - number.log2 := by
    rw [fieldOf]
    omega
  have exponent : (0 : Int) - ((52 - number.log2 : Nat) : Int) = (fieldOf number : Int) - 1075 := by
    rw [fieldOf]
    omega
  have exact := roundWithAccuracy_exact 0 (log2_mantissaOf positive small) least .positive
    (mantissaOf_pos positive)
  rw [Nat.pow_zero, Nat.mul_one, Int.natCast_zero, Int.sub_zero] at exact
  rw [UnpackedFloat.ofNat, UnpackedFloat.ofInt, UnpackedFloat.normalize, comparison]
  dsimp only
  rw [Int.toNat_natCast, UnpackedFloat.round, target, decreaseExponent, places]
  dsimp only
  rw [Nat.shiftLeft_eq, exponent]
  exact exact

theorem toModel_ofNat :
    (Float.ofNat number).toModel =
      .pack (.finite .positive (mantissaOf number) (fieldOf number - 1075)
        (mantissaOf_pos positive)) := by
  have least : -1074 ≤ (fieldOf number : Int) - 1075 := by
    rw [fieldOf]
    omega
  -- A small number is converted through a machine word, and scaled by no place.
  have unfolded : Float.ofNat number = number.toUInt64.toFloat * Float.ofBits 4607182418800017408 :=
    dif_pos ⟨small, by decide⟩
  have one : (Float.ofBits 4607182418800017408).toModel.unpack =
      .finite .positive (2 ^ 52) (-(52 : Nat)) (by decide) := rfl
  have word : number.toUInt64.toNat = number :=
    UInt64.toNat_ofNat_of_lt (small.trans (by decide))
  have converted : number.toUInt64.toFloat.toModel.unpack =
      .finite .positive (mantissaOf number) (fieldOf number - 1075) (mantissaOf_pos positive) := by
    show (Float.Model.pack (UnpackedFloat.ofNat .binary64 number.toUInt64.toNat)).unpack = _
    rw [word, ofNat_eq positive small]
    exact unpack_natural positive small
  have rounded := roundWithAccuracy_exact 52 (log2_mantissaOf positive small) least .positive
    (mantissaOf_pos positive)
  rw [unfolded]
  show Float.Model.pack (UnpackedFloat.mul .binary64 number.toUInt64.toFloat.toModel.unpack
    (Float.ofBits 4607182418800017408).toModel.unpack) = _
  rw [converted, one, UnpackedFloat.mul, ← Int.sub_eq_add_neg]
  exact congrArg _ rounded

/-- **The bits of a natural number**: no sign, its exponent field, and its mantissa without the
leading bit. -/
theorem toBits_ofNat : (Float.ofNat number).toBits.toNat =
    fieldOf number * 2 ^ 52 + (mantissaOf number - 2 ^ 52) := by
  obtain ⟨least, greatest⟩ := fieldOf_bounds positive small
  rw [Float.toBits, toModel_ofNat positive small]
  exact toNat_pack_normal (mantissaOf_pos positive) (log2_mantissaOf positive small) (by omega)
    (by omega)

end Natural

theorem isNaN_ofNat {number : Nat} (small : number < 2 ^ 53) :
    (Float.ofNat number).isNaN = false := by
  rcases Nat.eq_zero_or_pos number with rfl | positive
  · rfl
  · show (Float.ofNat number).toModel.unpack.isNaN = false
    rw [toModel_ofNat positive small, unpack_natural positive small]
    rfl

end Lisplet.Binary64
