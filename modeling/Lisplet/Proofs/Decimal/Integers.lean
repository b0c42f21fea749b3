import Lisplet.Decimal.NumberText
import Lisplet.Proofs.Decimal.Binary64
import Mathlib

/-!
# The text of integers

A natural number below `2 ^ 53` is written with its own decimal digits (`numberText_ofNat`).

The numbers that round to it lie closer to it than the integers next to it
(`Neighbourhood.AroundNatural`). So on the grid of step `10 ^ place` there is a point among them
exactly when the step divides the number, and it is the number itself
(`Neighbourhood.point?_natural`). The search for the coarsest grid therefore ends at the latest at
step one, with the number less its final zeros, and writing it puts the zeros back.
-/

set_option autoImplicit false

namespace Lisplet.Decimal

open Binary64

theorem toDigits_mul_ten_pow {number : Nat} (positive : 0 < number) (places : Nat) :
    Nat.toDigits 10 (number * 10 ^ places) =
      Nat.toDigits 10 number ++ List.replicate places '0' := by
  induction places with
  | zero => simp
  | succ places ih =>
      have zero : Nat.toDigits 10 0 = ['0'] := rfl
      have shifted : number * 10 ^ (places + 1) = 10 * (number * 10 ^ places) + 0 := by ring
      have next : Nat.toDigits 10 (number * 10 ^ places) ++ Nat.toDigits 10 0 =
          Nat.toDigits 10 (10 * (number * 10 ^ places) + 0) :=
        Nat.toDigits_append_toDigits (by decide) (by positivity) (by decide)
      rw [shifted, ← next, ih, zero, List.append_assoc, List.replicate_succ']

/-! ## The grids that have a point at the number -/

namespace Neighbourhood

/-- The numbers that round to a natural number do not reach to the integers next to it. All of them
are counted in units of a power of two, of which `unit` make one. -/
structure AroundNatural (neighbourhood : Neighbourhood) (number unit : Nat) : Prop where
  value : neighbourhood.value = number * unit
  low : neighbourhood.value < neighbourhood.low + unit
  below : neighbourhood.low < neighbourhood.value
  high : neighbourhood.high < neighbourhood.value + unit
  exponent : neighbourhood.exponent.toNat = 0
  units : 2 ^ (-neighbourhood.exponent).toNat = unit

variable {neighbourhood : Neighbourhood} {number unit : Nat}

theorem AroundNatural.scale (around : neighbourhood.AroundNatural number unit) (place : Nat) :
    neighbourhood.scale place = (1, unit * 10 ^ place) := by
  rw [Neighbourhood.scale, around.exponent, Int.toNat_natCast]
  show ((1 : Nat) * _ , 2 ^ _ * 10 ^ place) = _
  rw [around.units, Int.toNat_eq_zero.mpr (by omega)]

/-- The next point above the number on a grid of whole steps is too high. -/
theorem AroundNatural.high_lt (around : neighbourhood.AroundNatural number unit) (place : Nat) :
    neighbourhood.high < (number / 10 ^ place + 1) * (unit * 10 ^ place) := by
  have above : number + 1 ≤ (number / 10 ^ place + 1) * 10 ^ place := by
    rw [Nat.succ_mul]
    exact Nat.lt_div_mul_add (by positivity)
  calc neighbourhood.high < (number + 1) * unit := by
        rw [Nat.succ_mul, ← around.value]
        exact around.high
    _ ≤ (number / 10 ^ place + 1) * 10 ^ place * unit := Nat.mul_le_mul_right unit above
    _ = (number / 10 ^ place + 1) * (unit * 10 ^ place) := by ring

/-- The next point below the number, unless it is the number, is too low. -/
theorem AroundNatural.lt_low (around : neighbourhood.AroundNatural number unit) {place : Nat}
    (rest : ¬ 10 ^ place ∣ number) :
    number / 10 ^ place * (unit * 10 ^ place) < neighbourhood.low := by
  have less : number / 10 ^ place * 10 ^ place + 1 ≤ number :=
    Nat.lt_of_le_of_ne (Nat.div_mul_le_self _ _) fun whole => rest ⟨_, by rw [Nat.mul_comm, whole]⟩
  have lower : number / 10 ^ place * (unit * 10 ^ place) + unit ≤ neighbourhood.value := by
    calc number / 10 ^ place * (unit * 10 ^ place) + unit
        = (number / 10 ^ place * 10 ^ place + 1) * unit := by ring
      _ ≤ number * unit := Nat.mul_le_mul_right unit less
      _ = neighbourhood.value := around.value.symm
  have low := around.low
  omega

theorem point?_natural (around : neighbourhood.AroundNatural number unit) (place : Nat) :
    neighbourhood.point? place =
      if 10 ^ place ∣ number then some (number / 10 ^ place) else none := by
  have positive : 0 < unit := by
    have below := around.below
    have low := around.low
    omega
  have quotient : neighbourhood.value / (unit * 10 ^ place) = number / 10 ^ place := by
    rw [around.value, Nat.mul_comm number, Nat.mul_div_mul_left _ _ positive]
  have tooHigh := around.high_lt place
  have highMisfits : ¬ (if neighbourhood.closed = true then
      (number / 10 ^ place + 1) * (unit * 10 ^ place) ≤ neighbourhood.high
    else (number / 10 ^ place + 1) * (unit * 10 ^ place) < neighbourhood.high) := by
    split <;> omega
  rw [point?, around.scale]
  dsimp only
  rw [Nat.mul_one, Nat.mul_one, Nat.mul_one, quotient, if_neg highMisfits]
  by_cases divides : 10 ^ place ∣ number
  · have itself : number / 10 ^ place * (unit * 10 ^ place) = neighbourhood.value := by
      rw [Nat.mul_left_comm, Nat.div_mul_cancel divides, around.value, Nat.mul_comm]
    have below := around.below
    have lowFits : if neighbourhood.closed = true then
        neighbourhood.low ≤ number / 10 ^ place * (unit * 10 ^ place)
      else neighbourhood.low < number / 10 ^ place * (unit * 10 ^ place) := by
      rw [itself]
      split <;> omega
    rw [if_pos divides, if_pos ⟨lowFits, fun fits => highMisfits fits.1⟩]
  · have tooLow := around.lt_low divides
    have lowMisfits : ¬ (if neighbourhood.closed = true then
        neighbourhood.low ≤ number / 10 ^ place * (unit * 10 ^ place)
      else neighbourhood.low < number / 10 ^ place * (unit * 10 ^ place)) := by
      split <;> omega
    rw [if_neg divides, if_neg fun fits => lowMisfits fits.1]

/-- The search from some place down finds the number less its final zeros, before it comes below
step one. -/
theorem search_natural (around : neighbourhood.AroundNatural number unit) (place more : Nat) :
    ∃ digits zeros : Nat, neighbourhood.search (place + 1 + more) place = some ⟨digits, zeros⟩ ∧
      number = digits * 10 ^ zeros := by
  induction place with
  | zero =>
      refine ⟨number, 0, ?_, by simp⟩
      rw [Nat.zero_add, Nat.add_comm, search, point?_natural around]
      simp
  | succ place ih =>
      rw [Nat.add_right_comm, search, point?_natural around]
      by_cases divides : 10 ^ (place + 1) ∣ number
      · rw [if_pos divides]
        exact ⟨_, _, rfl, (Nat.div_mul_cancel divides).symm⟩
      · rw [if_neg divides]
        dsimp only
        rw [Int.natCast_succ, Int.add_sub_cancel]
        exact ih

/-- The neighbourhood of a natural number, from its mantissa and its exponent. The numbers reach two
units to either side, or one down from a power of two, and at least four make one. -/
theorem aroundNatural_ofParts {number : Nat} (positive : 0 < number) (small : number < 2 ^ 53)
    (atPowerOfTwo : Bool) :
    (ofParts (mantissaOf number)
      (leastExponent + fieldOf number - 1) atPowerOfTwo).AroundNatural number
      (2 ^ (54 - number.log2)) := by
  have length := log2_lt_of_small positive small
  obtain ⟨leading, _⟩ := mantissaOf_bounds positive small
  have whole : 4 * mantissaOf number = number * 2 ^ (54 - number.log2) := by
    have more : 54 - number.log2 = 52 - number.log2 + 2 := by omega
    rw [mantissaOf, more, Nat.pow_add]
    ring
  have unit : 2 ^ 2 ≤ 2 ^ (54 - number.log2) := Nat.pow_le_pow_right (by decide) (by omega)
  have exponent : leastExponent + (fieldOf number : Int) - 1 - 2 =
      -((54 - number.log2 : Nat) : Int) := by
    rw [leastExponent, fieldOf]
    omega
  exact {
    value := whole
    low := by
      show 4 * mantissaOf number < 4 * mantissaOf number - _ + _
      split <;> omega
    below := by
      show 4 * mantissaOf number - _ < 4 * mantissaOf number
      split <;> omega
    high := by
      show 4 * mantissaOf number + 2 < 4 * mantissaOf number + _
      omega
    exponent := by
      show (leastExponent + (fieldOf number : Int) - 1 - 2).toNat = 0
      rw [exponent]
      omega
    units := by
      show 2 ^ (-(leastExponent + (fieldOf number : Int) - 1 - 2)).toNat = _
      rw [exponent, Int.neg_neg, Int.toNat_natCast] }

end Neighbourhood

/-! ## The text -/

theorem magnitudeText_natural {number : Nat} (positive : 0 < number) (small : number < 2 ^ 53) :
    magnitudeText (fieldOf number) (mantissaOf number - 2 ^ 52) = Nat.toDigits 10 number := by
  obtain ⟨least, greatest⟩ := fieldOf_bounds positive small
  obtain ⟨leading, _⟩ := mantissaOf_bounds positive small
  have notInfinite : ¬ fieldOf number + 1 = exponentFields := by
    rw [exponentFields]
    omega
  have notLeast : ¬ fieldOf number = 0 := by omega
  have mantissa : mantissaOf number - 2 ^ 52 + fractions = mantissaOf number := by
    rw [fractions]
    omega
  rw [magnitudeText, if_neg notInfinite, if_neg fun zero => notLeast zero.1, if_neg notLeast,
    if_neg notLeast]
  dsimp only
  rw [mantissa, Neighbourhood.shortest?, Nat.add_right_comm]
  obtain ⟨digits, zeros, found, whole⟩ :=
    Neighbourhood.search_natural (Neighbourhood.aroundNatural_ofParts positive small _) _
      Neighbourhood.lastPlace
  have nonzero : 0 < digits := by
    rcases Nat.eq_zero_or_pos digits with rfl | nonzero
    · omega
    · exact nonzero
  rw [found]
  dsimp only [Point.text]
  rw [if_pos (Int.natCast_nonneg zeros), Int.toNat_natCast, whole]
  exact (toDigits_mul_ten_pow nonzero zeros).symm

/-- **A natural number below `2 ^ 53` is written with its decimal digits.** -/
theorem numberText_ofNat {number : Nat} (small : number < 2 ^ 53) :
    numberText (Float.ofNat number) = Nat.toDigits 10 number := by
  rcases Nat.eq_zero_or_pos number with rfl | positive
  · decide +kernel
  obtain ⟨least, greatest⟩ := fieldOf_bounds positive small
  obtain ⟨leading, bounded⟩ := mantissaOf_bounds positive small
  have quotient : (Float.ofNat number).toBits.toNat / fractions = fieldOf number := by
    rw [toBits_ofNat positive small, fractions]
    omega
  have remainder : (Float.ofNat number).toBits.toNat % fractions = mantissaOf number - 2 ^ 52 := by
    rw [toBits_ofNat positive small, fractions]
    omega
  have unsigned : fieldOf number < exponentFields := by
    rw [exponentFields]
    omega
  rw [numberText, quotient, remainder, Nat.mod_eq_of_lt unsigned, if_pos (.inl unsigned)]
  exact magnitudeText_natural positive small

end Lisplet.Decimal
