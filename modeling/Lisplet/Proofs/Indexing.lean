import Lisplet.Proofs.Decimal.Fraction
import Mathlib

/-!
# Elements and their indices

An index points to a position when it is a number and, as a rational number, that position
(`PointsTo`). Which position this is, is found by three steps: the index is not negative, it has no
fraction, and it is converted to a machine word. Below `2 ^ 53`, where every word is a number, this
finds the position that the index points to and nothing else (`position?_eq_some_iff`): an index
with a fraction, a negative one, one beyond the words and one that is no rational number at all
point nowhere, and minus zero points to the first element. The word converted back and compared with
the index finds the same position (`position?_eq_some_iff_toFloat`).

A vector of that many elements, with one more, is therefore the same vector at every index but one
(`index_append_splits`).
-/

set_option autoImplicit false

namespace Lisplet

variable {Host : Type}

namespace Value

/-- The index is a number, and it equals the position. -/
def PointsTo (index : Option (Value Host)) (position : Nat) : Prop :=
  ∃ number, index = some (.number number) ∧ Number.rational? number = some (position : ℚ)

theorem PointsTo.unique {index : Option (Value Host)} {position other : Nat}
    (points : PointsTo index position)
    (pointsToOther : PointsTo index other) : position = other := by
  obtain ⟨number, rfl, natural⟩ := points
  obtain ⟨_, ⟨⟩, otherNatural⟩ := pointsToOther
  have same : (position : ℚ) = other := Option.some.inj (natural.symm.trans otherNatural)
  exact_mod_cast same

/-- **The position that is found is the position that is meant.** -/
theorem position?_eq_some_iff {index : Float} {position : Nat} (small : position < 2 ^ 53) :
    position? index = some position ↔ Number.rational? index = some (position : ℚ) := by
  rw [position?]
  constructor
  · intro found
    split_ifs at found with tests
    obtain ⟨whole, natural⟩ := (Number.fraction_beq_zero_iff tests.1).mp tests.2
    have word := Number.toNat_toUInt64 natural (Nat.cast_nonneg whole)
    rw [Option.some.inj found, Nat.floor_natCast] at word
    -- The greatest word is no small position, so the conversion is exact.
    have exact : whole = position := by omega
    rw [natural, exact]
  · intro natural
    have nonnegative : 0 ≤ index := (Number.zero_le_iff natural).mpr (Nat.cast_nonneg position)
    have whole := (Number.fraction_beq_zero_iff nonnegative).mpr ⟨position, natural⟩
    have word := Number.toNat_toUInt64_of_natural natural (small.trans (by decide))
    rw [if_pos ⟨nonnegative, whole⟩, word]

/-- **One comparison does for the two tests.** A number stands for a small position exactly when the
word that it is converted to is that position and is equal to it when converted back. -/
theorem position?_eq_some_iff_toFloat {index : Float} {position : Nat} (small : position < 2 ^ 53) :
    position? index = some position ↔
      (index.toUInt64.toFloat == index) = true ∧ index.toUInt64.toNat = position := by
  rw [position?_eq_some_iff small]
  constructor
  · intro natural
    have word := Number.toNat_toUInt64_of_natural natural (small.trans (by decide))
    have converted : Number.rational? index.toUInt64.toFloat = some (position : ℚ) := by
      rw [Number.rational?_toFloat (by rw [word]; exact small), word]
    exact ⟨(Number.beq_iff_rational? converted).mpr natural, word⟩
  · rintro ⟨same, rfl⟩
    exact (Number.beq_iff_rational? (Number.rational?_toFloat small)).mp same

theorem index_eq_getElem? {index : Option (Value Host)} {position : Nat}
    (points : PointsTo index position) (small : position < 2 ^ 53) (items : List (Value Host)) :
    Value.index items index = items[position]?.getD .null := by
  obtain ⟨number, rfl, natural⟩ := points
  rw [Value.index, (position?_eq_some_iff small).mpr natural, Option.bind_some]

theorem index_eq_null {index : Option (Value Host)} {items : List (Value Host)}
    (few : items.length ≤ 2 ^ 53)
    (pointless : ∀ position < items.length, ¬ PointsTo index position) :
    Value.index items index = .null := by
  fun_cases Value.index items index with
  | case1 number =>
      cases found : position? number with
      | none => rfl
      | some position =>
          rw [Option.bind_some]
          by_cases inside : position < items.length
          · have natural := (position?_eq_some_iff (inside.trans_le few)).mp found
            exact absurd ⟨number, rfl, natural⟩ (pointless position inside)
          · rw [List.getElem?_eq_none (not_lt.mp inside)]
            rfl
  | case2 => rfl

/-! ## The element that an index points to -/

section Length

variable {length position : Nat} (few : length < 2 ^ 53) (index : Option (Value Host))
include few

/-- An index points to a position exactly when it gives the element at that position, whatever the
elements are. -/
theorem pointsTo_iff (inside : position < length) :
    PointsTo index position ↔ ∀ items : List (Value Host), items.length = length →
      items[position]? = some (Value.index items index) := by
  constructor
  · rintro points items rfl
    rw [index_eq_getElem? points (inside.trans few), List.getElem?_eq_getElem inside]
    rfl
  · intro gives
    -- A vector with one element unlike the others shows which element the index gives.
    by_contra pointless
    let marked : List (Value Host) := (List.replicate length .null).set position (.bool true)
    have sameLength : marked.length = length := by rw [List.length_set, List.length_replicate]
    have atPosition : marked[position]? = some (.bool true) := by
      rw [List.getElem?_set_self (by rw [List.length_replicate]; exact inside)]
    have given : Value.index marked index = .bool true :=
      Option.some.inj ((gives marked sameLength).symm.trans atPosition)
    by_cases elsewhere : ∃ other < length, PointsTo index other
    · obtain ⟨other, otherInside, points⟩ := elsewhere
      have different : position ≠ other := by
        rintro rfl
        exact pointless points
      rw [index_eq_getElem? points (otherInside.trans few), List.getElem?_set_ne different,
        List.getElem?_replicate_of_lt otherInside] at given
      cases given
    · have nowhere := not_exists.mp elsewhere
      rw [index_eq_null (sameLength.trans_le few.le) fun other otherInside points =>
        nowhere other ⟨sameLength ▸ otherInside, points⟩] at given
      cases given

theorem pointless_iff : (∀ position < length, ¬ PointsTo index position) ↔
    ∀ items : List (Value Host), items.length = length → Value.index items index = .null := by
  constructor
  · rintro pointless items rfl
    exact index_eq_null few.le pointless
  · intro gives position inside points
    have given := gives (List.replicate length (.bool true)) List.length_replicate
    rw [index_eq_getElem? points (inside.trans few), List.getElem?_replicate_of_lt inside] at given
    cases given

end Length

end Value

/-! ## One element more -/

/-- **A vector with one element more differs at one index.** The index that points behind the vector
gives the new element, and every other index gives what it gave before. An index gives the element
at a position of the vector exactly when it points there, and null exactly when it points to none of
the positions, as far as this can be told from all vectors of that length. -/
theorem index_append_splits (items : List (Value Host)) (few : items.length < 2 ^ 53)
    (item : Value Host) (index : Option (Value Host)) :
    (Value.PointsTo index items.length → Value.index (Value.append item items) index = item) ∧
      (¬ Value.PointsTo index items.length →
        Value.index (Value.append item items) index = Value.index items index) ∧
      (∀ position < items.length, Value.PointsTo index position ↔
        ∀ others : List (Value Host), others.length = items.length →
          others[position]? = some (Value.index others index)) ∧
      ((∀ position < items.length, ¬ Value.PointsTo index position) ↔
        ∀ others : List (Value Host), others.length = items.length →
          Value.index others index = .null) := by
  refine ⟨fun points => ?_, fun elsewhere => ?_,
    fun position inside => Value.pointsTo_iff few index inside, Value.pointless_iff few index⟩
  · rw [Value.index_eq_getElem? points few, Value.append, List.getElem?_concat_length]
    rfl
  · by_cases pointed : ∃ position < items.length, Value.PointsTo index position
    · obtain ⟨position, inside, points⟩ := pointed
      rw [Value.index_eq_getElem? points (inside.trans few),
        Value.index_eq_getElem? points (inside.trans few),
        Value.append, List.getElem?_append_left inside]
    · have pointless : ∀ position < items.length, ¬ Value.PointsTo index position :=
        fun position inside points => pointed ⟨position, inside, points⟩
      have pointlessToo : ∀ position < (Value.append item items).length,
          ¬ Value.PointsTo index position := by
        intro position inside
        rw [Value.append, List.length_append, List.length_singleton, Nat.lt_succ_iff] at inside
        rcases inside.lt_or_eq with before | rfl
        · exact pointless position before
        · exact elsewhere
      have fewToo : (Value.append item items).length ≤ 2 ^ 53 := by
        rw [Value.append, List.length_append]
        exact few
      rw [Value.index_eq_null fewToo pointlessToo, Value.index_eq_null few.le pointless]

/-- To a vector of two elements a third is added, which the index two now gives. Minus zero gives
the first element, as before, and one and a half gives none, before and after. -/
theorem index_append_splits_pair :
    let items : List (Value Empty) := [.bool true, .null]
    let two : Option (Value Empty) := some (.number (.ofBits 0x4000000000000000))
    let minusZero : Option (Value Empty) := some (.number (.ofBits 0x8000000000000000))
    let oneAndAHalf : Option (Value Empty) := some (.number (.ofBits 0x3FF8000000000000))
    items.length < 2 ^ 53 ∧
      Value.PointsTo two 2 ∧ Value.index (Value.append (.symbol "a") items) two = .symbol "a" ∧
      Value.PointsTo minusZero 0 ∧ items[0]? = some (Value.index items minusZero) ∧
      Value.index (Value.append (.symbol "a") items) oneAndAHalf = Value.index items oneAndAHalf ∧
      Value.index items oneAndAHalf = .null := by
  intro items two minusZero oneAndAHalf
  have few : items.length < 2 ^ 53 := by decide
  have twoPoints : Value.PointsTo two 2 := by
    refine ⟨_, rfl, ?_⟩
    show some (Number.magnitude (2 ^ 52) (-51)) = _
    norm_num [Number.magnitude]
  have zeroPoints : Value.PointsTo minusZero 0 := ⟨_, rfl, rfl⟩
  have halfPointless (position : Nat) : ¬ Value.PointsTo oneAndAHalf position := by
    rintro ⟨number, isNumber, natural⟩
    obtain rfl := Value.number.inj (Option.some.inj isNumber)
    have half : Number.magnitude 0x18000000000000 (-52) = position := Option.some.inj natural
    have doubled : 3 = 2 * position := by
      rw [Number.magnitude] at half
      have rationals : (3 : ℚ) = 2 * position := by
        rw [← half]
        norm_num
      exact_mod_cast rationals
    omega
  exact ⟨few, twoPoints, (index_append_splits items few (.symbol "a") two).1 twoPoints, zeroPoints,
    ((index_append_splits items few .null minusZero).2.2.1 0 (by decide)).mp zeroPoints items rfl,
    (index_append_splits items few (.symbol "a") oneAndAHalf).2.1 (halfPointless 2),
    (index_append_splits items few .null oneAndAHalf).2.2.2.mp
      (fun position _ => halfPointless position)
      items rfl⟩

end Lisplet
