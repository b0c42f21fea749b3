import Lisplet.Value.Equality
import Mathlib

/-!
# Numbers and values compared

Of two numbers one is less than the other, or they are equal, unless one of them is NaN:
`Number.order?` says which, and seen from the other side the order is reversed
(`Number.order?_swap`).

Equality of numbers is symmetric, and so is equality of values (`Value.equal_comm`).
-/

set_option autoImplicit false

namespace Lisplet

/-! ## Numbers -/

namespace Number

open Float.Model (UnpackedFloat)

/-- How the first of two numbers stands to the second, if both are numbers. -/
def order? (left right : Float) : Option Ordering :=
  left.toModel.unpack.compare right.toModel.unpack

variable {left right : Float}

theorem lt_iff : left < right ↔ order? left right = some .lt := by
  show decide ((left.toModel.unpack.compare right.toModel.unpack == some .lt) = true) = true ↔ _
  simp [order?]

theorem beq_iff : (left == right) = true ↔ order? left right = some .eq := by
  show (left.toModel.unpack.compare right.toModel.unpack == some .eq) = true ↔ _
  simp [order?]

theorem order?_eq_none_iff : order? left right = none ↔ left.isNaN = true ∨ right.isNaN = true := by
  show left.toModel.unpack.compare right.toModel.unpack = none ↔
    left.toModel.unpack.isNaN = true ∨ right.toModel.unpack.isNaN = true
  fun_cases UnpackedFloat.compare left.toModel.unpack right.toModel.unpack <;>
    simp_all [UnpackedFloat.isNaN]

theorem order?_swap (left right : Float) :
    order? right left = (order? left right).map Ordering.swap := by
  have signs (left right : UnpackedFloat.Sign) :
      compare right left = (compare left right).swap := by
    cases left <;> cases right <;> rfl
  have finite (leftExponent rightExponent : Int) (leftMantissa rightMantissa : Nat) :
      (compare rightExponent leftExponent).then (compare rightMantissa leftMantissa) =
        ((compare leftExponent rightExponent).then (compare leftMantissa rightMantissa)).swap := by
    rw [Ordering.swap_then, ← Std.OrientedCmp.eq_swap, ← Std.OrientedCmp.eq_swap]
  unfold order?
  fun_cases UnpackedFloat.compare left.toModel.unpack right.toModel.unpack <;>
    grind [UnpackedFloat.compare, Ordering.swap]

/-- Of two numbers the second is less than the first when the first is neither equal to it nor
less. -/
theorem lt_swap_iff (leftIsNumber : left.isNaN = false) (rightIsNumber : right.isNaN = false) :
    right < left ↔ (left == right) = false ∧ ¬ left < right := by
  rw [← Bool.not_eq_true, beq_iff, lt_iff, lt_iff, order?_swap left right]
  cases same : order? left right with
  | none =>
      have noNumber := order?_eq_none_iff.mp same
      rw [leftIsNumber, rightIsNumber] at noNumber
      cases noNumber <;> contradiction
  | some order => cases order <;> decide

/-- Beside NaN, no number is less and none is equal. -/
theorem unordered_of_isNaN (isNaN : left.isNaN = true ∨ right.isNaN = true) :
    ¬ left < right ∧ ¬ right < left ∧ (left == right) = false := by
  have none := order?_eq_none_iff.mpr isNaN
  rw [← Bool.not_eq_true, beq_iff, lt_iff, lt_iff, order?_swap left right, none]
  decide

end Number

/-! ## Values -/

namespace Value

variable {Host : Type}

mutual

theorem equal_comm : ∀ left right : Value Host, left.equal right = right.equal left
  | .null, right => by cases right <;> rfl
  | .number left, right => by
      cases right with
      | number right => exact BEq.comm
      | null | bool _ | symbol _ | vector _ | list _ | function _ _ | builtin _ _ => rfl
  | .bool left, right => by
      cases right with
      | bool right => exact BEq.comm
      | null | number _ | symbol _ | vector _ | list _ | function _ _ | builtin _ _ => rfl
  | .symbol left, right => by
      cases right with
      | symbol right => exact BEq.comm
      | null | number _ | bool _ | vector _ | list _ | function _ _ | builtin _ _ => rfl
  | .vector left, right => by
      cases right with
      | vector right => exact equalAll_comm left right
      | null | number _ | bool _ | symbol _ | list _ | function _ _ | builtin _ _ => rfl
  | .list left, right => by
      cases right with
      | list right => exact equalAll_comm left right
      | null | number _ | bool _ | symbol _ | vector _ | function _ _ | builtin _ _ => rfl
  | .function leftParameters leftBody, right => by
      cases right with
      | function rightParameters rightBody =>
          have bodies : leftBody.equal rightBody = rightBody.equal leftBody := by
            rw [Bool.eq_iff_iff, Expr.equal_iff, Expr.equal_iff, eq_comm]
          rw [equal, equal, bodies, BEq.comm]
      | null | number _ | bool _ | symbol _ | vector _ | list _ | builtin _ _ => rfl
  | .builtin left _, right => by
      cases right with
      | builtin right _ => exact BEq.comm
      | null | number _ | bool _ | symbol _ | vector _ | list _ | function _ _ => rfl

theorem equalAll_comm : ∀ left right : List (Value Host), equalAll left right = equalAll right left
  | [], [] => rfl
  | [], _ :: _ => rfl
  | _ :: _, [] => rfl
  | left :: lefts, right :: rights => by
      rw [equalAll, equalAll, equal_comm left right, equalAll_comm lefts rights]

end

end Value
end Lisplet
