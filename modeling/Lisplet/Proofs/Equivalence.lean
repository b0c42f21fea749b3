import Lisplet.Proofs.Equality
import Lisplet.Proofs.PrimitiveCalls

/-!
# Equality as a partial equivalence

Equality of values is symmetric and transitive. It is reflexive only where no NaN stands in a value,
at any level of its vectors and lists (`Value.equal_self`): NaN differs from itself, and so does
everything that holds it. Equal values are of one kind, and nothing that evaluation asks of a value
tells them apart: they are truthy alike and have the same number of levels.

The builtin `=` compares each of its arguments with the first one only. Because equality is a
partial equivalence, that is as good as comparing every two of them (`Value.allEqual_iff`), and the
order of the arguments does not matter (`Value.allEqual_perm`).
-/

set_option autoImplicit false

namespace Lisplet

/-! ## Numbers -/

namespace Number

variable {left right : Float}

/-- A number equals itself unless it is NaN. -/
theorem beq_self (number : Float) : (number == number) = !number.isNaN := by
  rw [Bool.eq_iff_iff, beq_iff, Bool.not_eq_true', ← Bool.not_eq_true]
  cases order : order? number number with
  | none =>
      have isNaN := order?_eq_none_iff.mp order
      rw [or_self] at isNaN
      exact iff_of_false (Option.some_ne_none _).symm (not_not_intro isNaN)
  | some found =>
      have isNumber : ¬ number.isNaN = true := fun isNaN => by
        rw [order?_eq_none_iff.mpr (.inl isNaN)] at order
        cases order
      have swapped := order?_swap number number
      rw [order] at swapped
      cases found with
      | eq => exact iff_of_true rfl isNumber
      | lt | gt => cases swapped

/-- Of two equal numbers both are zeros or none is. -/
theorem isZero_eq (same : (left == right) = true) :
    (left == 0) = (right == 0) := BEq.congr_left same

/-- A number that equals another one is not NaN. -/
theorem isNaN_eq_false (same : (left == right) = true) : left.isNaN = false := by
  have itself : (left == left) = true := BEq.trans same (BEq.symm same)
  rw [beq_self, Bool.not_eq_true'] at itself
  exact itself

end Number

/-! ## Values -/

namespace Value

variable {Host : Type}

/-- How two values look that are equal: they are of one kind, and their contents are equal. -/
inductive Alike : Value Host → Value Host → Prop where
  | null : Alike .null .null
  | number {left right : Float} : (left == right) = true → Alike (.number left) (.number right)
  | bool (value : Bool) : Alike (.bool value) (.bool value)
  | symbol (name : String) : Alike (.symbol name) (.symbol name)
  | vector {left right : List (Value Host)} : equalAll left right = true →
      Alike (.vector left) (.vector right)
  | list {left right : List (Value Host)} : equalAll left right = true →
      Alike (.list left) (.list right)
  | function (parameters : List String) (body : Expr) :
      Alike (.function parameters body) (.function parameters body)
  | builtin (id : String) (left right : Operation Host) :
      Alike (.builtin id left) (.builtin id right)

theorem Alike.equal {left right : Value Host} (alike : Alike left right) :
    left.equal right = true := by
  cases alike with
  | null => rfl
  | number same => exact same
  | bool value => exact beq_self_eq_true value
  | symbol name => exact beq_self_eq_true name
  | vector same => exact same
  | list same => exact same
  | function parameters body =>
      exact Bool.and_eq_true_iff.mpr
        ⟨beq_self_eq_true parameters, (Expr.equal_iff body body).mpr rfl⟩
  | builtin id _ _ => exact beq_self_eq_true id

theorem alike_of_equal {left right : Value Host} (same : left.equal right = true) :
    Alike left right := by
  cases left with
  | null =>
      cases right with
      | null => exact .null
      | number _ | bool _ | symbol _ | vector _ | list _ | function _ _ | builtin _ _ => cases same
  | number _ =>
      cases right with
      | number _ => exact .number same
      | null | bool _ | symbol _ | vector _ | list _ | function _ _ | builtin _ _ => cases same
  | bool _ =>
      cases right with
      | bool _ => exact eq_of_beq same ▸ .bool _
      | null | number _ | symbol _ | vector _ | list _ | function _ _ | builtin _ _ => cases same
  | symbol _ =>
      cases right with
      | symbol _ => exact eq_of_beq same ▸ .symbol _
      | null | number _ | bool _ | vector _ | list _ | function _ _ | builtin _ _ => cases same
  | vector _ =>
      cases right with
      | vector _ => exact .vector same
      | null | number _ | bool _ | symbol _ | list _ | function _ _ | builtin _ _ => cases same
  | list _ =>
      cases right with
      | list _ => exact .list same
      | null | number _ | bool _ | symbol _ | vector _ | function _ _ | builtin _ _ => cases same
  | function _ _ =>
      cases right with
      | function _ _ =>
          obtain ⟨parameters, bodies⟩ := Bool.and_eq_true_iff.mp same
          rw [eq_of_beq parameters, (Expr.equal_iff _ _).mp bodies]
          exact .function _ _
      | null | number _ | bool _ | symbol _ | vector _ | list _ | builtin _ _ => cases same
  | builtin _ _ =>
      cases right with
      | builtin _ _ =>
          rw [eq_of_beq same]
          exact .builtin _ _ _
      | null | number _ | bool _ | symbol _ | vector _ | list _ | function _ _ => cases same

theorem equalAll_cons_iff {first : Value Host} {rest right : List (Value Host)} :
    equalAll (first :: rest) right = true ↔
      ∃ other others, right = other :: others ∧ first.equal other = true ∧
        equalAll rest others = true := by
  cases right with
  | nil => simp [equalAll]
  | cons other others => simp [equalAll]

theorem equalAll_nil_iff {right : List (Value Host)} : equalAll [] right = true ↔ right = [] := by
  cases right with
  | nil => simp [equalAll]
  | cons other others => simp [equalAll]

/-! ## Symmetric and transitive -/

theorem equal_symm {left right : Value Host} (same : left.equal right = true) :
    right.equal left = true :=
  equal_comm left right ▸ same

mutual

theorem equal_trans : ∀ {first second third : Value Host}, first.equal second = true →
    second.equal third = true → first.equal third = true
  | .null, second, third, front, back | .bool _, second, third, front, back
  | .symbol _, second, third, front, back | .function _ _, second, third, front, back => by
      cases alike_of_equal front
      exact back
  | .number _, second, third, front, back => by
      cases alike_of_equal front with
      | number front =>
          cases alike_of_equal back with
          | number back => exact (Alike.number (BEq.trans front back)).equal
  | .vector items, second, third, front, back => by
      cases alike_of_equal front with
      | vector front =>
          cases alike_of_equal back with
          | vector back => exact (Alike.vector (equalAll_trans front back)).equal
  | .list items, second, third, front, back => by
      cases alike_of_equal front with
      | list front =>
          cases alike_of_equal back with
          | list back => exact (Alike.list (equalAll_trans front back)).equal
  | .builtin _ _, second, third, front, back => by
      cases alike_of_equal front
      cases alike_of_equal back
      exact (Alike.builtin _ _ _).equal

theorem equalAll_trans : ∀ {first second third : List (Value Host)}, equalAll first second = true →
    equalAll second third = true → equalAll first third = true
  | [], second, third, front, back => by
      rw [equalAll_nil_iff.mp front] at back
      exact back
  | first :: rest, second, third, front, back => by
      obtain ⟨second, others, rfl, head, tail⟩ := equalAll_cons_iff.mp front
      obtain ⟨third, last, rfl, headBack, tailBack⟩ := equalAll_cons_iff.mp back
      exact equalAll_cons_iff.mpr
        ⟨third, last, rfl, equal_trans head headBack, equalAll_trans tail tailBack⟩

end

/-! ## Values that equal themselves -/

mutual

/-- Whether NaN stands in the value, at any level of its vectors and lists. -/
def holdsNaN : Value Host → Bool
  | .number value => value.isNaN
  | .vector items => anyHoldsNaN items
  | .list items => anyHoldsNaN items
  | _ => false

/-- The same for one of several values. -/
def anyHoldsNaN : List (Value Host) → Bool
  | [] => false
  | first :: rest => holdsNaN first || anyHoldsNaN rest

end

theorem anyHoldsNaN_eq_false {values : List (Value Host)}
    (each : ∀ value ∈ values, value.holdsNaN = false) :
    anyHoldsNaN values = false := by
  induction values with
  | nil => rfl
  | cons first rest ih =>
      obtain ⟨head, tail⟩ := List.forall_mem_cons.mp each
      rw [anyHoldsNaN, head, ih tail, Bool.or_false]

mutual

/-- **A value equals itself unless NaN stands in it.** -/
theorem equal_self : ∀ value : Value Host, value.equal value = !value.holdsNaN
  | .null => rfl
  | .number value => Number.beq_self value
  | .bool value => Alike.equal (.bool value)
  | .symbol name => Alike.equal (.symbol name)
  | .vector items => equalAll_self items
  | .list items => equalAll_self items
  | .function parameters body => Alike.equal (.function parameters body)
  | .builtin id operation => Alike.equal (.builtin id operation operation)

theorem equalAll_self : ∀ values : List (Value Host), equalAll values values = !anyHoldsNaN values
  | [] => rfl
  | first :: rest => by
      rw [equalAll, equal_self first, equalAll_self rest, anyHoldsNaN, Bool.not_or]

end

/-! ## What equal values have in common -/

theorem typeName_eq_of_equal {left right : Value Host} (same : left.equal right = true) :
    left.typeName = right.typeName := by
  cases alike_of_equal same <;> rfl

theorem isTruthy_eq_of_equal {left right : Value Host} (same : left.equal right = true) :
    left.isTruthy = right.isTruthy := by
  cases alike_of_equal same with
  | @number left right same =>
      rw [isTruthy, isTruthy, Number.isZero_eq same, Number.isNaN_eq_false same,
        Number.isNaN_eq_false (BEq.symm same)]
  | null | bool _ | symbol _ | vector _ | list _ | function _ _ | builtin _ _ _ => rfl

mutual

theorem nestingDepth_eq_of_equal : ∀ {left right : Value Host}, left.equal right = true →
    left.nestingDepth = right.nestingDepth
  | .null, right, same | .number _, right, same | .bool _, right, same | .symbol _, right, same
  | .function _ _, right, same | .builtin _ _, right, same => by
      cases alike_of_equal same
      rfl
  | .vector items, right, same => by
      cases alike_of_equal same with
      | vector same => rw [nestingDepth, nestingDepth, deepest_eq_of_equalAll same]
  | .list items, right, same => by
      cases alike_of_equal same with
      | list same => rw [nestingDepth, nestingDepth, deepest_eq_of_equalAll same]

theorem deepest_eq_of_equalAll : ∀ {left right : List (Value Host)}, equalAll left right = true →
    deepest left = deepest right
  | [], right, same => by rw [equalAll_nil_iff.mp same]
  | first :: rest, right, same => by
      obtain ⟨other, others, rfl, head, tail⟩ := equalAll_cons_iff.mp same
      rw [deepest, deepest, nestingDepth_eq_of_equal head, deepest_eq_of_equalAll tail]

end

/-! ## Several values -/

/-- **Comparing all with the first is comparing every two.** -/
theorem allEqual_iff {values : List (Value Host)} :
    allEqual values = true ↔
      2 ≤ values.length ∧ values.Pairwise fun left right => left.equal right = true := by
  match values with
  | [] => simp [allEqual]
  | [_] => simp [allEqual]
  | first :: second :: rest =>
      have compared : allEqual (first :: second :: rest) = true ↔
          ∀ value ∈ second :: rest, value.equal first = true := List.all_eq_true
      rw [compared, List.pairwise_cons]
      constructor
      · intro same
        refine ⟨Nat.le_add_left 2 _, fun value member => equal_symm (same value member), ?_⟩
        refine List.pairwise_of_forall_mem_list fun left leftMember right rightMember => ?_
        exact equal_trans (same left leftMember) (equal_symm (same right rightMember))
      · rintro ⟨-, same, -⟩ value member
        exact equal_symm (same value member)

theorem allEqual_perm {left right : List (Value Host)} (reordered : left.Perm right) :
    allEqual left = allEqual right := by
  rw [Bool.eq_iff_iff, allEqual_iff, allEqual_iff, reordered.length_eq,
    reordered.pairwise_iff fun same => equal_symm same]

end Value

open Evaluation in
/-- **Equality is a partial equivalence, and `=` respects it.** Equality is symmetric and
transitive; a value equals itself unless NaN stands in it; equal values are of one kind, truthy
alike and nested alike. At any place, `=` gives the same for its arguments in any order, and it
gives true when there are two of them at least and every two are equal. -/
theorem equal_partialEquivalence {Host : Type} (setting : Setting Host) (body : Evaluator Host)
    (chain : Nat) (environment : Environment Host) :
    let compared (arguments : List (Value Host)) :=
      call setting body (chain + 1) environment Primitive.equal.toValue arguments
    (∀ left right : Value Host, left.equal right = true → right.equal left = true) ∧
      (∀ first second third : Value Host, first.equal second = true → second.equal third = true →
        first.equal third = true) ∧
      (∀ value : Value Host, value.equal value = true ↔ value.holdsNaN = false) ∧
      (∀ left right : Value Host, left.equal right = true →
        left.typeName = right.typeName ∧ left.isTruthy = right.isTruthy ∧
          left.nestingDepth = right.nestingDepth) ∧
      (∀ arguments reordered, arguments.Perm reordered → compared arguments = compared reordered) ∧
      ∀ arguments, ∃ answer, compared arguments = .ok (.bool answer) ∧
        (answer = true ↔
          2 ≤ arguments.length ∧ arguments.Pairwise fun left right => left.equal right = true) := by
  intro compared
  have answered (arguments : List (Value Host)) :
      compared arguments = .ok (.bool (Value.allEqual arguments)) :=
    call_equalAll setting body environment chain arguments
  refine ⟨fun _ _ => Value.equal_symm, fun _ _ _ => Value.equal_trans, fun value => ?_,
    fun left right same => ?_, fun arguments reordered permuted => ?_, fun arguments => ?_⟩
  · rw [Value.equal_self, Bool.not_eq_true']
  · exact ⟨Value.typeName_eq_of_equal same, Value.isTruthy_eq_of_equal same,
      Value.nestingDepth_eq_of_equal same⟩
  · rw [answered, answered, Value.allEqual_perm permuted]
  · exact ⟨_, answered arguments, Value.allEqual_iff⟩

/-- The two zeros are equal inside of vectors, and a vector with NaN in it differs from
itself. -/
theorem equal_partialEquivalence_zeros :
    let positive : Value Empty := .vector [.number 0, .symbol "a"]
    let negative : Value Empty := .vector [.number (-0), .symbol "a"]
    let undefined : Value Empty := .list [.vector [.number (0 / 0)]]
    let compared (arguments : List (Value Empty)) :=
      Evaluation.call ⟨noHost, 100⟩ (Evaluation.evaluate ⟨noHost, 100⟩ 10) (9 + 1) .empty
        Primitive.equal.toValue arguments
    positive.equal negative = true ∧ negative.equal positive = true ∧
      undefined.holdsNaN = true ∧ undefined.equal undefined ≠ true ∧
      [positive, undefined, negative].Perm [negative, positive, undefined] ∧
      compared [positive, undefined, negative] = compared [negative, positive, undefined] := by
  intro positive negative undefined compared
  obtain ⟨symmetric, -, itself, -, reordered, -⟩ := equal_partialEquivalence ⟨noHost, 100⟩
    (Evaluation.evaluate ⟨noHost, 100⟩ 10) 9 (.empty : Environment Empty)
  have same : positive.equal negative = true := by decide +kernel
  have holds : undefined.holdsNaN = true := by decide +kernel
  have permuted : ([positive, undefined] ++ [negative]).Perm
      ([negative] ++ [positive, undefined]) :=
    List.perm_append_comm
  refine ⟨same, symmetric _ _ same, holds, fun equal => ?_, permuted, reordered _ _ permuted⟩
  rw [(itself _).mp equal] at holds
  cases holds

end Lisplet
