import Lisplet.Proofs.Equality
import Lisplet.Proofs.ShortCircuit

/-!
# The comparisons of the prelude

The prelude makes `>`, `>=` and `<=` of `=` and `<`: "not less" stands for "at least", and "neither
equal nor less" for "greater". That is right for numbers that have an order. It is not right beside
NaN, which is neither less nor equal, and so counts as greater. And where `=` decides, `and` leaves
`<` out and with it the check that both arguments are numbers: so `>` and `<=` have an answer for a
value and itself where `<` and `>=` have none. In all other cases the comparisons agree with one
another (`comparisons_agree_iff`).
-/

set_option autoImplicit false

namespace Lisplet

variable {Host : Type}

/-! ## Runs that agree -/

namespace Run

variable {α : Type}

/-- A run that does nothing but raise a type error, whatever the fault and the form. -/
def RaisesType (run : Run Host α) : Prop := ∃ fault form, run = .fail (.type fault form)

/-- Two runs agree when they are the same, up to what a type error says. -/
def Agrees (left right : Run Host α) : Prop := left = right ∨ left.RaisesType ∧ right.RaisesType

theorem raisesType_fail (fault : TypeFault) (form : Option String) :
    (fail (.type fault form) : Run Host α).RaisesType := ⟨fault, form, rfl⟩

theorem not_raisesType_ok (result : α) : ¬ (ok result : Run Host α).RaisesType :=
  fun ⟨_, _, raises⟩ => nomatch congrArg outcome raises

theorem agrees_ok_iff {left right : α} :
    (ok left : Run Host α).Agrees (ok right) ↔ left = right := by
  constructor
  · rintro (same | ⟨raises, -⟩)
    · exact Except.ok.inj (congrArg outcome same)
    · exact absurd raises (not_raisesType_ok left)
  · rintro rfl
    exact .inl rfl

theorem agrees_bool_iff {left right : Bool} :
    (ok (.bool left) : Run Host (Value Host)).Agrees (ok (.bool right)) ↔ left = right := by
  rw [agrees_ok_iff, Value.bool.injEq]

/-- A type error agrees with type errors only. -/
theorem agrees_iff_of_raisesType {left right : Run Host α} (raises : right.RaisesType) :
    left.Agrees right ↔ left.RaisesType := by
  constructor
  · rintro (rfl | ⟨alsoRaises, -⟩)
    · exact raises
    · exact alsoRaises
  · exact fun alsoRaises => .inr ⟨alsoRaises, raises⟩

theorem agrees_comm {left right : Run Host α} : left.Agrees right ↔ right.Agrees left :=
  or_congr eq_comm and_comm

theorem raisesType_ite_iff {decided : Bool} {result : α} {run : Run Host α}
    (raises : run.RaisesType) :
    (if decided then .ok result else run).RaisesType ↔ decided = false := by
  cases decided with
  | true => exact iff_of_false (not_raisesType_ok result) Bool.true_eq_false.mp
  | false => exact iff_of_true raises rfl

end Run

/-! ## Values that can be compared -/

namespace Number

variable (left right : Float)

/-- "Neither equal nor less" is "greater", and "not less" is "at least", for two numbers that have
an order and for no others. -/
theorem negations_iff :
    ((!(left == right) && !decide (left < right)) = decide (right < left) ↔
        left.isNaN = false ∧ right.isNaN = false) ∧
      ((!decide (left < right)) = (decide (right < left) || right == left) ↔
        left.isNaN = false ∧ right.isNaN = false) := by
  have symmetric : (right == left) = (left == right) := BEq.comm
  rw [symmetric]
  by_cases ordered : left.isNaN = false ∧ right.isNaN = false
  · have reversed : decide (right < left) = (!(left == right) && !decide (left < right)) := by
      rw [Bool.eq_iff_iff, decide_eq_true_iff, lt_swap_iff ordered.1 ordered.2, Bool.and_eq_true,
        Bool.not_eq_true', Bool.not_eq_true', decide_eq_false_iff_not]
    refine ⟨iff_of_true reversed.symm ordered, iff_of_true ?_ ordered⟩
    rw [reversed]
    cases same : left == right with
    | false => simp
    | true =>
        have notLess : ¬ left < right := by
          rw [lt_iff, beq_iff.mp same]
          decide
        rw [decide_eq_false notLess]
        rfl
  · have noNumber : left.isNaN = true ∨ right.isNaN = true := by
      rw [← Bool.not_eq_false, ← Bool.not_eq_false (right.isNaN)]
      exact Classical.not_and_iff_not_or_not.mp ordered
    obtain ⟨notLess, notGreater, notEqual⟩ := unordered_of_isNaN noNumber
    rw [decide_eq_false notLess, decide_eq_false notGreater, notEqual]
    exact ⟨iff_of_false (by decide) ordered, iff_of_false (by decide) ordered⟩

end Number

namespace Value

/-- Both of two values are numbers. -/
def AreNumbers (left right : Value Host) : Prop :=
  ∃ first second : Float, left = .number first ∧ right = .number second

/-- Two values that the comparisons treat alike: numbers have to be numbers indeed, and other values
have to differ. -/
def ComparedAlike : Value Host → Value Host → Prop
  | .number left, .number right => left.isNaN = false ∧ right.isNaN = false
  | left, right => left.equal right = false

variable {left right : Value Host}

theorem comparedAlike_of_not_areNumbers (notNumbers : ¬ left.AreNumbers right) :
    left.ComparedAlike right ↔ left.equal right = false := by
  unfold ComparedAlike
  split
  · exact absurd ⟨_, _, rfl, rfl⟩ notNumbers
  · exact Iff.rfl

/-- Values that are not both numbers have no order: the first that is not a number is at fault. -/
theorem less?_of_not_areNumbers (notNumbers : ¬ left.AreNumbers right) :
    ∃ fault, left.less? right = .error (.ofFault fault) := by
  cases left with
  | number first =>
      cases right with
      | number second => exact absurd ⟨first, second, rfl, rfl⟩ notNumbers
      | null | bool _ | symbol _ | vector _ | list _ | function _ _ | builtin _ _ => exact ⟨_, rfl⟩
  | null | bool _ | symbol _ | vector _ | list _ | function _ _ | builtin _ _ => exact ⟨_, rfl⟩

end Value

namespace Prelude

open Evaluation Lisplet.Expr

/-! ## Environments with the comparisons -/

/-- The body of `>`. -/
def greaterBody : Expr := form [symbol "and", negated "=", negated "<"]

/-- The three comparisons and what they are made of have the meaning that they have in the
prelude. -/
structure ComparesIn (environment : Environment Host) : Prop extends ChoosesIn environment where
  noEqual : environment.macroNamed? (Primitive.id .equal) = none
  noLess : environment.macroNamed? (Primitive.id .less) = none
  noGreater : environment.macroNamed? ">" = none
  equal : environment.value? (Primitive.id .equal) = some Primitive.equal.toValue
  less : environment.value? (Primitive.id .less) = some Primitive.less.toValue
  greater : environment.value? ">" = some (.function ["a", "b"] greaterBody)
  atLeast : environment.value? ">=" = some (.function ["a", "b"] (negated "<"))
  atMost : environment.value? "<=" = some (.function ["a", "b"] (negated ">"))

/-- They have it where the prelude is loaded, unless other values or macros take their places. -/
theorem comparesIn_load {environment : Environment Host}
    (noMacros : ∀ name ∈ [ifKeyword, Primitive.id .not, Primitive.id .equal,
      Primitive.id .less, ">"],
      environment.macroNamed? name = none)
    (primitives : ∀ primitive ∈ [Primitive.not, .equal, .less],
      environment.value? (Primitive.id primitive) = some primitive.toValue) :
    ComparesIn (load environment) where
  toChoosesIn := choosesIn_load (noMacros _ (by simp)) (noMacros _ (by simp))
    (primitives .not (by simp))
  noEqual := ((loadedIn_load environment).macros _ (by decide)).trans (noMacros _ (by simp))
  noLess := ((loadedIn_load environment).macros _ (by decide)).trans (noMacros _ (by simp))
  noGreater := ((loadedIn_load environment).macros _ (by decide)).trans (noMacros _ (by simp))
  equal := ((loadedIn_load environment).values _ (by decide)).trans (primitives .equal (by simp))
  less := ((loadedIn_load environment).values _ (by decide)).trans (primitives .less (by simp))
  greater := (loadedIn_load environment).made (.function ">" ["a", "b"] greaterBody)
    (by simp [entries, laterEntries, greaterBody])
  atLeast := (loadedIn_load environment).made (.function ">=" ["a", "b"] (negated "<"))
    (by simp [entries, laterEntries])
  atMost := (loadedIn_load environment).made (.function "<=" ["a", "b"] (negated ">"))
    (by simp [entries, laterEntries])

theorem comparesIn_load_globalEnvironment (sink : Sink) :
    ComparesIn (load (globalEnvironment sink : Environment Host)) :=
  comparesIn_load (fun _ _ => rfl) fun primitive _ => value?_globalEnvironment sink primitive

/-- The environment in which the body of a comparison is evaluated. -/
def withPair (environment : Environment Host) (left right : Value Host) : Environment Host :=
  (environment.bind "a" left).bind "b" right

variable {environment : Environment Host}

theorem value?_withPair (left right : Value Host) {name : String} (notLeft : name ≠ "a")
    (notRight : name ≠ "b") :
    (withPair environment left right).value? name = environment.value? name :=
  (Environment.value?_bind_other _ right notRight).trans
    (Environment.value?_bind_other _ left notLeft)

theorem lookup_withPair (left right : Value Host) :
    ["a", "b"].map (withPair environment left right).lookup = [left, right] := by
  have first : (withPair environment left right).value? "a" = some left :=
    (Environment.value?_bind_other _ right (by decide)).trans (Environment.value?_bind_self _ _ _)
  have second : (withPair environment left right).value? "b" = some right :=
    Environment.value?_bind_self _ _ _
  simp [Environment.lookup, first, second]

theorem ComparesIn.withPair (comparing : ComparesIn environment) (left right : Value Host) :
    ComparesIn (withPair environment left right) where
  orMacro := comparing.orMacro
  andMacro := comparing.andMacro
  noIf := comparing.noIf
  noNot := comparing.noNot
  not := (value?_withPair left right (by decide) (by decide)).trans comparing.not
  noEqual := comparing.noEqual
  noLess := comparing.noLess
  noGreater := comparing.noGreater
  equal := (value?_withPair left right (by decide) (by decide)).trans comparing.equal
  less := (value?_withPair left right (by decide) (by decide)).trans comparing.less
  greater := (value?_withPair left right (by decide) (by decide)).trans comparing.greater
  atLeast := (value?_withPair left right (by decide) (by decide)).trans comparing.atLeast
  atMost := (value?_withPair left right (by decide) (by decide)).trans comparing.atMost

/-! ## What the comparisons give -/

section Comparisons

variable (setting : Setting Host) (levels : Nat) (left right : Value Host)

/-- A test on the two arguments of a comparison. -/
def testForm (test : String) : Expr := form [symbol test, symbol "a", symbol "b"]

/-- The negation of a test calls the value that the test is bound to, on both arguments. -/
theorem evaluate_negated (inner : ComparesIn (withPair environment left right)) {test : String}
    {callee : Value Host} (other : test ∉ keywords) (noMacro : environment.macroNamed? test = none)
    (bound : (withPair environment left right).value? test = some callee)
    (callable : callee.isCallable = true) :
    Evaluation.evaluate setting (levels + 3) (withPair environment left right) (negated test) =
      ((call setting (Evaluation.evaluate setting levels) maxChain (withPair environment left right)
        callee [left, right]).mapError (Error.inForm (testForm test))).map fun value =>
          (.bool !value.isTruthy, withPair environment left right) := by
  have noMacro : (withPair environment left right).macroNamed? test = none := noMacro
  have tested := evaluate_called setting levels other noMacro (["a", "b"].map symbol) bound callable
  rw [evaluateAll_symbols, Run.ok_bind, lookup_withPair] at tested
  have asked : Evaluation.evaluate setting (levels + 2) (withPair environment left right)
      (testForm test) = _ := tested
  have negation : Evaluation.evaluate setting (levels + 3) (withPair environment left right)
      (negated test) = _ := evaluate_not setting (levels + 2) inner.noNot inner.not (testForm test)
  rw [negation, asked, Run.map_map]
  rfl

/-- The run that gives a truth value found by `<`, or the error of `<` in its form. -/
def verdict (answer : Except Error Bool) : Run Host (Value Host) :=
  (Run.ofExcept (answer.map .bool)).mapError (Error.inForm (testForm "<"))

theorem verdict_inForm (answer : Except Error Bool) (outer : Expr) :
    (verdict answer : Run Host (Value Host)).mapError (Error.inForm outer) = verdict answer :=
  Run.mapError_inForm_inForm _ (testForm "<") outer

/-- The body of a comparison is evaluated where its arguments are bound. -/
theorem call_comparison (body : Evaluator Host) (chain : Nat) (expression : Expr) :
    call setting body chain environment (.function ["a", "b"] expression) [left, right] =
      (body (withPair environment left right) expression).map Prod.fst :=
  (call_function setting body chain environment ["a", "b"] expression [left, right]).trans
    (if_pos rfl)

variable (comparing : ComparesIn environment)
include comparing

theorem evaluate_notEqual :
    Evaluation.evaluate setting (levels + 3) (withPair environment left right) (negated "=") =
      .ok (.bool !right.equal left, withPair environment left right) := by
  have inner := comparing.withPair left right
  have asked :
      Evaluation.evaluate setting (levels + 3) (withPair environment left right)
      (negated "=") = _ :=
    evaluate_negated setting levels left right inner (by decide) comparing.noEqual inner.equal rfl
  rw [asked, call_equal]
  rfl

theorem evaluate_notLess :
    Evaluation.evaluate setting (levels + 3) (withPair environment left right) (negated "<") =
      (verdict ((left.less? right).map not)).map fun value =>
        (value, withPair environment left right) := by
  have inner := comparing.withPair left right
  have asked :
      Evaluation.evaluate setting (levels + 3) (withPair environment left right)
      (negated "<") = _ :=
    evaluate_negated setting levels left right inner (by decide) comparing.noLess inner.less rfl
  rw [asked, call_less]
  cases left.less? right <;> rfl

/-- `>=` is that `<` does not hold. -/
theorem call_atLeast (chain : Nat) :
    call setting (Evaluation.evaluate setting (levels + 3)) chain environment
        (.function ["a", "b"] (negated "<")) [left, right] =
      verdict ((left.less? right).map not) := by
  rw [call_comparison, evaluate_notLess setting levels left right comparing, Run.map_map]
  cases left.less? right <;> rfl

/-- `>` asks `<` only when the arguments differ. -/
theorem call_greater (chain : Nat) :
    call setting (Evaluation.evaluate setting (levels + 8)) chain environment
        (.function ["a", "b"] greaterBody) [left, right] =
      if right.equal left then .ok (.bool false) else verdict ((left.less? right).map not) := by
  have inner := comparing.withPair left right
  have conjunction : Evaluation.evaluate setting (levels + 8) (withPair environment left right)
      greaterBody = _ :=
        evaluate_and setting (levels + 3) inner.toChoosesIn (negated "=") (negated "<")
  rw [call_comparison, conjunction, evaluate_notEqual setting levels left right comparing,
    Run.ok_bind]
  cases same : right.equal left with
  | true =>
      show Run.map _ (Run.map _ (Evaluation.evaluate setting (levels + 3) _ (negated "="))) = _
      rw [evaluate_notEqual setting levels left right comparing, same]
      rfl
  | false =>
      show Run.map _ (Run.map _ (Evaluation.evaluate setting (levels + 3) _ (negated "<"))) = _
      rw [evaluate_notLess setting levels left right comparing]
      cases left.less? right <;> rfl

/-- `<=` is that `>` does not hold, and asks `<` in turn only when the arguments differ. -/
theorem call_atMost (chain : Nat) :
    call setting (Evaluation.evaluate setting (levels + 11)) chain environment
        (.function ["a", "b"] (negated ">")) [left, right] =
      if right.equal left then .ok (.bool true) else verdict (left.less? right) := by
  have inner := comparing.withPair left right
  have asked :
      Evaluation.evaluate setting (levels + 11) (withPair environment left right)
      (negated ">") = _ :=
    evaluate_negated setting (levels + 8) left right inner (by decide) comparing.noGreater
      inner.greater rfl
  rw [call_comparison, asked, call_greater setting levels left right inner]
  cases right.equal left with
  | true => rfl
  | false =>
      rw [if_neg Bool.false_ne_true, if_neg Bool.false_ne_true, verdict_inForm]
      cases left.less? right with
      | error _ => rfl
      | ok answer => cases answer <;> rfl

end Comparisons

/-! ## Calls by name -/

section ByName

variable (setting : Setting Host) (levels : Nat) (environment : Environment Host)

/-- A call of what a name is bound to on two values, with the levels that the comparisons need and
more. -/
def compared (name : String) (first second : Value Host) : Run Host (Value Host) :=
  call setting (Evaluation.evaluate setting (levels + 11)) maxChain environment
    (environment.lookup name)
    [first, second]

variable {environment}

theorem compared_eq {name : String} {callee : Value Host}
    (bound : environment.value? name = some callee) (first second : Value Host) :
    compared setting levels environment name first second =
      call setting (Evaluation.evaluate setting (levels + 11)) maxChain environment callee
        [first, second] := by
  rw [compared, Environment.lookup, bound]
  rfl

variable (comparing : ComparesIn environment) (first second : Value Host)
include comparing

theorem compared_less :
    compared setting levels environment "<" first second =
      .ofExcept ((first.less? second).map .bool) :=
  (compared_eq setting levels comparing.less first second).trans
    (call_less setting _ environment first second)

theorem compared_greater :
    compared setting levels environment ">" first second =
      if first.equal second then .ok (.bool false) else verdict ((first.less? second).map not) := by
  rw [compared_eq setting levels comparing.greater, Value.equal_comm]
  exact call_greater setting (levels + 3) first second comparing maxChain

theorem compared_atLeast :
    compared setting levels environment ">=" first second =
      verdict ((first.less? second).map not) :=
  (compared_eq setting levels comparing.atLeast first second).trans
    (call_atLeast setting (levels + 8) first second comparing maxChain)

theorem compared_atMost :
    compared setting levels environment "<=" first second =
      if first.equal second then .ok (.bool true) else verdict (first.less? second) := by
  rw [compared_eq setting levels comparing.atMost, Value.equal_comm]
  exact call_atMost setting levels first second comparing maxChain

/-- On numbers every comparison gives a truth value. -/
theorem compared_numbers (first second : Float) :
    compared setting levels environment "<" (.number first) (.number second) =
        .ok (.bool (decide (first < second))) ∧
      compared setting levels environment ">" (.number first) (.number second) =
        .ok (.bool (!(first == second) && !decide (first < second))) ∧
      compared setting levels environment ">=" (.number first) (.number second) =
        .ok (.bool !decide (first < second)) ∧
      compared setting levels environment "<=" (.number first) (.number second) =
        .ok (.bool (decide (first < second) || first == second)) := by
  have same : (Value.number first : Value Host).equal (.number second) = (first == second) := rfl
  refine ⟨compared_less setting levels comparing _ _, ?_,
    compared_atLeast setting levels comparing _ _, ?_⟩
  · refine (compared_greater setting levels comparing _ _).trans ?_
    rw [same]
    cases first == second <;> rfl
  · refine (compared_atMost setting levels comparing _ _).trans ?_
    rw [same, Bool.or_comm]
    cases first == second <;> rfl

/-- On values that are not both numbers `<` and `>=` raise a type error, and the comparisons that
ask `=` first do so unless the values are equal. -/
theorem raisesType_compared_iff {first second : Value Host}
    (notNumbers : ¬ first.AreNumbers second) :
    (compared setting levels environment "<" first second).RaisesType ∧
      (compared setting levels environment ">=" first second).RaisesType ∧
      ((compared setting levels environment ">" first second).RaisesType ↔
        first.equal second = false) ∧
      ((compared setting levels environment "<=" first second).RaisesType ↔
        first.equal second = false) := by
  obtain ⟨fault, refused⟩ := Value.less?_of_not_areNumbers notNumbers
  rw [compared_less setting levels comparing, compared_atLeast setting levels comparing,
    compared_greater setting levels comparing, compared_atMost setting levels comparing, refused]
  exact ⟨Run.raisesType_fail fault none, Run.raisesType_fail fault _,
    Run.raisesType_ite_iff (Run.raisesType_fail fault _),
    Run.raisesType_ite_iff (Run.raisesType_fail fault _)⟩

end ByName
end Prelude

open Prelude in
/-- **The comparisons agree with `<` and `=` exactly on values that are compared alike.** On two
numbers `<=` is "less or equal". On values that are not both numbers `<` and `>=` raise a type
error, and `>` and `<=` do so unless the values are equal. -/
theorem comparisons_agree_iff (setting : Setting Host) (levels : Nat)
    {environment : Environment Host}
    (comparing : ComparesIn environment) (left right : Value Host) :
    let compared := compared setting levels environment
    ((compared ">" left right).Agrees (compared "<" right left) ↔ left.ComparedAlike right) ∧
      ((compared ">=" left right).Agrees (compared "<=" right left) ↔ left.ComparedAlike right) ∧
      (∀ first second : Float, left = .number first → right = .number second →
        compared "<=" left right = .ok (.bool (decide (first < second) || first == second))) ∧
      (¬ left.AreNumbers right →
        (compared "<" left right).RaisesType ∧ (compared ">=" left right).RaisesType ∧
          ((compared ">" left right).RaisesType ↔ left.equal right = false) ∧
          ((compared "<=" left right).RaisesType ↔ left.equal right = false)) := by
  dsimp only
  by_cases numbers : left.AreNumbers right
  · obtain ⟨first, second, rfl, rfl⟩ := numbers
    obtain ⟨-, greater, atLeast, atMost⟩ := compared_numbers setting levels comparing first second
    obtain ⟨lessBackwards, -, -, atMostBackwards⟩ :=
      compared_numbers setting levels comparing second first
    obtain ⟨negatedBoth, negatedLess⟩ := Number.negations_iff first second
    refine ⟨?_, ?_, ?_, fun notNumbers => absurd ⟨first, second, rfl, rfl⟩ notNumbers⟩
    · rw [greater, lessBackwards, Run.agrees_bool_iff]
      exact negatedBoth
    · rw [atLeast, atMostBackwards, Run.agrees_bool_iff]
      exact negatedLess
    · rintro _ _ ⟨⟩ ⟨⟩
      exact atMost
  · have backwards : ¬ right.AreNumbers left :=
      fun ⟨first, second, isFirst, isSecond⟩ => numbers ⟨second, first, isSecond, isFirst⟩
    have raises := raisesType_compared_iff setting levels comparing numbers
    obtain ⟨lessRaises, -, -, atMostRaises⟩ :=
      raisesType_compared_iff setting levels comparing backwards
    refine ⟨?_, ?_, fun first second isFirst isSecond => ?_, fun _ => raises⟩
    · rw [Value.comparedAlike_of_not_areNumbers numbers, Run.agrees_iff_of_raisesType lessRaises]
      exact raises.2.2.1
    · rw [Value.comparedAlike_of_not_areNumbers numbers, Run.agrees_comm,
        Run.agrees_iff_of_raisesType raises.2.1, Value.equal_comm]
      exact atMostRaises
    · exact absurd ⟨first, second, isFirst, isSecond⟩ numbers

open Prelude in
/-- The infinite numbers have their places in the order; and `<=` has an answer for a symbol and
itself where `>=` has none. -/
theorem comparisons_agree_iff_infinite :
    let environment : Environment Empty := load (globalEnvironment .console)
    let compared := compared ⟨noHost, 100⟩ 50 environment
    let infinite : Value Empty := .number (1 / 0)
    let unbound : Value Empty := .symbol "x"
    ComparesIn environment ∧
      (compared ">" infinite (.number 1)).Agrees (compared "<" (.number 1) infinite) ∧
      (compared ">=" infinite (.number 1)).Agrees (compared "<=" (.number 1) infinite) ∧
      ¬ (compared ">=" unbound unbound).Agrees (compared "<=" unbound unbound) := by
  intro environment compared infinite unbound
  have comparing : ComparesIn environment := comparesIn_load_globalEnvironment .console
  have ofNumbers := comparisons_agree_iff ⟨noHost, 100⟩ 50 comparing infinite (.number 1)
  have ofSymbols := comparisons_agree_iff ⟨noHost, 100⟩ 50 comparing unbound unbound
  have alike : infinite.ComparedAlike (.number 1) := by
    show (1 / 0 : Float).isNaN = false ∧ (1 : Float).isNaN = false
    decide
  have notAlike : ¬ unbound.ComparedAlike unbound := by
    show ¬ ("x" == "x") = false
    decide
  exact ⟨comparing, ofNumbers.1.mpr alike, ofNumbers.2.1.mpr alike,
    fun agree => notAlike (ofSymbols.2.1.mp agree)⟩

open Prelude in
/-- Neither condition can be left out: NaN is greater than 1, although 1 is not less; and a
symbol is not greater than itself, although `<` refuses it. -/
theorem comparisons_disagree :
    let environment : Environment Empty := load (globalEnvironment .console)
    let compared := compared ⟨noHost, 100⟩ 50 environment
    let noNumber : Value Empty := .number (0 / 0)
    let unbound : Value Empty := .symbol "x"
    ComparesIn environment ∧
      compared ">" noNumber (.number 1) = .ok (.bool true) ∧
      compared "<" (.number 1) noNumber = .ok (.bool false) ∧
      compared ">" unbound unbound = .ok (.bool false) ∧
      (compared "<" unbound unbound).RaisesType := by
  intro environment compared noNumber unbound
  have comparing : ComparesIn environment := comparesIn_load_globalEnvironment .console
  have less (first second : Value Empty) :
      compared "<" first second = .ofExcept ((first.less? second).map .bool) :=
    compared_less ⟨noHost, 100⟩ 50 comparing first second
  have greater := compared_greater ⟨noHost, 100⟩ 50 comparing
  refine ⟨comparing, (greater _ _).trans rfl, (less _ _).trans rfl, (greater _ _).trans rfl, ?_⟩
  rw [less]
  exact Run.raisesType_fail _ none

end Lisplet
