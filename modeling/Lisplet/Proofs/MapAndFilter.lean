import Lisplet.Proofs.Folding
import Lisplet.Proofs.Loading
import Lisplet.Proofs.PrimitiveCalls

/-!
# The functions `map` and `filter`

Both functions fold over a vector, with a function of their own that is evaluated where they are
called. So there is one call for each element, at a depth that does not depend on how many there
are, in the environment of the call with the names that `map` or `filter` bind: the function and the
vector, what has been gathered so far and the element (`Prelude.call_foldBody`).

`map` gathers the results of the calls (`map_performs`), `filter` the elements for which the results
are truthy (`filter_performs`).
-/

set_option autoImplicit false

namespace Lisplet

variable {Host : Type}

namespace Prelude

open Evaluation Lisplet.Expr

/-! ## Folding over a vector -/

/-- The body of a function that folds over its second argument, from the empty vector on and with a
step for each element. -/
def foldBody (step : Expr) : Expr :=
  form [symbol "reduce", form [symbol "fn", form [symbol "acc", symbol "x"], step],
    form [symbol "arrayOf"], symbol "arr"]

/-- The step of `map` appends what the function gives. -/
def mapStep : Expr := form [symbol "append", form [symbol "f", symbol "x"], symbol "acc"]

/-- The step of `filter` appends an element that passes the test. -/
def filterStep : Expr :=
  form [symbol "if", form [symbol "pred", symbol "x"],
    form [symbol "append", symbol "x", symbol "acc"], symbol "acc"]

theorem mapBody_eq : mapBody = foldBody mapStep := rfl

theorem filterBody_eq : filterBody = foldBody filterStep := rfl

/-- The primitives that a fold over a vector is made of. -/
def folders : List Primitive := [.reduce, .append, .arrayOf]

/-- What a fold over a vector is made of is what the language binds, and no macro takes its
place. -/
structure FoldsIn (environment : Environment Host) : Prop where
  bound : ∀ primitive ∈ folders, environment.value? primitive.id = some primitive.toValue
  noMacro : ∀ primitive ∈ folders, environment.macroNamed? primitive.id = none
  noFn : environment.macroNamed? Binder.fnForm.keyword = none

theorem FoldsIn.bind {environment : Environment Host} (folding : FoldsIn environment)
    {name : String} (other : ∀ primitive ∈ folders, primitive.id ≠ name) (value : Value Host) :
    FoldsIn (environment.bind name value) where
  bound primitive member :=
    (Environment.value?_bind_other environment value (other primitive member)).trans
      (folding.bound primitive member)
  noMacro := folding.noMacro
  noFn := folding.noFn

theorem foldsIn_globalEnvironment (sink : Sink) :
    FoldsIn (globalEnvironment sink : Environment Host) where
  bound primitive _ := value?_globalEnvironment sink primitive
  noMacro _ _ := rfl
  noFn := rfl

/-- The environment in which the body of `map` or `filter` is evaluated: the function and the vector
are bound. -/
def withVector (environment : Environment Host) (name : String) (function : Value Host)
    (items : List (Value Host)) : Environment Host :=
  (environment.bind name function).bind "arr" (.vector items)

/-- The environment in which the step for an element is evaluated: what has been gathered so far and
the element are bound as well. -/
def atElement (environment : Environment Host) (gathered : List (Value Host)) (item : Value Host) :
    Environment Host :=
  (environment.bind "acc" (.vector gathered)).bind "x" item

section Environments

variable {environment : Environment Host} (gathered items : List (Value Host))
    (item function : Value Host)

theorem FoldsIn.withVector (folding : FoldsIn environment) {name : String}
    (other : ∀ primitive ∈ folders, primitive.id ≠ name) :
    FoldsIn (withVector environment name function items) :=
  (folding.bind other function).bind (by decide) (.vector items)

theorem FoldsIn.atElement (folding : FoldsIn environment) :
    FoldsIn (atElement environment gathered item) :=
  (folding.bind (by decide) (.vector gathered)).bind (by decide) item

theorem value?_withVector_arr (name : String) :
    (withVector environment name function items).value? "arr" = some (.vector items) :=
  Environment.value?_bind_self _ _ _

theorem value?_withVector {name : String} (other : name ≠ "arr") :
    (withVector environment name function items).value? name = some function :=
  (Environment.value?_bind_other _ _ other).trans (Environment.value?_bind_self _ _ _)

theorem value?_atElement_acc :
    (atElement environment gathered item).value? "acc" = some (.vector gathered) :=
  (Environment.value?_bind_other _ item (by decide)).trans (Environment.value?_bind_self _ _ _)

theorem value?_atElement_x : (atElement environment gathered item).value? "x" = some item :=
  Environment.value?_bind_self _ _ _

theorem value?_atElement {name : String} (notAcc : name ≠ "acc") (notX : name ≠ "x") :
    (atElement environment gathered item).value? name = environment.value? name :=
  (Environment.value?_bind_other _ item notX).trans (Environment.value?_bind_other _ _ notAcc)

theorem call_withVector (setting : Setting Host) (body : Evaluator Host) (chain : Nat)
    (name : String) (expression : Expr) :
    call setting body chain environment (.function [name, "arr"] expression)
      [function, .vector items] =
      (body (withVector environment name function items) expression).map Prod.fst :=
  (call_function setting body chain environment _ _ [function, .vector items]).trans (if_pos rfl)

theorem call_atElement (setting : Setting Host) (body : Evaluator Host) (chain : Nat)
    (step : Expr) :
    call setting body chain environment (.function ["acc", "x"] step) [.vector gathered, item] =
      (body (atElement environment gathered item) step).map Prod.fst :=
  (call_function setting body chain environment _ _ [.vector gathered, item]).trans (if_pos rfl)

end Environments

section Folding

variable (setting : Setting Host) (levels : Nat) {environment : Environment Host}
  (folding : FoldsIn environment) {items : List (Value Host)}
  (bound : environment.value? "arr" = some (.vector items)) (step : Expr)
include folding bound

theorem evaluateAll_foldBody :
    evaluateAll (Evaluation.evaluate setting (levels + 2)) environment
        [.form [symbol "fn", .form [symbol "acc", symbol "x"], step], .form [symbol "arrayOf"],
          symbol "arr"] =
      .ok ([.function ["acc", "x"] step, .vector [], .vector items], environment) := by
  have function : Evaluation.evaluate setting (levels + 2) environment
      (.form [symbol "fn", .form [symbol "acc", symbol "x"], step]) =
        .ok (.function ["acc", "x"] step, environment) :=
    (evaluate_fn setting (levels + 2) folding.noFn ["acc", "x"] step).trans (if_pos (by omega))
  have empty : Evaluation.evaluate setting (levels + 2) environment (.form [symbol "arrayOf"]) =
      .ok (.vector [], environment) := by
    have called :
        Evaluation.evaluate setting (levels + 2) environment (.form [symbol "arrayOf"]) = _ :=
      evaluate_called setting levels (by decide) (folding.noMacro .arrayOf (by decide)) []
        (folding.bound .arrayOf (by decide)) rfl
    rw [called, evaluateAll, Run.ok_bind]
    rfl
  rw [evaluateAll, function, Run.ok_bind]
  dsimp only
  rw [evaluateAll, empty, Run.ok_bind]
  dsimp only
  rw [evaluateAll, evaluate_symbol, Environment.lookup, bound]
  rfl

/-- The body folds with its step as a function, at the place of the call. -/
theorem evaluate_foldBody :
    Evaluation.evaluate setting (levels + 3) environment (foldBody step) =
      (((Action.fold (.function ["acc", "x"] step) (.vector []) items).run
        (call setting (Evaluation.evaluate setting (levels + 1))
          (maxChain - 1) environment)).mapError
          (Error.inForm (foldBody step))).map fun value => (value, environment) := by
  have called : Evaluation.evaluate setting (levels + 3) environment (foldBody step) = _ :=
    evaluate_called setting (levels + 1) (by decide) (folding.noMacro .reduce (by decide)) _
      (folding.bound .reduce (by decide)) rfl
  have folds : call setting (Evaluation.evaluate setting (levels + 1)) maxChain environment
      Primitive.reduce.toValue [.function ["acc", "x"] step, .vector [], .vector items] = _ :=
    call_reduce setting _ environment (maxChain - 1) rfl (.vector []) items
  rw [called, evaluateAll_foldBody setting levels folding bound step, Run.ok_bind]
  dsimp only
  rw [folds]
  rfl

omit bound in
/-- With fewer levels there is no vector to start from. -/
theorem evaluate_foldBody_of_lt (few : levels < 3) :
    Evaluation.evaluate setting levels environment (foldBody step) = exceeded setting := by
  match levels, few with
  | 0, _ => rfl
  | 1, _ => exact evaluate_one setting (by decide) (folding.noMacro .reduce (by decide)) _
  | 2, _ =>
      -- The form `(arrayOf)` is evaluated with one level left, its name with none.
      have called : Evaluation.evaluate setting 2 environment (foldBody step) = _ :=
        evaluate_called setting 0 (by decide) (folding.noMacro .reduce (by decide)) _
          (folding.bound .reduce (by decide)) rfl
      have function : Evaluation.evaluate setting 1 environment
          (.form [symbol "fn", .form [symbol "acc", symbol "x"], step]) =
            .ok (.function ["acc", "x"] step, environment) :=
        (evaluate_fn setting 1 folding.noFn ["acc", "x"] step).trans (if_pos (by omega))
      have empty : Evaluation.evaluate setting 1 environment (.form [symbol "arrayOf"]) =
          exceeded setting :=
        evaluate_one setting (by decide) (folding.noMacro .arrayOf (by decide)) []
      rw [called, evaluateAll, function, Run.ok_bind]
      dsimp only
      rw [evaluateAll, empty]
      rfl

end Folding

/-- The levels that `map` and `filter` need for their own bodies. -/
def levelsNeeded : List (Value Host) → Nat
  | [] => 3
  | _ :: _ => 5

/-- **A call of a function that folds over a vector is a call for each element**, if its step makes
one and gathers something from it. All steps are evaluated with the same number of levels. -/
theorem call_foldBody {α : Type} (setting : Setting Host) (levels chain : Nat)
    {environment : Environment Host} (folding : FoldsIn environment) {name : String}
    (other : ∀ primitive ∈ folders, primitive.id ≠ name) (function : Value Host)
    (items : List (Value Host)) {step : Expr}
    {each : List (Value Host × α) → Value Host → Run Host α}
    {gathered : List (Value Host × α) → List (Value Host)} (start : gathered [] = [])
    (exceeds : ∀ few < 3, ∀ item, Evaluation.evaluate setting few
      (atElement (withVector environment name function items) [] item) step = exceeded setting)
    (steps : ∀ calls, ∀ item ∈ items,
      (Evaluation.evaluate setting (levels - 5 + 3)
          (atElement (withVector environment name function items) (gathered calls) item) step).map
        Prod.fst =
          (each calls item).map fun result => .vector (gathered (calls ++ [(item, result)])))
    (keeps : ∀ calls item,
      (each calls item).mapError (Error.inForm (foldBody step)) = each calls item) :
    call setting (Evaluation.evaluate setting levels) chain environment
        (.function [name, "arr"] (foldBody step)) [function, .vector items] =
      if levelsNeeded items ≤ levels then
        (Run.inOrder each [] items).map fun calls => .vector (gathered calls)
      else exceeded setting := by
  have inner := folding.withVector items function other
  have bound : (withVector environment name function items).value? "arr" = some (.vector items) :=
    value?_withVector_arr items function name
  rw [call_withVector]
  by_cases few : levels < 3
  · have notEnough : ¬ levelsNeeded items ≤ levels := by
      cases items <;> rw [levelsNeeded] <;> omega
    rw [evaluate_foldBody_of_lt setting levels inner step few, if_neg notEnough]
    rfl
  · obtain ⟨rest, rfl⟩ := Nat.exists_eq_add_of_le' (Nat.le_of_not_lt few)
    rw [evaluate_foldBody setting rest inner bound step, Run.map_map]
    refine (Run.map_id _).trans ?_
    cases items with
    | nil =>
        rw [levelsNeeded, if_pos (Nat.le_add_left 3 rest), Run.inOrder, Run.map_ok, start]
        rfl
    | cons first others =>
        rw [levelsNeeded]
        -- Without the levels for one step, the first of them ends the fold.
        by_cases enough : 5 ≤ rest + 3
        · have same : rest + 3 - 5 + 3 = rest + 1 := by omega
          rw [same] at steps
          have folded := Action.run_fold (fun calls item member =>
            (call_atElement (gathered calls) item setting _ (maxChain - 1) step).trans
              (steps calls item member)) []
          rw [start] at folded
          rw [folded, if_pos enough, Run.mapError_map, Run.mapError_inOrder keeps]
        · rw [if_neg enough, Action.fold, Action.run, call_atElement, exceeds (rest + 1) (by omega)]
          rfl

/-! ## The steps -/

/-- The apply step of a form of a function and the element `x`, whose values are given. -/
def applied (setting : Setting Host) (levels : Nat) (environment : Environment Host) (name : String)
    (function item : Value Host) : Run Host (Value Host) :=
  (apply (call setting (Evaluation.evaluate setting levels) maxChain environment)
    [function, item]).mapError
    (Error.inForm (form [symbol name, symbol "x"]))

/-- A result that is appended to a vector must leave a level for the vector. -/
def appendable (value : Value Host) : Except Error Unit := Value.checkNesting [value]

theorem appendable_eq_ok_iff {value : Value Host} :
    appendable value = .ok () ↔ value.nestingDepth < maxNesting := by
  rw [appendable, Value.checkNesting_singleton]
  split <;> simp_all

theorem appendable_eq_error_iff {value : Value Host} {error : Error} :
    appendable value = .error error ↔
      maxNesting ≤ value.nestingDepth ∧ error = .nestingTooDeep maxNesting := by
  rw [appendable, Value.checkNesting_singleton]
  split
  · rename_i shallow
    exact iff_of_false (by simp) fun deep => Nat.not_le_of_lt shallow deep.1
  · rename_i deep
    rw [Except.error.injEq, eq_comm]
    exact (and_iff_right (Nat.le_of_not_lt deep)).symm

section Steps

variable (setting : Setting Host) (levels : Nat) {environment : Environment Host}
  (folding : FoldsIn environment) {name : String} (function : Value Host)
  (gathered : List (Value Host)) (item : Value Host)

theorem evaluate_applied_x (other : name ∉ keywords) (noMacro : environment.macroNamed? name = none)
    (bound : (atElement environment gathered item).value? name = some function) :
    Evaluation.evaluate setting (levels + 2) (atElement environment gathered item)
        (.form [symbol name, symbol "x"]) =
      (applied setting levels (atElement environment gathered item) name function item).map
        fun result => (result, atElement environment gathered item) := by
  have noMacro : (atElement environment gathered item).macroNamed? name = none := noMacro
  have asked := evaluate_applied setting levels other noMacro (["x"].map symbol) bound
  rw [evaluateAll_symbols, Run.ok_bind] at asked
  refine asked.trans ?_
  have element : ["x"].map (atElement environment gathered item).lookup = [item] := by
    rw [List.map_singleton, Environment.lookup, value?_atElement_x]
    rfl
  dsimp only
  rw [element]
  rfl

include folding in
/-- What is appended to the vector gathered so far is checked. -/
theorem evaluate_append {value : Expr} {run : Run Host (Value Host)}
    (ran : Evaluation.evaluate setting (levels + 1) (atElement environment gathered item) value =
      run.map fun result => (result, atElement environment gathered item)) :
    Evaluation.evaluate setting (levels + 2) (atElement environment gathered item)
        (.form [symbol "append", value, symbol "acc"]) =
      (run.checked appendable).map fun result =>
        (.vector (gathered ++ [result]), atElement environment gathered item) := by
  have here := folding.atElement gathered item
  have called : Evaluation.evaluate setting (levels + 2) (atElement environment gathered item)
      (.form [symbol "append", value, symbol "acc"]) = _ :=
    evaluate_called setting levels (by decide) (here.noMacro .append (by decide)) _
      (here.bound .append (by decide)) rfl
  have rest : evaluateAll (Evaluation.evaluate setting (levels + 1))
      (atElement environment gathered item) [symbol "acc"] =
        .ok ([.vector gathered], atElement environment gathered item) := by
    rw [evaluateAll, evaluate_symbol, Environment.lookup, value?_atElement_acc]
    rfl
  rw [called, evaluateAll, ran, Run.bind_map, Run.bind_assoc, Run.checked, Run.map_bind]
  refine congrArg (Run.bind run) (funext fun result => ?_)
  dsimp only
  rw [rest, Run.ok_bind, Run.ok_bind, call_append, appendable, Value.checkNesting_singleton]
  split <;> rfl

/-! ### The step of `map` -/

section Map

variable (noMacro : environment.macroNamed? "f" = none)
include folding noMacro

theorem evaluate_mapStep (bound : environment.value? "f" = some function) :
    Evaluation.evaluate setting (levels + 3) (atElement environment gathered item) mapStep =
      ((applied setting levels (atElement environment gathered item) "f" function item).checked
        appendable).map fun result =>
          (.vector (gathered ++ [result]), atElement environment gathered item) := by
  have bound := (value?_atElement gathered item (by decide) (by decide)).trans bound
  exact evaluate_append setting (levels + 1) folding gathered item
    (evaluate_applied_x setting levels function gathered item (by decide) noMacro bound)

theorem evaluate_mapStep_of_lt (few : levels < 3) :
    Evaluation.evaluate setting levels (atElement environment gathered item) mapStep =
      exceeded setting := by
  have here := folding.atElement gathered item
  match levels, few with
  | 0, _ => rfl
  | 1, _ => exact evaluate_one setting (by decide) (here.noMacro .append (by decide)) _
  | 2, _ =>
      have called :
          Evaluation.evaluate setting 2 (atElement environment gathered item) mapStep = _ :=
        evaluate_called setting 0 (by decide) (here.noMacro .append (by decide)) _
          (here.bound .append (by decide)) rfl
      have element : Evaluation.evaluate setting 1 (atElement environment gathered item)
          (.form [symbol "f", symbol "x"]) = exceeded setting :=
        evaluate_one setting (by decide) noMacro _
      rw [called, evaluateAll, element]
      rfl

end Map

/-! ### The step of `filter` -/

section Filter

variable (noIf : environment.macroNamed? ifKeyword = none)
  (noMacro : environment.macroNamed? "pred" = none)

include noIf in
theorem evaluate_filterStep_succ :
    Evaluation.evaluate setting (levels + 1) (atElement environment gathered item) filterStep =
      (Evaluation.evaluate setting levels (atElement environment gathered item)
        (.form [symbol "pred", symbol "x"])).bind fun reached =>
          Evaluation.evaluate setting levels (atElement environment gathered item)
            (if reached.1.isTruthy then .form [symbol "append", symbol "x", symbol "acc"]
              else symbol "acc") := by
  have noIf : (atElement environment gathered item).macroNamed? ifKeyword = none := noIf
  exact evaluate_if setting levels noIf _ _ _

include folding noIf noMacro in
/-- A shallow element can be appended, so that only the test can fail. -/
theorem evaluate_filterStep (bound : environment.value? "pred" = some function)
    (shallow : item.nestingDepth < maxNesting) :
    Evaluation.evaluate setting (levels + 3) (atElement environment gathered item) filterStep =
      (applied setting levels (atElement environment gathered item) "pred" function item).map
        fun result =>
          (.vector (if result.isTruthy then gathered ++ [item] else gathered),
            atElement environment gathered item) := by
  have bound := (value?_atElement gathered item (by decide) (by decide)).trans bound
  have element : Evaluation.evaluate setting (levels + 1) (atElement environment gathered item)
      (symbol "x") =
      (Run.ok item).map fun result => (result, atElement environment gathered item) := by
    rw [evaluate_symbol, Environment.lookup, value?_atElement_x]
    rfl
  have accepted : appendable item = .ok () := appendable_eq_ok_iff.mpr shallow
  rw [evaluate_filterStep_succ setting (levels + 2) gathered item noIf,
    evaluate_applied_x setting levels function gathered item (by decide) noMacro bound,
    Run.bind_map, Run.map_eq_bind]
  refine congrArg (Run.bind _) (funext fun result => ?_)
  cases result.isTruthy with
  | true =>
      refine (evaluate_append setting levels folding gathered item element).trans ?_
      rw [Run.checked, Run.ok_bind, accepted]
      rfl
  | false =>
      show Evaluation.evaluate setting (levels + 2) _ (symbol "acc") = _
      rw [evaluate_symbol, Environment.lookup, value?_atElement_acc]
      rfl

include noIf noMacro in
theorem evaluate_filterStep_of_lt (few : levels < 3) :
    Evaluation.evaluate setting levels (atElement environment gathered item) filterStep =
      exceeded setting := by
  match levels, few with
  | 0, _ => rfl
  | 1, _ => exact evaluate_filterStep_succ setting 0 gathered item noIf
  | 2, _ =>
      have test : Evaluation.evaluate setting 1 (atElement environment gathered item)
          (.form [symbol "pred", symbol "x"]) = exceeded setting :=
        evaluate_one setting (by decide) noMacro _
      rw [evaluate_filterStep_succ setting 1 gathered item noIf, test]
      rfl

end Filter
end Steps

/-! ## The calls -/

section Calls

variable (setting : Setting Host) (levels chain : Nat) {environment : Environment Host}
  (function : Value Host) (items : List (Value Host))

/-- The call that `map` makes for an element, given the elements before it with their results. -/
def mapCall (environment : Environment Host) (calls : List (Value Host × Value Host))
    (item : Value Host) : Run Host (Value Host) :=
  applied setting levels
    (atElement (withVector environment "f" function items) (calls.map Prod.snd) item)
    "f" function item

/-- The elements for which a test has given something truthy. -/
def passed (calls : List (Value Host × Value Host)) : List (Value Host) :=
  (calls.filter fun made => made.2.isTruthy).map Prod.fst

/-- The call that `filter` makes for an element, given the elements before it with their results. -/
def filterCall (environment : Environment Host) (calls : List (Value Host × Value Host))
    (item : Value Host) : Run Host (Value Host) :=
  applied setting levels
    (atElement (withVector environment "pred" function items) (passed calls) item)
    "pred" function item

theorem passed_concat (calls : List (Value Host × Value Host)) (item result : Value Host) :
    passed (calls ++ [(item, result)]) =
      if result.isTruthy then passed calls ++ [item] else passed calls := by
  cases truthy : result.isTruthy <;> simp [passed, truthy]

theorem mapError_applied (environment : Environment Host) (name : String) (item : Value Host)
    (outer : Expr) :
    (applied setting levels environment name function item).mapError (Error.inForm outer) =
      applied setting levels environment name function item :=
  Run.mapError_inForm_inForm _ (form [symbol name, symbol "x"]) outer

theorem mapError_checked_appendable {run : Run Host (Value Host)} {outer : Expr}
    (keeps : run.mapError (Error.inForm outer) = run) :
    (run.checked appendable).mapError (Error.inForm outer) = run.checked appendable := by
  rw [Run.checked, Run.mapError_bind, keeps]
  refine congrArg (Run.bind run) (funext fun result => ?_)
  rw [appendable, Value.checkNesting_singleton]
  split <;> rfl

variable (folding : FoldsIn environment)
include folding

theorem call_map (noMacro : environment.macroNamed? "f" = none) :
    call setting (Evaluation.evaluate setting levels) chain environment
        (.function ["f", "arr"] mapBody) [function, .vector items] =
      if levelsNeeded items ≤ levels then
        (Run.inOrder (fun calls item =>
          (mapCall setting (levels - 5) function items environment calls item).checked appendable)
            [] items).map fun calls => .vector (calls.map Prod.snd)
      else exceeded setting := by
  have inner : FoldsIn (withVector environment "f" function items) :=
    folding.withVector items function (by decide)
  rw [mapBody_eq]
  refine call_foldBody setting levels chain folding (by decide) function items rfl ?_ ?_ ?_
  · exact fun few enough item => evaluate_mapStep_of_lt setting few inner [] item noMacro enough
  · intro calls item member
    rw [evaluate_mapStep setting (levels - 5) inner function _ item noMacro
      (value?_withVector items function (by decide)), Run.map_map]
    simp only [List.map_append, List.map_singleton]
    rfl
  · exact fun calls item => mapError_checked_appendable (mapError_applied _ _ _ _ _ _ _)

theorem call_filter (noIf : environment.macroNamed? ifKeyword = none)
    (noMacro : environment.macroNamed? "pred" = none)
    (shallow : ∀ item ∈ items, item.nestingDepth < maxNesting) :
    call setting (Evaluation.evaluate setting levels) chain environment
        (.function ["pred", "arr"] filterBody) [function, .vector items] =
      if levelsNeeded items ≤ levels then
        (Run.inOrder (filterCall setting (levels - 5) function items environment) [] items).map
          fun calls => .vector (passed calls)
      else exceeded setting := by
  have inner : FoldsIn (withVector environment "pred" function items) :=
    folding.withVector items function (by decide)
  rw [filterBody_eq]
  refine call_foldBody setting levels chain folding (by decide) function items rfl ?_ ?_ ?_
  · exact fun few enough item => evaluate_filterStep_of_lt setting few [] item noIf noMacro enough
  · intro calls item member
    rw [evaluate_filterStep setting (levels - 5) inner function _ item noIf noMacro
      (value?_withVector items function (by decide)) (shallow item member), Run.map_map]
    simp only [passed_concat]
    rfl
  · exact fun calls item => mapError_applied _ _ _ _ _ _ _

end Calls
end Prelude

open Evaluation in
/-- **`map` calls its first argument on each element of its second one, in order**, and gives the
vector of the results. It fails with the first call that fails, or with the limit on nesting if a
result cannot stand in a vector, and has printed what the calls until then have printed. The calls
are made with the same number of levels, however many there are. -/
theorem map_performs (setting : Setting Host) (levels chain : Nat) {environment : Environment Host}
    (folding : Prelude.FoldsIn environment) (noMacro : environment.macroNamed? "f" = none)
    (function : Value Host) (items : List (Value Host)) :
    let mapped := call setting (Evaluation.evaluate setting levels) chain environment
      (.function ["f", "arr"] Prelude.mapBody) [function, .vector items]
    let applied := Prelude.mapCall setting (levels - 5) function items environment
    let Shallow (calls : List (Value Host × Value Host)) :=
      ∀ made ∈ calls, made.2.nestingDepth < maxNesting
    (levels < Prelude.levelsNeeded items → mapped = exceeded setting) ∧
      (Prelude.levelsNeeded items ≤ levels → ∀ printed,
        (∀ value, mapped = ⟨printed, .ok value⟩ ↔
          ∃ calls, Run.Performed applied calls printed ∧ Shallow calls ∧
            calls.map Prod.fst = items ∧ value = .vector (calls.map Prod.snd)) ∧
        ∀ error, mapped = ⟨printed, .error error⟩ ↔
          ∃ calls item rest earlier later, Run.Performed applied calls earlier ∧ Shallow calls ∧
            items = calls.map Prod.fst ++ item :: rest ∧ printed = earlier ++ later ∧
            (applied calls item = ⟨later, .error error⟩ ∨
              ∃ result, applied calls item = ⟨later, .ok result⟩ ∧
                maxNesting ≤ result.nestingDepth ∧ error = .nestingTooDeep maxNesting)) := by
  intro mapped applied Shallow
  have folded : mapped = _ := Prelude.call_map setting levels chain function items folding noMacro
  constructor
  · intro few
    exact folded.trans (if_neg (Nat.not_le_of_lt few))
  · intro enough printed
    rw [if_pos enough] at folded
    rw [folded]
    constructor
    · intro value
      simp only [Run.map_eq_ok_iff, Run.inOrder_eq_ok_iff, Run.performed_checked_iff,
        Prelude.appendable_eq_ok_iff]
      constructor
      · rintro ⟨calls, ⟨⟨performed, shallow⟩, named⟩, rfl⟩
        exact ⟨calls, performed, shallow, named, rfl⟩
      · rintro ⟨calls, performed, shallow, named, rfl⟩
        exact ⟨calls, ⟨⟨performed, shallow⟩, named⟩, rfl⟩
    · intro error
      simp only [Run.map_eq_error_iff, Run.inOrder_eq_error_iff, Run.performed_checked_iff,
        Run.checked_eq_error_iff, Prelude.appendable_eq_ok_iff, Prelude.appendable_eq_error_iff]
      constructor
      · rintro ⟨calls, item, rest, earlier, later, ⟨performed, shallow⟩, fails, named, split⟩
        exact ⟨calls, item, rest, earlier, later, performed, shallow, named, split, fails⟩
      · rintro ⟨calls, item, rest, earlier, later, performed, shallow, named, split, fails⟩
        exact ⟨calls, item, rest, earlier, later, ⟨performed, shallow⟩, fails, named, split⟩

open Evaluation in
/-- `print` gives a list of its arguments, and `map` a vector of these lists. -/
theorem map_performs_print :
    let environment : Environment Empty := globalEnvironment .log
    let print : Value Empty := .builtin Operation.printId (.print .log)
    Prelude.FoldsIn environment ∧ environment.macroNamed? "f" = none ∧
      Prelude.levelsNeeded ([.bool true, .null] : List (Value Empty)) ≤ 5 ∧
      call ⟨noHost, 100⟩ (Evaluation.evaluate ⟨noHost, 100⟩ 5) maxChain environment
          (.function ["f", "arr"] Prelude.mapBody) [print, .vector [.bool true, .null]] =
        ⟨[⟨.log, [.bool true]⟩, ⟨.log, [.null]⟩],
          .ok (.vector [.list [.bool true], .list [.null]])⟩ := by
  intro environment print
  have folding : Prelude.FoldsIn environment := Prelude.foldsIn_globalEnvironment .log
  have enough : Prelude.levelsNeeded ([.bool true, .null] : List (Value Empty)) ≤ 5 := Nat.le_refl 5
  have performs := map_performs ⟨noHost, 100⟩ 5 maxChain folding rfl print [.bool true, .null]
  refine ⟨folding, rfl, enough, ((performs.2 enough _).1 _).mpr ?_⟩
  refine ⟨[(.bool true, .list [.bool true]), (.null, .list [.null])], ?_, by decide, rfl, rfl⟩
  exact .next (.next .none rfl) rfl

open Evaluation in
/-- **`filter` calls its first argument on each element of its second one, in order**, and gives the
vector of the elements for which the result is truthy. It fails with the first call that fails and
not by itself, and has printed what the calls until then have printed. The calls are made with the
same number of levels, however many there are. -/
theorem filter_performs (setting : Setting Host) (levels chain : Nat)
    {environment : Environment Host}
    (folding : Prelude.FoldsIn environment) (noIf : environment.macroNamed? ifKeyword = none)
    (noMacro : environment.macroNamed? "pred" = none) (test : Value Host)
    (items : List (Value Host)) (within : (Value.vector items).nestingDepth ≤ maxNesting) :
    let filtered := call setting (Evaluation.evaluate setting levels) chain environment
      (.function ["pred", "arr"] Prelude.filterBody) [test, .vector items]
    let applied := Prelude.filterCall setting (levels - 5) test items environment
    (levels < Prelude.levelsNeeded items → filtered = exceeded setting) ∧
      (Prelude.levelsNeeded items ≤ levels → ∀ printed,
        (∀ value, filtered = ⟨printed, .ok value⟩ ↔
          ∃ calls, Run.Performed applied calls printed ∧ calls.map Prod.fst = items ∧
            value = .vector (Prelude.passed calls)) ∧
        ∀ error, filtered = ⟨printed, .error error⟩ ↔
          ∃ calls item rest earlier later, Run.Performed applied calls earlier ∧
            items = calls.map Prod.fst ++ item :: rest ∧ printed = earlier ++ later ∧
            applied calls item = ⟨later, .error error⟩) := by
  intro filtered applied
  have shallow : ∀ item ∈ items, item.nestingDepth < maxNesting := fun item member =>
    Nat.lt_of_le_of_lt (Value.deepest_le_iff.mp (Nat.le_refl _) item member) within
  have folded : filtered = _ :=
    Prelude.call_filter setting levels chain test items folding noIf noMacro shallow
  constructor
  · intro few
    exact folded.trans (if_neg (Nat.not_le_of_lt few))
  · intro enough printed
    rw [if_pos enough] at folded
    rw [folded]
    constructor
    · intro value
      simp only [Run.map_eq_ok_iff, Run.inOrder_eq_ok_iff]
      constructor
      · rintro ⟨calls, ⟨performed, named⟩, rfl⟩
        exact ⟨calls, performed, named, rfl⟩
      · rintro ⟨calls, performed, named, rfl⟩
        exact ⟨calls, ⟨performed, named⟩, rfl⟩
    · intro error
      simp only [Run.map_eq_error_iff, Run.inOrder_eq_error_iff]
      constructor
      · rintro ⟨calls, item, rest, earlier, later, performed, fails, named, split⟩
        exact ⟨calls, item, rest, earlier, later, performed, named, split, fails⟩
      · rintro ⟨calls, item, rest, earlier, later, performed, named, split, fails⟩
        exact ⟨calls, item, rest, earlier, later, performed, fails, named, split⟩

open Evaluation in
/-- `not` passes what is not truthy. -/
theorem filter_performs_not :
    let environment : Environment Empty := globalEnvironment .log
    let items : List (Value Empty) := [.null, .bool true, .bool false]
    Prelude.FoldsIn environment ∧ environment.macroNamed? ifKeyword = none ∧
      environment.macroNamed? "pred" = none ∧ (Value.vector items).nestingDepth ≤ maxNesting ∧
      Prelude.levelsNeeded items ≤ 5 ∧
      call ⟨noHost, 100⟩ (Evaluation.evaluate ⟨noHost, 100⟩ 5) maxChain environment
          (.function ["pred", "arr"] Prelude.filterBody) [Primitive.not.toValue, .vector items] =
        .ok (.vector [.null, .bool false]) := by
  intro environment items
  have folding : Prelude.FoldsIn environment := Prelude.foldsIn_globalEnvironment .log
  have within : (Value.vector items).nestingDepth ≤ maxNesting := by decide
  have enough : Prelude.levelsNeeded items ≤ 5 := Nat.le_refl 5
  have performs := filter_performs ⟨noHost, 100⟩ 5 maxChain folding rfl rfl Primitive.not.toValue
    items within
  refine ⟨folding, rfl, rfl, within, enough, ((performs.2 enough _).1 _).mpr ?_⟩
  refine ⟨[(.null, .bool true), (.bool true, .bool false), (.bool false, .bool true)], ?_, rfl, rfl⟩
  exact .next (.next (.next .none rfl) rfl) rfl

end Lisplet
