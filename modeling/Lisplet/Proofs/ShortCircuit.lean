import Lisplet.Proofs.Loading
import Lisplet.Proofs.PrimitiveCalls

/-!
# Macros that leave an argument out

A call of `or` is a choice by its first argument (`Prelude.evaluate_or`), and a call of `and` is one
between two negations (`Prelude.evaluate_and`). Either way the choice starts over in the environment
of the call, with the levels that the test had: so an argument that is evaluated again does again
what it did before, to the same value and the same environment, and what it prints is printed twice
(`shortCircuit`).
-/

set_option autoImplicit false

namespace Lisplet

variable {Host : Type}

namespace Prelude

open Evaluation Lisplet.Expr

/-- `or`, `and` and what they expand to have the meaning that they have in the prelude. -/
structure ChoosesIn (environment : Environment Host) : Prop where
  orMacro : environment.macroNamed? "or" = some Prelude.orMacro
  andMacro : environment.macroNamed? "and" = some Prelude.andMacro
  noIf : environment.macroNamed? ifKeyword = none
  noNot : environment.macroNamed? (Primitive.id .not) = none
  not : environment.value? (Primitive.id .not) = some Primitive.not.toValue

/-- They have it where the prelude is loaded, unless a macro takes the place of `if` or `not`. -/
theorem choosesIn_load {environment : Environment Host}
    (noIf : environment.macroNamed? ifKeyword = none)
    (noNot : environment.macroNamed? (Primitive.id .not) = none)
    (not : environment.value? (Primitive.id .not) = some Primitive.not.toValue) :
    ChoosesIn (load environment) where
  orMacro := (loadedIn_load environment).made (.template "or" Prelude.orMacro)
    (by simp [entries, laterEntries])
  andMacro := (loadedIn_load environment).made (.template "and" Prelude.andMacro)
    (by simp [entries, laterEntries])
  noIf := ((loadedIn_load environment).macros _ (by decide)).trans noIf
  noNot := ((loadedIn_load environment).macros _ (by decide)).trans noNot
  not := ((loadedIn_load environment).values _ (by decide)).trans not

theorem expand_orMacro (first second : Expr) :
    orMacro.expand "or" [first, second] = .ok (.form [symbol "if", first, first, second]) := by
  simp [Macro.expand, orMacro, substitute, substituteAll, Macro.bindings]

theorem expand_andMacro (first second : Expr) :
    andMacro.expand "and" [first, second] =
      .ok (.form [symbol "not", .form [symbol "or", .form [symbol "not", first],
        .form [symbol "not", second]]]) := by
  simp [Macro.expand, andMacro, substitute, substituteAll, Macro.bindings]

section Choices

variable (setting : Setting Host) (levels : Nat) {environment : Environment Host}

/-- A form of `not` gives the truth value that its argument has not, and leaves what the argument
leaves. -/
theorem evaluate_not (noMacro : environment.macroNamed? (Primitive.id .not) = none)
    (bound : environment.value? (Primitive.id .not) = some Primitive.not.toValue) (expr : Expr) :
    Evaluation.evaluate setting (levels + 1) environment (.form [symbol "not", expr]) =
      (Evaluation.evaluate setting levels environment expr).map fun reached =>
        (.bool !reached.1.isTruthy, reached.2) := by
  have other : Primitive.id .not ∉ keywords := by decide
  cases levels with
  | zero => exact evaluate_one setting other noMacro [expr]
  | succ levels =>
      have called := evaluate_called setting levels other noMacro [expr] bound rfl
      refine called.trans ?_
      rw [evaluateAll, Run.bind_assoc, Run.map_eq_bind]
      refine congrArg (Run.bind _) (funext fun reached => ?_)
      dsimp only [evaluateAll]
      rw [Run.ok_bind, Run.ok_bind, call_not]
      rfl

variable (choosing : ChoosesIn environment)
include choosing

theorem evaluate_or (first second : Expr) :
    Evaluation.evaluate setting (levels + 2) environment (.form [symbol "or", first, second]) =
      (Evaluation.evaluate setting levels environment first).bind fun reached =>
        Evaluation.evaluate setting levels environment
          (if reached.1.isTruthy then first else second) := by
  have expanded : Evaluation.evaluate setting (levels + 2) environment
      (.form [symbol "or", first, second]) = _ :=
    evaluate_expansion setting (levels + 1) (by decide) (by decide) choosing.orMacro
      (expand_orMacro first second)
  exact expanded.trans (evaluate_if setting levels choosing.noIf first first second)

/-- A call of `and` comes to the truth value of its second argument if the first is truthy, and else
of the first, which is evaluated again. -/
theorem evaluate_and (first second : Expr) :
    Evaluation.evaluate setting (levels + 5) environment (.form [symbol "and", first, second]) =
      (Evaluation.evaluate setting levels environment first).bind fun reached =>
        (Evaluation.evaluate setting levels environment
          (if reached.1.isTruthy then second else first)).map fun last =>
            (.bool last.1.isTruthy, last.2) := by
  have expanded : Evaluation.evaluate setting (levels + 5) environment
      (.form [symbol "and", first, second]) = _ :=
    evaluate_expansion setting (levels + 4) (by decide) (by decide) choosing.andMacro
      (expand_andMacro first second)
  have negated (levels : Nat) (expr : Expr) :=
    evaluate_not setting levels choosing.noNot choosing.not expr
  rw [expanded, negated, evaluate_or setting (levels + 1) choosing, negated, Run.bind_map,
    Run.map_bind]
  refine congrArg (Run.bind _) (funext fun reached => ?_)
  -- The choice of `or` is by the negation, so `and` takes the branches the other way round.
  have swapped : (if (Value.bool !reached.1.isTruthy : Value Host).isTruthy then
      Expr.form [symbol "not", first] else .form [symbol "not", second]) =
        .form [symbol "not", if reached.1.isTruthy then second else first] := by
    cases reached.1.isTruthy <;> rfl
  rw [swapped, negated, Run.map_map]
  refine congrArg (Run.map · _) (funext fun last => ?_)
  simp [Value.isTruthy]

end Choices
end Prelude

open Evaluation in
/-- **`or` and `and` evaluate their second argument only when the first one does not decide.** An
error of the first argument is the error of the call. If the first argument is truthy, `or` gives
its value and the environment that it leaves, and has printed its output twice; if it is not, `or`
goes on as the second argument. With `and` it is the other way round, and the value is a truth
value. The second argument is evaluated in the environment of the call. -/
theorem shortCircuit (setting : Setting Host) (levels : Nat) {environment : Environment Host}
    (choosing : Prelude.ChoosesIn environment) (first second : Expr) :
    let run := Evaluation.evaluate setting levels environment
    let either := Evaluation.evaluate setting (levels + 2) environment
      (.form [.symbol "or", first, second])
    let both := Evaluation.evaluate setting (levels + 5) environment
      (.form [.symbol "and", first, second])
    (∀ error, (run first).outcome = .error error → either = run first ∧ both = run first) ∧
      ∀ value after, (run first).outcome = .ok (value, after) →
        let printedTwice := (run first).printed ++ (run first).printed
        let printedBoth := (run first).printed ++ (run second).printed
        (value.isTruthy = true →
            either = ⟨printedTwice, .ok (value, after)⟩ ∧
              both = ⟨printedBoth, (run second).outcome.map fun last =>
                (.bool last.1.isTruthy, last.2)⟩) ∧
          (value.isTruthy = false →
            either = ⟨printedBoth, (run second).outcome⟩ ∧
              both = ⟨printedTwice, .ok (.bool false, after)⟩) := by
  intro run either both
  have disjunction : either = (run first).bind fun reached =>
      run (if reached.1.isTruthy then first else second) :=
    Prelude.evaluate_or setting levels choosing first second
  have conjunction : both = (run first).bind fun reached =>
      (run (if reached.1.isTruthy then second else first)).map fun last =>
        (.bool last.1.isTruthy, last.2) :=
    Prelude.evaluate_and setting levels choosing first second
  constructor
  · intro error fails
    have alone : run first = ⟨(run first).printed, .error error⟩ := by rw [← fails]
    exact ⟨disjunction.trans ((Run.bind_of_error fails _).trans alone.symm),
      conjunction.trans ((Run.bind_of_error fails _).trans alone.symm)⟩
  · intro value after succeeds printedTwice printedBoth
    rw [disjunction, conjunction, Run.bind_of_ok succeeds, Run.bind_of_ok succeeds]
    constructor
    · intro truthy
      rw [if_pos truthy, if_pos truthy, succeeds]
      exact ⟨rfl, rfl⟩
    · intro falsy
      have notTruthy : ¬ value.isTruthy = true := by rw [falsy]; exact Bool.false_ne_true
      rw [if_neg notTruthy, if_neg notTruthy, Run.map, succeeds]
      refine ⟨rfl, ?_⟩
      show Run.mk printedTwice (.ok (Value.bool value.isTruthy, after)) = _
      rw [falsy]

/-- A first argument that defines a name and prints is evaluated twice by `or`, and `and` goes on
without the definition. -/
theorem shortCircuit_defining :
    let environment : Environment Empty :=
      Prelude.load ((Environment.empty.bind "not" Primitive.not.toValue).redirect .log)
    let noting := Expr.form [.form [.symbol "def", .symbol "seen", .symbol "x"],
      .form [.symbol "print", .symbol "seen"]]
    let run := Evaluation.evaluate ⟨noHost, 100⟩ 10 environment
    let printed : Printed Empty := ⟨.log, [.symbol "x"]⟩
    Prelude.ChoosesIn environment ∧
      run noting =
        ⟨[printed], .ok (.list [.symbol "x"], environment.bind "seen" (.symbol "x"))⟩ ∧
      Evaluation.evaluate ⟨noHost, 100⟩ (10 + 2) environment
        (.form [.symbol "or", noting, .symbol "seen"]) =
        ⟨[printed, printed], .ok (.list [.symbol "x"], environment.bind "seen" (.symbol "x"))⟩ ∧
      Evaluation.evaluate ⟨noHost, 100⟩ (10 + 5) environment
        (.form [.symbol "and", noting, .symbol "seen"]) =
        ⟨[printed], .ok (.bool true, environment)⟩ := by
  intro environment noting run printed
  have choosing : Prelude.ChoosesIn environment := Prelude.choosesIn_load rfl rfl rfl
  have ran : run noting =
      ⟨[printed], .ok (.list [.symbol "x"], environment.bind "seen" (.symbol "x"))⟩ := rfl
  have unbound : run (.symbol "seen") = .ok (.symbol "seen", environment) := rfl
  have laws := shortCircuit ⟨noHost, 100⟩ 10 choosing noting (.symbol "seen")
  obtain ⟨either, both⟩ := (laws.2 _ _ (congrArg Run.outcome ran)).1 rfl
  refine ⟨choosing, ran, either.trans ?_, both.trans ?_⟩
  · show Run.mk ((run noting).printed ++ (run noting).printed) _ = _
    rw [ran]
    rfl
  · show Run.mk ((run noting).printed ++ (run (.symbol "seen")).printed)
      ((run (.symbol "seen")).outcome.map _) = _
    rw [ran, unbound]
    rfl

end Lisplet
