import Lisplet.Proofs.Runs
import Lisplet.Evaluation

/-!
# Forms that start with a name

What the evaluation of a form comes to when its first element is a symbol: a call of a macro is its
expansion (`Evaluation.evaluate_expansion`), the special form `if` is one of its branches
(`Evaluation.evaluate_if`), and a form of any other name is applied (`Evaluation.evaluate_applied`):
the value of the name to the values of the elements after it.

What comes out of an expression has its form already, so that a form around it adds nothing
(`Evaluation.evaluate_inForm`). In the equations below only the errors of a call get a form.
-/

set_option autoImplicit false

namespace Lisplet.Evaluation

variable {Host : Type} {setting : Setting Host}

/-! ## Symbols -/

theorem evaluate_symbol (levels : Nat) (environment : Environment Host) (name : String) :
    evaluate setting (levels + 1) environment (.symbol name) =
      .ok (environment.lookup name, environment) := by
  rw [evaluate_succ]
  rfl

theorem evaluateAll_symbols (levels : Nat) (environment : Environment Host) (names : List String) :
    evaluateAll (evaluate setting (levels + 1)) environment (names.map .symbol) =
      .ok (names.map environment.lookup, environment) := by
  induction names with
  | nil => rfl
  | cons name names ih =>
      rw [List.map_cons, evaluateAll, evaluate_symbol, Run.ok_bind]
      dsimp only
      rw [ih]
      rfl

/-! ## The form of an error -/

section InForm

variable (setting) (levels : Nat) (environment : Environment Host) (outer : Expr)

/-- An error that comes out of an expression keeps its form. -/
theorem evaluate_inForm (expr : Expr) :
    (evaluate setting levels environment expr).mapError (Error.inForm outer) =
      evaluate setting levels environment expr := by
  cases levels with
  | zero => rfl
  | succ levels =>
      rw [evaluate_succ]
      cases expr with
      | number _ | bool _ | symbol _ => rfl
      | form elements => exact Run.mapError_inForm_inForm _ (.form elements) outer

theorem evaluateAll_inForm (elements : List Expr) :
    (evaluateAll (evaluate setting levels) environment elements).mapError (Error.inForm outer) =
      evaluateAll (evaluate setting levels) environment elements := by
  induction elements generalizing environment with
  | nil => rfl
  | cons first rest ih =>
      simp only [evaluateAll, Run.mapError_bind, evaluate_inForm, ih, Run.mapError_ok]

end InForm

/-! ## Macros and special forms -/

section Forms

variable (setting) (inside : Inside Host) {environment : Environment Host}

/-- A call of a macro is its expansion, in the same environment. -/
theorem form_expansion (environment : Environment Host) {head : String} {arguments : List Expr}
    {definition : Macro} {expansion : Expr} (notMacro : head ≠ Binder.macroForm.keyword)
    (notDef : head ≠ Binder.defForm.keyword)
    (found : environment.macroNamed? head = some definition)
    (expanded : definition.expand head arguments = .ok expansion) :
    form setting inside environment (.symbol head :: arguments) =
      inside.expression environment expansion := by
  rw [form, if_neg notMacro, if_neg notDef, found]
  dsimp only
  rw [expanded]

theorem evaluate_expansion (levels : Nat) {head : String} {arguments : List Expr}
    {definition : Macro} {expansion : Expr} (notMacro : head ≠ Binder.macroForm.keyword)
    (notDef : head ≠ Binder.defForm.keyword)
    (found : environment.macroNamed? head = some definition)
    (expanded : definition.expand head arguments = .ok expansion) :
    evaluate setting (levels + 1) environment (.form (.symbol head :: arguments)) =
      evaluate setting levels environment expansion := by
  rw [evaluate_succ, expression, form_expansion _ _ _ notMacro notDef found expanded]
  exact evaluate_inForm setting levels environment _ expansion

/-- The special form `if` with both branches evaluates one of them. -/
theorem evaluate_if (levels : Nat) (noMacro : environment.macroNamed? ifKeyword = none)
    (test consequent alternative : Expr) :
    evaluate setting (levels + 1) environment
      (.form [.symbol ifKeyword, test, consequent, alternative]) =
      (evaluate setting levels environment test).bind fun reached =>
        evaluate setting levels environment
          (if reached.1.isTruthy then consequent else alternative) := by
  have chosen : form setting (Evaluation.inside setting levels) environment
      [.symbol ifKeyword, test, consequent, alternative] =
        (evaluate setting levels environment test).bind fun reached =>
          evaluate setting levels environment
            (if reached.1.isTruthy then consequent else alternative) := by
    rw [form, if_neg (by decide), if_neg (by decide), noMacro]
    dsimp only
    rw [if_neg (by decide), if_pos rfl]
    rfl
  rw [evaluate_succ, expression, chosen]
  simp only [Run.mapError_bind, evaluate_inForm]

/-! ## Other names -/

/-- The keywords of the special forms. -/
def keywords : List String :=
  [Binder.macroForm.keyword, Binder.defForm.keyword, Binder.fnForm.keyword, ifKeyword]

/-- A form that starts with any other name, which is not that of a macro either. -/
theorem form_of_name {setting : Setting Host} {inside : Inside Host} {head : String}
    (other : head ∉ keywords) (noMacro : environment.macroNamed? head = none)
    (arguments : List Expr) :
    form setting inside environment (.symbol head :: arguments) =
      sequence setting inside environment (.symbol head :: arguments) := by
  have different (keyword : String) (member : keyword ∈ keywords) : head ≠ keyword :=
    fun same => other (same ▸ member)
  rw [form, if_neg (different _ (by simp [keywords])), if_neg (different _ (by simp [keywords])),
    noMacro]
  dsimp only
  rw [if_neg (different _ (by simp [keywords])), if_neg (different _ (by simp [keywords]))]

section Applied

variable (levels : Nat) {head : String} (other : head ∉ keywords)
  (noMacro : environment.macroNamed? head = none) (arguments : List Expr)
include other noMacro

/-- With one level, not even the name is evaluated. -/
theorem evaluate_one :
    evaluate setting 1 environment (.form (.symbol head :: arguments)) = exceeded setting := by
  rw [evaluate_succ, expression, form_of_name other noMacro]
  rfl

/-- **A form of a name is the value of the name applied** to the values of the elements after it, in
the environment that these leave. -/
theorem evaluate_applied {callee : Value Host} (bound : environment.value? head = some callee) :
    evaluate setting (levels + 2) environment (.form (.symbol head :: arguments)) =
      (evaluateAll (evaluate setting (levels + 1)) environment arguments).bind fun reached =>
        ((apply (call setting (evaluate setting levels) maxChain reached.2)
          (callee :: reached.1)).mapError
          (Error.inForm (.form (.symbol head :: arguments)))).map fun value =>
            (value, reached.2) := by
  have elementwise : evaluateAll (Evaluation.inside setting (levels + 1)).expression environment
      (.symbol head :: arguments) =
        (evaluateAll (evaluate setting (levels + 1)) environment arguments).bind fun reached =>
          .ok (callee :: reached.1, reached.2) := by
    show Run.bind (evaluate setting (levels + 1) environment (.symbol head)) _ = _
    rw [evaluate_symbol, Environment.lookup, bound]
    rfl
  rw [evaluate_succ, expression, form_of_name other noMacro, sequence, elementwise, Run.bind_assoc,
    Run.mapError_bind, evaluateAll_inForm]
  refine congrArg (Run.bind _) (funext fun reached => ?_)
  rw [Run.ok_bind, Run.mapError_bind]
  exact (Run.map_eq_bind _ _).symm

/-- A form of the name of a function or a builtin is a call. -/
theorem evaluate_called {callee : Value Host} (bound : environment.value? head = some callee)
    (callable : callee.isCallable = true) :
    evaluate setting (levels + 2) environment (.form (.symbol head :: arguments)) =
      (evaluateAll (evaluate setting (levels + 1)) environment arguments).bind fun reached =>
        ((call setting (evaluate setting levels) maxChain reached.2 callee reached.1).mapError
          (Error.inForm (.form (.symbol head :: arguments)))).map fun value =>
            (value, reached.2) := by
  rw [evaluate_applied setting levels other noMacro arguments bound]
  simp only [apply_of_isCallable _ _ callable]

end Applied
end Forms
end Lisplet.Evaluation
