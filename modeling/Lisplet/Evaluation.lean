import Lisplet.Primitive
import Lisplet.Run

/-!
# Evaluation

Evaluating an expression in an environment gives a value and an environment. Most expressions give
back the environment that they got. A form of the special forms `def` and `macro` gives one with a
further binding, and a form hands the environment from each of its elements to the next: so a
definition is visible to what follows in the same form, and nowhere else. A function has no
environment of its own; its body is evaluated in the environment of the call with the parameters
bound, and whatever the body defines is gone when it returns.

## The order of the rules for a form

The special forms `macro` and `def` come first, then the macros of the environment, then the special
forms `fn` and `if`. Any other form is evaluated element by element and applied: a vector in front
is indexed, a function or a builtin is called, and in all other cases the last value is the result.

## Levels

There is a limit on the depth of evaluation. Every expression is a level deeper than the form it
stands in, an expansion is a level deeper than the form it replaces, and the body of a function is
two levels deeper than the form that calls it. `evaluate` counts the levels that are left.

Calls from one builtin to another take no level, and the language sets them no limit. Operations of
a host may call one another without end, so the recursion of `call` is over a bound on them,
`maxChain`. The builtins of the language themselves never come near it: no three of them ever call
one another in a row.
-/

set_option autoImplicit false

namespace Lisplet

variable {Host : Type}

/-- Evaluation of an expression in an environment. -/
abbrev Evaluator (Host : Type) :=
  Environment Host → Expr → Run Host (Value Host × Environment Host)

/-- What evaluation goes by: the operations of the host and the limit on the depth. -/
structure Setting (Host : Type) where
  handler : Handler Host
  limit : Nat

/-- The limit on the depth of evaluation, unless a caller sets another. -/
def defaultEvaluationLimit : Nat := 10000

/-- The most builtins in a row that `call` lets call one another, with no function among them. It is
not a limit of the language: it only makes the recursion of a host's operations end, and where all
values are of the language no call reaches it (`evaluation_guarded`). -/
def maxChain : Nat := 10000

namespace Evaluation

/-- The run that ends because the limit on the depth is reached. -/
def exceeded {α : Type} (setting : Setting Host) :
    Run Host α := .fail (.depthExceeded setting.limit)

/-! ## Calls -/

/-- A call of a value in an environment. The evaluator is the one for bodies of functions. The
number bounds the builtins that call one another, so that the recursion ends. -/
def call (setting : Setting Host) (body : Evaluator Host) :
    Nat → Environment Host → Value Host → List (Value Host) → Run Host (Value Host)
  | chain, environment, callee, arguments =>
      match callee with
      | .builtin _ operation =>
          match chain with
          | 0 => exceeded setting
          | further + 1 =>
              (operation.perform setting.handler environment arguments).run
                (call setting body further environment)
      | .function parameters expression =>
          if arguments.length = parameters.length then
            (body (environment.bindAll parameters arguments) expression).map Prod.fst
          else
            .fail (.arity callee.display (.exactly parameters.length) arguments.length)
      | other => .fail (.ofFault (.notCallable other.describe))

theorem call_function (setting : Setting Host) (body : Evaluator Host) (chain : Nat)
    (environment : Environment Host) (parameters : List String) (expression : Expr)
    (arguments : List (Value Host)) :
    call setting body chain environment (.function parameters expression) arguments =
      if arguments.length = parameters.length then
        (body (environment.bindAll parameters arguments) expression).map Prod.fst
      else
        .fail (.arity (Value.function parameters expression : Value Host).display
          (.exactly parameters.length) arguments.length) := by
  cases chain <;> rfl

theorem call_builtin (setting : Setting Host) (body : Evaluator Host) (further : Nat)
    (environment : Environment Host) (id : String) (operation : Operation Host)
    (arguments : List (Value Host)) :
    call setting body (further + 1) environment (.builtin id operation) arguments =
      (operation.perform setting.handler environment arguments).run
        (call setting body further environment) := rfl

theorem call_of_not_isCallable (setting : Setting Host) (body : Evaluator Host) (chain : Nat)
    (environment : Environment Host) {callee : Value Host} (arguments : List (Value Host))
    (notCallable : callee.isCallable = false) :
    call setting body chain environment callee arguments =
      .fail (.ofFault (.notCallable callee.describe)) := by
  cases callee with
  | function _ _ | builtin _ _ => cases notCallable
  | null | number _ | bool _ | symbol _ | vector _ | list _ => cases chain <;> rfl

/-- The values of the elements of a form applied: the first value indexed with the second, called on
the others, or passed over for the last. -/
def apply (call : Value Host → List (Value Host) → Run Host (Value Host)) :
    List (Value Host) → Run Host (Value Host)
  | [] => .ok .null
  | .vector items :: arguments => .ok (Value.index items arguments.head?)
  | callee :: arguments =>
      if callee.isCallable then call callee arguments else .ok (arguments.getLastD callee)

theorem apply_of_ne_vector (call : Value Host → List (Value Host) → Run Host (Value Host))
    {callee : Value Host} (arguments : List (Value Host))
    (other : ∀ items, callee ≠ .vector items) :
    apply call (callee :: arguments) =
      if callee.isCallable then call callee arguments else .ok (arguments.getLastD callee) := by
  cases callee with
  | vector items => exact absurd rfl (other items)
  | null | number _ | bool _ | symbol _ | list _ | function _ _ | builtin _ _ => rfl

theorem apply_of_isCallable (call : Value Host → List (Value Host) → Run Host (Value Host))
    {callee : Value Host} (arguments : List (Value Host)) (callable : callee.isCallable = true) :
    apply call (callee :: arguments) = call callee arguments := by
  have other : ∀ items, callee ≠ .vector items := by
    rintro items rfl
    cases callable
  rw [apply_of_ne_vector call arguments other, if_pos callable]

/-! ## Special forms -/

/-- The name that a form binds. -/
def bindingName (binder : Binder) : Expr → Except Error String
  | .symbol name => .ok name
  | other => .error (.ofFault (.nameNotSymbol binder other.display))

/-- The name of one parameter. -/
def parameterName (binder : Binder) : Expr → Except Error String
  | .symbol name => .ok name
  | other => .error (.ofFault (.parameterNotSymbol binder other.display))

/-- The names of several parameters. -/
def parameterNames (binder : Binder) : List Expr → Except Error (List String)
  | [] => .ok []
  | first :: rest =>
      (parameterName binder first).bind fun name =>
        (parameterNames binder rest).map (name :: ·)

/-- The names in a list of parameters. -/
def parameters (binder : Binder) : Expr → Except Error (List String)
  | .form elements => parameterNames binder elements
  | other => .error (.ofFault (.parametersNotList binder other.display))

/-- The form `(macro name (parameter …) template)` binds a macro. -/
def defineMacro (environment : Environment Host) :
    List Expr → Except Error (Value Host × Environment Host)
  | [name, names, template] =>
      (bindingName .macroForm name).bind fun name =>
        (parameters .macroForm names).map fun names =>
          (.null, environment.bindMacro name ⟨names, template⟩)
  | arguments => .error (.arity Binder.macroForm.keyword (.exactly 3) arguments.length)

/-- The form `(def name value)` binds a value, which is evaluated in the environment of the form. -/
def define (expression : Evaluator Host) (environment : Environment Host) :
    List Expr → Run Host (Value Host × Environment Host)
  | [name, value] =>
      match bindingName .defForm name with
      | .error error => .fail error
      | .ok name =>
          (expression environment value).map fun (value, _) => (.null, environment.bind name value)
  | arguments => .fail (.arity Binder.defForm.keyword (.exactly 2) arguments.length)

/-- The form `(fn (parameter …) body)` is a function. -/
def makeFunction (environment : Environment Host) :
    List Expr → Except Error (Value Host × Environment Host)
  | [names, body] =>
      (parameters .fnForm names).map fun names => (.function names body, environment)
  | arguments => .error (.arity Binder.fnForm.keyword (.exactly 2) arguments.length)

/-- The keyword of the form that chooses. -/
def ifKeyword : String := "if"

/-- The form `(if test consequent alternative)` evaluates one of its two branches, in the
environment of the form; without an alternative its value is null when the test fails. -/
def choose (expression : Evaluator Host) (environment : Environment Host) :
    List Expr → Run Host (Value Host × Environment Host)
  | [test, consequent] =>
      (expression environment test).bind fun (condition, _) =>
        if condition.isTruthy then expression environment consequent
        else .ok (.null, environment)
  | [test, consequent, alternative] =>
      (expression environment test).bind fun (condition, _) =>
        expression environment (if condition.isTruthy then consequent else alternative)
  | arguments => .fail (.arity ifKeyword (.between 2 3) arguments.length)

/-! ## Forms and expressions -/

/-- How the parts of a form are evaluated: its elements and its expansion, and the body of the
function that it calls. -/
structure Inside (Host : Type) where
  expression : Evaluator Host
  body : Evaluator Host

/-- Expressions evaluated one after the other, each in the environment that the one before it gives:
their values, and the last environment. -/
def evaluateAll (expression : Evaluator Host) :
    Environment Host → List Expr → Run Host (List (Value Host) × Environment Host)
  | environment, [] => .ok ([], environment)
  | environment, first :: rest =>
      (expression environment first).bind fun (value, environment) =>
        (evaluateAll expression environment rest).bind fun (values, environment) =>
          .ok (value :: values, environment)

/-- A form that is neither a special form nor a call of a macro. -/
def sequence (setting : Setting Host) (inside : Inside Host) (environment : Environment Host)
    (elements : List Expr) : Run Host (Value Host × Environment Host) :=
  (evaluateAll inside.expression environment elements).bind fun (values, environment) =>
    (apply (call setting inside.body maxChain environment) values).bind fun value =>
      .ok (value, environment)

/-- A form with the given elements. -/
def form (setting : Setting Host) (inside : Inside Host) (environment : Environment Host)
    (elements : List Expr) : Run Host (Value Host × Environment Host) :=
  match elements with
  | .symbol head :: arguments =>
      if head = Binder.macroForm.keyword then .ofExcept (defineMacro environment arguments)
      else if head = Binder.defForm.keyword then define inside.expression environment arguments
      else
        match environment.macroNamed? head with
        | some definition =>
            match definition.expand head arguments with
            | .error error => .fail error
            | .ok expansion => inside.expression environment expansion
        | none =>
            if head = Binder.fnForm.keyword then .ofExcept (makeFunction environment arguments)
            else if head = ifKeyword then choose inside.expression environment arguments
            else sequence setting inside environment elements
  | _ => sequence setting inside environment elements

/-- An expression, given how the parts of a form are evaluated. A type error in a form gets the
form, unless it has one from further inside. -/
def expression (setting : Setting Host) (inside : Inside Host) (environment : Environment Host) :
    Expr → Run Host (Value Host × Environment Host)
  | .number value => .ok (.number (Float.ofInt value.toInt), environment)
  | .bool value => .ok (.bool value, environment)
  | .symbol name => .ok (environment.lookup name, environment)
  | .form elements =>
      (form setting inside environment elements).mapError (Error.inForm (.form elements))

/-- An expression with the given number of levels left. -/
def evaluate (setting : Setting Host) :
    Nat → Environment Host → Expr → Run Host (Value Host × Environment Host)
  | 0, _, _ => exceeded setting
  | levels + 1, environment, expr =>
      expression setting
        ⟨evaluate setting levels,
          match levels with
          | 0 => fun _ _ => exceeded setting
          | deeper + 1 => evaluate setting deeper⟩
        environment expr

/-- How the parts of a form are evaluated when the given number of levels is left inside it. -/
def inside (setting : Setting Host) (levels : Nat) : Inside Host :=
  ⟨evaluate setting levels, evaluate setting (levels - 1)⟩

theorem evaluate_zero (setting : Setting Host) (environment : Environment Host) (expr : Expr) :
    evaluate setting 0 environment expr = exceeded setting := rfl

theorem evaluate_succ (setting : Setting Host) (levels : Nat) (environment : Environment Host)
    (expr : Expr) :
    evaluate setting (levels + 1) environment expr =
      expression setting (inside setting levels) environment expr := by
  cases levels <;> rfl

end Evaluation

open Evaluation in
/-- Evaluates one expression. -/
def evaluate (setting : Setting Host) (environment : Environment Host) (expr : Expr) :
    Run Host (Value Host × Environment Host) :=
  Evaluation.evaluate setting setting.limit environment expr

open Evaluation in
/-- Evaluates the expressions of a program as the elements of one form, so that each sees the
definitions made before it. -/
def evaluateProgram (setting : Setting Host) (environment : Environment Host)
    (program : List Expr) : Run Host (Value Host × Environment Host) :=
  match setting.limit with
  | 0 => exceeded setting
  | levels + 1 => form setting (inside setting levels) environment program

end Lisplet
