import Lisplet.Proofs.InTurn
import Lisplet.Proofs.Nesting

/-!
# The form that an error names

A type error names the form that was being evaluated when it was raised. Evaluation finds that form
late: the error is raised without one, and on its way out the first form that it passes is added.
The evaluator of this module does it the other way round (`Located.evaluate`): it passes the form
that is being evaluated down, and an error gets that form where it is raised. A form is inside the
form whose element it is, the expansion of a macro inside the call, and the body of a function
inside the form that calls it; an operation belongs to the form that calls it, also when another
operation calls it.

Both evaluators make the same runs (`Located.evaluate_eq`). The form of a program is never named,
since no error is raised in it: an error of a program is one of its expressions. So a type error
always names a form (`evaluation_namesInnermostForm`).
-/

set_option autoImplicit false

namespace Lisplet

variable {Host α β : Type}

/-! ## The evaluator that knows its form -/

namespace Located

open Evaluation (apply bindingName defineMacro makeFunction evaluateAll exceeded ifKeyword)

/-- Evaluation of an expression that stands in a form, or in none. -/
abbrev Evaluator (Host : Type) := Option Expr → Lisplet.Evaluator Host

/-- An error as it is raised while a form is evaluated: a type error that names no form names this
one. -/
def raised : Option Expr → Error → Error
  | none, error => error
  | some form, error => error.inForm form

/-- A run that prints nothing and ends as given, its error raised in a form. -/
def ended (current : Option Expr) : Except Error α → Run Host α
  | .ok result => .ok result
  | .error error => .fail (raised current error)

/-- Carries out an action for a form, given how a value is called for it. -/
def carryOut (current : Option Expr)
    (call : Value Host → List (Value Host) → Run Host (Value Host)) :
    Action Host → Run Host (Value Host)
  | .done value => .ok value
  | .fail error => .fail (raised current error)
  | .print sink values next => (carryOut current call next).afterPrinting ⟨sink, values⟩
  | .call callee arguments next =>
      (call callee arguments).bind fun value => carryOut current call (next value)

/-- A call of a value for a form. The body of a function starts out in the form that calls it. -/
def call (setting : Setting Host) (body : Evaluator Host) (current : Option Expr) :
    Nat → Environment Host → Value Host → List (Value Host) → Run Host (Value Host)
  | chain, environment, callee, arguments =>
      match callee with
      | .builtin _ operation =>
          match chain with
          | 0 => exceeded setting
          | further + 1 =>
              carryOut current (call setting body current further environment)
                (operation.perform setting.handler environment arguments)
      | .function parameters expression =>
          if arguments.length = parameters.length then
            (body current (environment.bindAll parameters arguments) expression).map Prod.fst
          else
            .fail (raised current
              (.arity callee.display (.exactly parameters.length) arguments.length))
      | other => .fail (raised current (.ofFault (.notCallable other.describe)))

/-- The form `(def name value)`. -/
def define (expression : Evaluator Host) (current : Option Expr) (environment : Environment Host) :
    List Expr → Run Host (Value Host × Environment Host)
  | [name, value] =>
      (ended current (bindingName .defForm name)).bind fun name =>
        (expression current environment value).map fun (value, _) =>
          (.null, environment.bind name value)
  | arguments =>
      .fail (raised current (.arity Binder.defForm.keyword (.exactly 2) arguments.length))

/-- The form `(if test consequent alternative)`. -/
def choose (expression : Evaluator Host) (current : Option Expr) (environment : Environment Host) :
    List Expr → Run Host (Value Host × Environment Host)
  | [test, consequent] =>
      (expression current environment test).bind fun (condition, _) =>
        if condition.isTruthy then expression current environment consequent
        else .ok (.null, environment)
  | [test, consequent, alternative] =>
      (expression current environment test).bind fun (condition, _) =>
        expression current environment (if condition.isTruthy then consequent else alternative)
  | arguments => .fail (raised current (.arity ifKeyword (.between 2 3) arguments.length))

/-- How the parts of a form are evaluated. -/
structure Inside (Host : Type) where
  expression : Evaluator Host
  body : Evaluator Host

/-- A form that is neither a special form nor a call of a macro. -/
def sequence (setting : Setting Host) (inside : Inside Host) (current : Option Expr)
    (environment : Environment Host) (elements : List Expr) :
    Run Host (Value Host × Environment Host) :=
  (evaluateAll (inside.expression current) environment elements).bind fun (values, environment) =>
    (apply (call setting inside.body current maxChain environment) values).bind fun value =>
      .ok (value, environment)

/-- The elements of a form, evaluated while the given form is the innermost one. -/
def form (setting : Setting Host) (inside : Inside Host) (current : Option Expr)
    (environment : Environment Host) (elements : List Expr) :
    Run Host (Value Host × Environment Host) :=
  match elements with
  | .symbol head :: arguments =>
      if head = Binder.macroForm.keyword then ended current (defineMacro environment arguments)
      else if head = Binder.defForm.keyword then
        define inside.expression current environment arguments
      else
        match environment.macroNamed? head with
        | some definition =>
            (ended current (definition.expand head arguments)).bind fun expansion =>
              inside.expression current environment expansion
        | none =>
            if head = Binder.fnForm.keyword then ended current (makeFunction environment arguments)
            else if head = ifKeyword then choose inside.expression current environment arguments
            else sequence setting inside current environment elements
  | _ => sequence setting inside current environment elements

/-- An expression in a form. A form is the innermost one for all that happens in it. -/
def expression (setting : Setting Host) (inside : Inside Host) (_current : Option Expr)
    (environment : Environment Host) : Expr → Run Host (Value Host × Environment Host)
  | .number value => .ok (.number (Float.ofInt value.toInt), environment)
  | .bool value => .ok (.bool value, environment)
  | .symbol name => .ok (environment.lookup name, environment)
  | .form elements => form setting inside (some (.form elements)) environment elements

/-- An expression in a form, with the given number of levels left. -/
def evaluate (setting : Setting Host) : Nat → Evaluator Host
  | 0, _, _, _ => exceeded setting
  | levels + 1, current, environment, expr =>
      expression setting
        ⟨evaluate setting levels,
          match levels with
          | 0 => fun _ _ _ => exceeded setting
          | deeper + 1 => evaluate setting deeper⟩
        current environment expr

/-- How the parts of a form are evaluated when the given number of levels is left inside it. -/
def inside (setting : Setting Host) (levels : Nat) : Inside Host :=
  ⟨evaluate setting levels, evaluate setting (levels - 1)⟩

theorem evaluate_succ (setting : Setting Host) (levels : Nat) (current : Option Expr)
    (environment : Environment Host) (expr : Expr) :
    evaluate setting (levels + 1) current environment expr =
      expression setting (inside setting levels) current environment expr := by
  cases levels <;> rfl

/-- The expressions of a program as the elements of a form that no error names. -/
def evaluateProgram (setting : Setting Host) (environment : Environment Host)
    (program : List Expr) :
    Run Host (Value Host × Environment Host) :=
  match setting.limit with
  | 0 => exceeded setting
  | levels + 1 => form setting (inside setting levels) none environment program

/-- Reads a program and runs it, with the prelude in front, in an environment. -/
def runProgram (handler : Handler Host) (limits : Limits) (environment : Environment Host)
    (source : String) : Run Host (Value Host) :=
  match parseProgram limits.reading source with
  | .error error => .fail error
  | .ok program =>
      (evaluateProgram ⟨handler, limits.evaluation⟩ environment (Prelude.program ++ program)).map
        Prod.fst

/-! ## The form added on the way out -/

/-- What an evaluator does in a form is what another one does, with the form added to the error that
comes out. -/
def Locates (located : Evaluator Host) (plain : Lisplet.Evaluator Host) : Prop :=
  ∀ current environment expr,
    located current environment expr = (plain environment expr).mapError (raised current)

theorem ended_eq (current : Option Expr) (outcome : Except Error α) :
    (ended current outcome : Run Host α) = (Run.ofExcept outcome).mapError (raised current) := by
  cases outcome <;> rfl

theorem fail_mapError (current : Option Expr) (error : Error) :
    (Run.fail error : Run Host α).mapError (raised current) = .fail (raised current error) := rfl

theorem exceeded_mapError (setting : Setting Host) (current : Option Expr) :
    (exceeded setting : Run Host α).mapError (raised current) = exceeded setting := by
  cases current <;> rfl

/-- A form that stands in another one keeps its errors to itself. -/
theorem raised_comp_inForm (current : Option Expr) (form : Expr) :
    raised current ∘ Error.inForm form = Error.inForm form := by
  funext error
  cases current with
  | none => rfl
  | some outer => exact Error.inForm_inForm form outer error

/-- Where the form is added to the error of each of two runs, it is added to the error of both
together. -/
theorem bind_eq {current : Option Expr} {located plain : Run Host α}
    {locatedNext plainNext : α → Run Host β} (first : located = plain.mapError (raised current))
    (later : ∀ reached, locatedNext reached = (plainNext reached).mapError (raised current)) :
    located.bind locatedNext = (plain.bind plainNext).mapError (raised current) := by
  rw [first, Run.mapError_bind]
  exact congrArg _ (funext later)

/-! ### Calls -/

section Calls

variable {setting : Setting Host} {current : Option Expr}

theorem carryOut_eq {located plain : Value Host → List (Value Host) → Run Host (Value Host)}
    (calls : ∀ callee arguments,
      located callee arguments = (plain callee arguments).mapError (raised current))
    (action : Action Host) :
    carryOut current located action = (action.run plain).mapError (raised current) := by
  induction action with
  | done value => rfl
  | fail error => rfl
  | print sink values next ih =>
      rw [carryOut, ih]
      rfl
  | call callee arguments next ih =>
      rw [carryOut, Action.run]
      exact bind_eq (calls callee arguments) ih

theorem call_eq {located : Evaluator Host} {plain : Lisplet.Evaluator Host}
    (bodies : Locates located plain) :
    ∀ (chain : Nat) (environment : Environment Host) (callee : Value Host)
      (arguments : List (Value Host)),
        call setting located current chain environment callee arguments =
          (Evaluation.call setting plain chain environment callee arguments).mapError
            (raised current)
  | chain, environment, .function parameters expression, arguments => by
      rw [Evaluation.call_function]
      unfold call
      dsimp only
      split
      · rw [bodies, Run.mapError_map]
      · rfl
  | 0, environment, .builtin id operation, arguments => (exceeded_mapError setting current).symm
  | further + 1, environment, .builtin id operation, arguments => by
      rw [Evaluation.call_builtin]
      exact carryOut_eq (call_eq bodies further environment) _
  | chain, environment, .null, arguments
  | chain, environment, .number _, arguments
  | chain, environment, .bool _, arguments
  | chain, environment, .symbol _, arguments
  | chain, environment, .vector _, arguments
  | chain, environment, .list _, arguments => by
      rw [Evaluation.call_of_not_isCallable _ _ _ _ _ rfl, fail_mapError]
      unfold call
      rfl

theorem apply_eq {located plain : Value Host → List (Value Host) → Run Host (Value Host)}
    (calls : ∀ callee arguments,
      located callee arguments = (plain callee arguments).mapError (raised current))
    (values : List (Value Host)) :
    apply located values = (apply plain values).mapError (raised current) := by
  unfold apply
  split
  · rfl
  · rfl
  · split
    · exact calls _ _
    · rfl

end Calls

/-! ### Forms and expressions -/

section Forms

variable {located : Evaluator Host} {plain : Lisplet.Evaluator Host}
    (locates : Locates located plain)
include locates

theorem Locates.evaluateAll_eq (current : Option Expr) (environment : Environment Host)
    (elements : List Expr) :
    evaluateAll (located current) environment elements =
      (evaluateAll plain environment elements).mapError (raised current) := by
  induction elements generalizing environment with
  | nil => rfl
  | cons first rest ih =>
      rw [evaluateAll, evaluateAll]
      refine bind_eq (locates current environment first) fun reached => ?_
      exact bind_eq (ih reached.2) fun _ => rfl

theorem Locates.define_eq (current : Option Expr) (environment : Environment Host)
    (arguments : List Expr) :
    define located current environment arguments =
      (Evaluation.define plain environment arguments).mapError (raised current) := by
  match arguments with
  | [name, value] =>
      rw [define, Evaluation.define]
      cases bindingName .defForm name with
      | error error => rfl
      | ok name =>
          rw [ended, Run.ok_bind, locates]
          exact (Run.mapError_map _ _ _).symm
  | [] => rfl
  | [_] => rfl
  | _ :: _ :: _ :: _ => rfl

theorem Locates.choose_eq (current : Option Expr) (environment : Environment Host)
    (arguments : List Expr) :
    choose located current environment arguments =
      (Evaluation.choose plain environment arguments).mapError (raised current) := by
  match arguments with
  | [test, consequent] =>
      refine bind_eq (locates current environment test) fun reached => ?_
      dsimp only
      split
      · exact locates current environment consequent
      · rfl
  | [test, consequent, alternative] =>
      exact bind_eq (locates current environment test) fun _ => locates current environment _
  | [] => rfl
  | [_] => rfl
  | _ :: _ :: _ :: _ :: _ => rfl

end Forms

section Inside

variable {setting : Setting Host} {located : Inside Host} {plain : Evaluation.Inside Host}
  (inner : Locates located.expression plain.expression) (bodies : Locates located.body plain.body)
include inner bodies

theorem sequence_eq (current : Option Expr) (environment : Environment Host)
    (elements : List Expr) :
    sequence setting located current environment elements =
      (Evaluation.sequence setting plain environment elements).mapError (raised current) := by
  refine bind_eq (inner.evaluateAll_eq current environment elements) fun reached => ?_
  exact bind_eq (apply_eq (call_eq bodies maxChain reached.2) reached.1) fun _ => rfl

theorem form_eq (current : Option Expr) (environment : Environment Host) (elements : List Expr) :
    form setting located current environment elements =
      (Evaluation.form setting plain environment elements).mapError (raised current) := by
  have sequenced : sequence setting located current environment elements =
      (Evaluation.sequence setting plain environment elements).mapError (raised current) :=
    sequence_eq inner bodies current environment elements
  cases elements with
  | nil => exact sequenced
  | cons head arguments =>
      cases head with
      | number _ | bool _ | form _ => exact sequenced
      | symbol head =>
          rw [form, Evaluation.form]
          split
          · exact ended_eq current _
          split
          · exact inner.define_eq current environment arguments
          cases environment.macroNamed? head with
          | some definition =>
              dsimp only
              cases definition.expand head arguments with
              | error error => rfl
              | ok expansion => exact inner current environment expansion
          | none =>
              dsimp only
              split
              · exact ended_eq current _
              split
              · exact inner.choose_eq current environment arguments
              · exact sequenced

theorem locates_expression :
    Locates (expression setting located) (Evaluation.expression setting plain) := by
  intro current environment expr
  cases expr with
  | number value => rfl
  | bool value => rfl
  | symbol name => rfl
  | form elements =>
      rw [expression, Evaluation.expression, form_eq inner bodies, Run.mapError_mapError,
        raised_comp_inForm]
      rfl

end Inside

/-- **Evaluation in a form adds the form to the error that comes out**, unless it names one from
further inside. The induction reaches two levels down, to the bodies of functions. -/
theorem locates_evaluate (setting : Setting Host) (levels : Nat) :
    Locates (evaluate setting levels) (Evaluation.evaluate setting levels) := by
  induction levels using Nat.strongRecOn with
  | ind levels ih =>
      intro current environment expr
      cases levels with
      | zero => exact (exceeded_mapError setting current).symm
      | succ levels =>
          rw [evaluate_succ, Evaluation.evaluate_succ]
          have inner := ih levels (Nat.lt_succ_self levels)
          have bodies := ih (levels - 1) (by omega)
          exact locates_expression inner bodies current environment expr

/-- Outside of all forms nothing is added. -/
theorem mapError_raised_none (run : Run Host α) : run.mapError (raised none) = run := by
  obtain ⟨printed, outcome⟩ := run
  cases outcome <;> rfl

/-- An expression that stands in no form is evaluated to the same run. -/
theorem evaluate_eq (setting : Setting Host) (environment : Environment Host) (expr : Expr) :
    evaluate setting setting.limit none environment expr =
      Lisplet.evaluate setting environment expr := by
  rw [locates_evaluate, mapError_raised_none]
  rfl

theorem evaluateProgram_eq (setting : Setting Host) (environment : Environment Host)
    (program : List Expr) :
    evaluateProgram setting environment program =
      Lisplet.evaluateProgram setting environment program := by
  unfold evaluateProgram Lisplet.evaluateProgram
  cases setting.limit with
  | zero => rfl
  | succ levels =>
      dsimp only
      have parts : form setting (inside setting levels) none environment program =
          (Evaluation.form setting (Evaluation.inside setting levels) environment program).mapError
            (raised none) :=
        form_eq (locates_evaluate setting levels) (locates_evaluate setting (levels - 1)) none
          environment program
      rw [parts, mapError_raised_none]

theorem runProgram_eq (handler : Handler Host) (limits : Limits) (environment : Environment Host)
    (source : String) :
    runProgram handler limits environment source =
      Lisplet.runProgram handler limits environment source := by
  unfold runProgram Lisplet.runProgram
  cases parseProgram limits.reading source with
  | error error => rfl
  | ok program =>
      dsimp only
      rw [evaluateProgram_eq]

end Located

/-! ## Type errors name a form -/

/-- A type error, if it names anything, names a form. -/
def Error.NamesNoOther (error : Error) : Prop :=
  ∀ fault named, error = .type fault (some named) →
    ∃ elements, named = (Expr.form elements).display

/-- A type error names a form. -/
def Error.NamesForm (error : Error) : Prop :=
  ∀ fault named, error = .type fault named →
    ∃ elements, named = some (Expr.form elements).display

namespace Error

variable {error : Error}

/-- An error of another kind is no type error. -/
theorem namesForm_of_ne_type (other : ∀ fault named, error ≠ .type fault named) : error.NamesForm :=
  fun fault named same => absurd same (other fault named)

theorem namesForm_parse (mistake : ParseError) : (Error.parse mistake).NamesForm :=
  namesForm_of_ne_type fun _ _ same => by cases same

theorem namesForm_depthExceeded (limit : Nat) : (Error.depthExceeded limit).NamesForm :=
  namesForm_of_ne_type fun _ _ same => by cases same

theorem NamesForm.namesNoOther (names : error.NamesForm) : error.NamesNoOther := by
  intro fault named same
  obtain ⟨elements, form⟩ := names fault (some named) same
  exact ⟨elements, Option.some.inj form⟩

/-- An error that comes out of a form names this form or one from further inside. -/
theorem NamesNoOther.inForm (names : error.NamesNoOther) (elements : List Expr) :
    (error.inForm (.form elements)).NamesForm := by
  intro fault named same
  cases error with
  | type raisedFault form =>
      cases form with
      | none =>
          cases same
          exact ⟨elements, rfl⟩
      | some form =>
          cases same
          obtain ⟨inner, shown⟩ := names fault form rfl
          exact ⟨inner, congrArg some shown⟩
  | parse _ | arity _ _ _ | depthExceeded _ | nestingTooDeep _ => cases same

theorem namesNoOther_of_isRaisable (raisable : error.isRaisable = true) : error.NamesNoOther := by
  rintro fault named rfl
  cases fault <;> cases raisable

end Error

namespace Invariant

theorem native_namesNoOther : (language Error.NamesNoOther : Invariant Host).Native :=
  native_language (fun _ => Error.namesNoOther_of_isRaisable)
    fun elements _ names => (names.inForm elements).namesNoOther

/-- What comes out of a form names a form. -/
theorem Ensures.inForm {result : α → Prop} {run : Run Host α}
    (kept : (language Error.NamesNoOther).Ensures result run) (elements : List Expr) :
    (language Error.NamesForm).Ensures result (run.mapError (Error.inForm (.form elements))) := by
  obtain ⟨printed, outcome⟩ := run
  cases outcome with
  | ok reached => exact ⟨kept.printed, kept.outcome⟩
  | error raised => exact ⟨kept.printed, Error.NamesNoOther.inForm kept.outcome elements⟩

/-- No type error comes out of an expression that does not name a form. -/
theorem keptBy_evaluate_namesForm (setting : Setting Host) (levels : Nat) :
    (language Error.NamesForm).KeptBy (Evaluation.evaluate setting levels) := by
  intro environment expr start
  cases levels with
  | zero => exact ensures_fail (Error.namesForm_depthExceeded setting.limit)
  | succ levels =>
      rw [Evaluation.evaluate_succ]
      cases expr with
      | number value => exact ensures_ok ⟨rfl, start⟩
      | bool value => exact ensures_ok ⟨rfl, start⟩
      | symbol name => exact ensures_ok ⟨start.lookup (fun _ => rfl) name, start⟩
      | form elements =>
          have closed := native_namesNoOther.closed setting
          have parts : (language Error.NamesNoOther).Ensures (language Error.NamesNoOther).Reached
              (Evaluation.form setting (Evaluation.inside setting levels) environment elements) :=
            closed.ensures_form (closed.keptBy_evaluate levels)
              (closed.keptBy_evaluate (levels - 1))
              elements start
          exact parts.inForm elements

/-- A program ends with the error of one of its expressions, or for want of levels. -/
theorem ensures_evaluateProgram_namesForm (setting : Setting Host) {environment : Environment Host}
    (program : List Expr) (start : (language Error.NamesForm).environment environment) :
    (language Error.NamesForm).Ensures (fun _ => True)
      (evaluateProgram setting environment (Prelude.program ++ program)) := by
  unfold evaluateProgram
  split
  · exact ensures_fail (Error.namesForm_depthExceeded setting.limit)
  · rename_i levels _
    rw [Evaluation.form_prelude_append]
    have elements := ensures_evaluateAll (keptBy_evaluate_namesForm setting levels)
      (Prelude.program ++ program) start
    exact ensures_map elements fun _ _ => trivial

/-- A text that is no program ends with an error that is no type error. -/
theorem ensures_runProgram_namesForm (handler : Handler Host) (limits : Limits)
    {environment : Environment Host} (source : String)
    (start : (language Error.NamesForm).environment environment) :
    (language Error.NamesForm).Ensures (fun _ => True)
      (runProgram handler limits environment source) := by
  rw [runProgram, parseProgram]
  cases Source.program limits.reading source.toList with
  | error mistake => exact ensures_fail (Error.namesForm_parse mistake)
  | ok program =>
      exact ensures_map
        (ensures_evaluateProgram_namesForm ⟨handler, limits.evaluation⟩ program start)
        fun _ _ => trivial

end Invariant

/-- **A type error names the innermost form**, in every environment without operations of a host. An
expression and a program make the same run as under the evaluator that passes the innermost form
down and adds it where an error is raised, and a type error that they end with names a form. -/
theorem evaluation_namesInnermostForm (handler : Handler Host) {environment : Environment Host}
    (native : environment.Binds fun value => value.isNative = true) :
    (∀ limit expr,
      let run := evaluate ⟨handler, limit⟩ environment expr
      run = Located.evaluate ⟨handler, limit⟩ limit none environment expr ∧
        ∀ error, run.outcome = .error error → error.NamesForm) ∧
      ∀ limits source,
        let run := runProgram handler limits environment source
        run = Located.runProgram handler limits environment source ∧
          ∀ error, run.outcome = .error error → error.NamesForm := by
  constructor
  · intro limit expr run
    refine ⟨(Located.evaluate_eq ⟨handler, limit⟩ environment expr).symm, fun error fails => ?_⟩
    have named := Invariant.keptBy_evaluate_namesForm ⟨handler, limit⟩ limit environment expr native
    exact named.raised fails
  · intro limits source run
    refine ⟨(Located.runProgram_eq handler limits environment source).symm, fun error fails => ?_⟩
    exact (Invariant.ensures_runProgram_namesForm handler limits source native).raised fails

/-- A fold whose function adds truth values: the error names the body of the function, which the
operation calls, and not the fold. -/
theorem evaluation_namesInnermostForm_folding :
    let addition := Expr.form [.symbol "+", .symbol "total", .symbol "item"]
    let adder := Expr.form [.symbol "fn", .form [.symbol "total", .symbol "item"], addition]
    let fold := Expr.form [.symbol "reduce", adder, .symbol "false",
      .form [.symbol "arrayOf", .symbol "true"]]
    let start : Environment Empty := globalEnvironment .log
    let error := Error.type (.notNumber (Value.bool false : Value Empty).describe)
      (some addition.display)
    (start.Binds fun value => value.isNative = true) ∧
      evaluate ⟨noHost, 100⟩ start fold = Located.evaluate ⟨noHost, 100⟩ 100 none start fold ∧
      (evaluate ⟨noHost, 100⟩ start fold).outcome = .error error ∧
      error.NamesForm := by
  intro addition adder fold start error
  have native : start.Binds fun value => value.isNative = true := fun name value found =>
    (globalEnvironment_withinNesting .log name value found).1
  have fails : (evaluate ⟨noHost, 100⟩ start fold).outcome = .error error := rfl
  have ⟨same, names⟩ := (evaluation_namesInnermostForm noHost native).1 100 fold
  exact ⟨native, same, fails, names error fails⟩

end Lisplet
