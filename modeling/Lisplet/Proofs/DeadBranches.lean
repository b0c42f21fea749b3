import Lisplet.Proofs.DepthLimit
import Lisplet.Proofs.Nesting

/-!
# Calls that are never made

A call of a value that is neither a function nor a builtin is an error, and the recursion of `call`
is over a bound on builtins that call one another. Neither matters to the language without a host. A
form calls the value in front of it only when it can be called, and so does a fold. And the builtins
that a fold calls get two arguments each, with which none of them calls anything: `reduce` takes
three.

The evaluator of this module has no rule for the two cases: it ends such a call with a run that is
given beforehand, whatever it prints and however it ends (`Guarded.evaluate`). There is room for two
builtins that have called one another, and no more, between an expression and the next one to be
evaluated. Where all values are of the language, the run is never used: the runs of this evaluator
are those of the other (`Guarded.evaluate_eq`).
-/

set_option autoImplicit false

namespace Lisplet

variable {Host α β : Type}

/-! ## Evaluators that agree -/

namespace Invariant

variable {invariant : Invariant Host}

/-- Two evaluators make the same runs in admitted environments. -/
def Agree (invariant : Invariant Host) (left right : Evaluator Host) : Prop :=
  ∀ environment expr, invariant.environment environment →
    left environment expr = right environment expr

/-- How a run goes on matters only for the results that it can have. -/
theorem Ensures.bind_congr {result : α → Prop} {first : Run Host α}
    (ensured : invariant.Ensures result first) {left right : α → Run Host β}
    (same : ∀ reached, result reached → left reached = right reached) :
    first.bind left = first.bind right := by
  obtain ⟨printed, outcome⟩ := first
  cases outcome with
  | error _ => rfl
  | ok reached =>
      exact congrArg (fun second : Run Host β => Run.mk (printed ++ second.printed) second.outcome)
        (same reached ensured.outcome)

theorem apply_congr {left right : Value Host → List (Value Host) → Run Host (Value Host)}
    (same : ∀ callee arguments, callee.isCallable = true → invariant.value callee →
      (∀ argument ∈ arguments, invariant.value argument) →
        left callee arguments = right callee arguments)
    {values : List (Value Host)} (admitted : ∀ value ∈ values, invariant.value value) :
    Evaluation.apply left values = Evaluation.apply right values := by
  unfold Evaluation.apply
  split
  · rfl
  · rfl
  · rename_i callee arguments _
    split
    next callable =>
      exact same callee arguments callable (admitted callee List.mem_cons_self)
        fun argument member => admitted argument (List.mem_cons_of_mem callee member)
    next => rfl

section Forms

variable {left right : Evaluator Host} (agree : invariant.Agree left right)
    {environment : Environment Host}
  (start : invariant.environment environment)
include agree start

theorem Agree.evaluateAll_eq (kept : invariant.KeptBy right) (elements : List Expr) :
    Evaluation.evaluateAll left environment elements =
      Evaluation.evaluateAll right environment elements := by
  induction elements generalizing environment with
  | nil => rfl
  | cons first rest ih =>
      rw [Evaluation.evaluateAll, Evaluation.evaluateAll, agree environment first start]
      refine (kept environment first start).bind_congr fun reached admitted => ?_
      dsimp only
      rw [ih admitted.2]

theorem Agree.define_eq (arguments : List Expr) :
    Evaluation.define left environment arguments =
      Evaluation.define right environment arguments := by
  unfold Evaluation.define
  split
  next name value => rw [agree environment value start]
  next => rfl

theorem Agree.choose_eq (arguments : List Expr) :
    Evaluation.choose left environment arguments =
      Evaluation.choose right environment arguments := by
  unfold Evaluation.choose
  split
  next test consequent => rw [agree environment test start, agree environment consequent start]
  next test consequent alternative =>
    rw [agree environment test start]
    exact congrArg _ (funext fun reached => agree environment _ start)
  next => rfl

end Forms

end Invariant

/-! ## Errors for calls -/

/-- The error says of nothing that it cannot be called. -/
def Error.RefusesNoCall (error : Error) : Prop :=
  ∀ fault form, error = .type fault form → ¬ "cannot call ".toList <+: fault.text.toList

namespace Error

theorem not_prefix_append {opening : String} {letter : Char} {others : List Char}
    (starts : opening.toList = letter :: others) (different : 'c' ≠ letter) (rest : String) :
    ¬ "cannot call ".toList <+: (opening ++ rest).toList := by
  rw [String.toList_append, starts]
  intro isPrefix
  exact different (List.cons_prefix_cons.mp isPrefix).1

theorem refusesNoCall_of_isRaisable {error : Error} (raisable : error.isRaisable = true) :
    error.RefusesNoCall := by
  rintro fault form rfl
  cases fault with
  | notCallable _ => cases raisable
  | stated _ => cases raisable
  | notNumber found => exact not_prefix_append rfl (by decide) found
  | notVector found => exact not_prefix_append rfl (by decide) found
  | notReducer found => exact not_prefix_append rfl (by decide) found
  | nameNotSymbol binder found => cases binder <;> exact not_prefix_append rfl (by decide) found
  | parameterNotSymbol binder found =>
      cases binder <;> exact not_prefix_append rfl (by decide) found
  | parametersNotList binder found => cases binder <;> exact not_prefix_append rfl (by decide) found

theorem RefusesNoCall.inForm {error : Error} (refuses : error.RefusesNoCall) (form : Expr) :
    (error.inForm form).RefusesNoCall := by
  intro fault named same
  cases error with
  | type raised known =>
      cases known with
      | none =>
          cases same
          exact refuses fault none rfl
      | some shown => exact refuses fault named same
  | parse _ | arity _ _ _ | depthExceeded _ | nestingTooDeep _ => cases same

end Error

namespace Invariant

/-- All values are of the language, and no error says that something cannot be called. -/
def unhosted : Invariant Host := language Error.RefusesNoCall

theorem closed_unhosted (setting : Setting Host) : unhosted.Closed setting :=
  (native_language (fun _ => Error.refusesNoCall_of_isRaisable) fun elements _ refuses =>
    refuses.inForm (.form elements)).closed setting

end Invariant

/-! ## The evaluator without the two cases -/

namespace Guarded

open Evaluation (Inside apply choose define defineMacro evaluateAll exceeded ifKeyword makeFunction)

/-- The most builtins that can have called one another, in the language without a host. -/
def room : Nat := 2

section Evaluator

variable (setting : Setting Host) (dead : Run Host (Value Host))

/-- A call of a value, with room for the given number of builtins. The given run takes the place of
a call of a value that cannot be called, and of a builtin for which there is no room. -/
def call (body : Evaluator Host) :
    Nat → Environment Host → Value Host → List (Value Host) → Run Host (Value Host)
  | left, environment, callee, arguments =>
      match callee with
      | .builtin _ operation =>
          match left with
          | 0 => dead
          | further + 1 =>
              (operation.perform setting.handler environment arguments).run
                (call body further environment)
      | .function parameters expression =>
          if arguments.length = parameters.length then
            (body (environment.bindAll parameters arguments) expression).map Prod.fst
          else
            .fail (.arity callee.display (.exactly parameters.length) arguments.length)
      | _ => dead

/-- A form that is neither a special form nor a call of a macro. -/
def sequence (inside : Inside Host) (environment : Environment Host) (elements : List Expr) :
    Run Host (Value Host × Environment Host) :=
  (evaluateAll inside.expression environment elements).bind fun (values, environment) =>
    (apply (call setting dead inside.body room environment) values).bind fun value =>
      .ok (value, environment)

/-- A form with the given elements. -/
def form (inside : Inside Host) (environment : Environment Host) (elements : List Expr) :
    Run Host (Value Host × Environment Host) :=
  match elements with
  | .symbol head :: arguments =>
      if head = Binder.macroForm.keyword then .ofExcept (defineMacro environment arguments)
      else if head = Binder.defForm.keyword then define inside.expression environment arguments
      else
        match environment.macroNamed? head with
        | some definition =>
            match definition.expand head arguments with
            | .error error => .fail error
            | .ok expansion => inside.expression environment expansion
        | none =>
            if head = Binder.fnForm.keyword then .ofExcept (makeFunction environment arguments)
            else if head = ifKeyword then choose inside.expression environment arguments
            else sequence setting dead inside environment elements
  | _ => sequence setting dead inside environment elements

/-- An expression, given how the parts of a form are evaluated. -/
def expression (inside : Inside Host) (environment : Environment Host) :
    Expr → Run Host (Value Host × Environment Host)
  | .number value => .ok (.number (Float.ofInt value.toInt), environment)
  | .bool value => .ok (.bool value, environment)
  | .symbol name => .ok (environment.lookup name, environment)
  | .form elements =>
      (form setting dead inside environment elements).mapError (Error.inForm (.form elements))

/-- An expression with the given number of levels left. -/
def evaluate : Nat → Environment Host → Expr → Run Host (Value Host × Environment Host)
  | 0, _, _ => exceeded setting
  | levels + 1, environment, expr =>
      expression setting dead
        ⟨evaluate levels,
          match levels with
          | 0 => fun _ _ => exceeded setting
          | deeper + 1 => evaluate deeper⟩
        environment expr

/-- How the parts of a form are evaluated when the given number of levels is left inside it. -/
def inside (levels : Nat) : Inside Host :=
  ⟨evaluate setting dead levels, evaluate setting dead (levels - 1)⟩

theorem evaluate_succ (levels : Nat) (environment : Environment Host) (expr : Expr) :
    evaluate setting dead (levels + 1) environment expr =
      expression setting dead (inside setting dead levels) environment expr := by
  cases levels <;> rfl

/-- The expressions of a program as the elements of one form. -/
def evaluateProgram (environment : Environment Host) (program : List Expr) :
    Run Host (Value Host × Environment Host) :=
  match setting.limit with
  | 0 => exceeded setting
  | levels + 1 => form setting dead (inside setting dead levels) environment program

end Evaluator

/-! ## The same runs -/

open Invariant (unhosted closed_unhosted)

section Calls

variable {setting : Setting Host} {dead : Run Host (Value Host)} {guarded plain : Evaluator Host}
  (agree : unhosted.Agree guarded plain) {environment : Environment Host}
  (start : unhosted.environment environment)
include agree start

theorem call_function_eq (left chain : Nat) (parameters : List String) (expression : Expr)
    {arguments : List (Value Host)} (passed : ∀ argument ∈ arguments, argument.isNative = true) :
    call setting dead guarded left environment (.function parameters expression) arguments =
      Evaluation.call setting plain chain environment (.function parameters expression)
        arguments := by
  have bound := (closed_unhosted setting).environment_bindAll parameters start passed
  rw [Evaluation.call_function, ← agree _ expression bound]
  cases left <;> rfl

/-- What a fold calls is called in the same way when there is room for one builtin. -/
theorem call_pair_eq {callee : Value Host} (callable : callee.isCallable = true)
    (native : callee.isNative = true) {gathered item : Value Host}
    (passed : ∀ argument ∈ [gathered, item], argument.isNative = true) :
    call setting dead guarded 1 environment callee [gathered, item] =
      Evaluation.call setting plain 1 environment callee [gathered, item] := by
  cases callee with
  | function parameters expression =>
      exact call_function_eq agree start 1 1 parameters expression passed
  | builtin id operation => exact (Operation.callsNothing_pair native gathered item).run_eq _ _
  | null | number _ | bool _ | symbol _ | vector _ | list _ => cases callable

variable (kept : unhosted.KeptBy plain)
include kept

theorem run_fold_eq {reducer : Value Host} (callable : reducer.isCallable = true)
    (native : reducer.isNative = true) {gathered : Value Host}
    (gatheredNative : gathered.isNative = true)
    {items : List (Value Host)} (itemsNative : ∀ item ∈ items, item.isNative = true) :
    (Action.fold reducer gathered items).run (call setting dead guarded 1 environment) =
      (Action.fold reducer gathered items).run (Evaluation.call setting plain 1 environment) := by
  induction items generalizing gathered with
  | nil => rfl
  | cons item items ih =>
      have itemNative := itemsNative item List.mem_cons_self
      have passed : ∀ argument ∈ [gathered, item], argument.isNative = true :=
        List.forall_mem_cons.mpr ⟨gatheredNative, List.forall_mem_singleton.mpr itemNative⟩
      have ensured :=
        (closed_unhosted setting).ensures_call kept 1 environment reducer [gathered, item] start
        callable native passed
      rw [Action.fold, Action.run, Action.run, call_pair_eq agree start callable native passed]
      exact ensured.bind_congr fun next nextNative =>
        ih nextNative fun later member => itemsNative later (List.mem_cons_of_mem item member)

/-- **A call in a form is the same call**: the value can be called, and two builtins have room. -/
theorem call_eq {callee : Value Host} {arguments : List (Value Host)}
    (callable : callee.isCallable = true)
    (native : callee.isNative = true) (passed : ∀ argument ∈ arguments, argument.isNative = true) :
    call setting dead guarded room environment callee arguments =
      Evaluation.call setting plain maxChain environment callee arguments := by
  have chained : Evaluation.call setting plain maxChain environment callee arguments =
      Evaluation.call setting plain 2 environment callee arguments :=
    Evaluation.call_of_isNative setting plain environment 9998 native passed
  rw [chained]
  cases callee with
  | function parameters expression =>
      exact call_function_eq agree start room 2 parameters expression passed
  | null | number _ | bool _ | symbol _ | vector _ | list _ => cases callable
  | builtin id operation =>
      show (operation.perform setting.handler environment arguments).run _ =
        (operation.perform setting.handler environment arguments).run _
      rcases Operation.callsNothing_or_fold native arguments with
        nothing | ⟨reducer, seed, items, rfl, reducerCallable, folds⟩
      · exact nothing.run_eq _ _
      · rw [folds]
        have itemsNative : (Value.vector items).isNative = true := passed _ (by simp)
        exact run_fold_eq agree start kept reducerCallable (passed reducer (by simp))
          (passed seed (by simp))
          ((Value.allNative_iff items).mp itemsNative)

end Calls

section Forms

variable {setting : Setting Host} {dead : Run Host (Value Host)} {guarded plain : Inside Host}
  (inner : unhosted.Agree guarded.expression plain.expression)
  (bodies : unhosted.Agree guarded.body plain.body) (innerKept : unhosted.KeptBy plain.expression)
  (bodiesKept : unhosted.KeptBy plain.body)
include inner bodies innerKept bodiesKept

theorem sequence_eq {environment : Environment Host} (start : unhosted.environment environment)
    (elements : List Expr) :
    sequence setting dead guarded environment elements =
      Evaluation.sequence setting plain environment elements := by
  rw [sequence, Evaluation.sequence, inner.evaluateAll_eq start innerKept]
  refine (Invariant.ensures_evaluateAll innerKept elements start).bind_congr
    fun reached admitted => ?_
  dsimp only
  rw [Invariant.apply_congr (fun _ _ callable native passed =>
    call_eq bodies admitted.2 bodiesKept callable native passed) admitted.1]

theorem form_eq {environment : Environment Host} (start : unhosted.environment environment)
    (elements : List Expr) :
    form setting dead guarded environment elements =
      Evaluation.form setting plain environment elements := by
  have sequenced : sequence setting dead guarded environment elements =
      Evaluation.sequence setting plain environment elements :=
    sequence_eq inner bodies innerKept bodiesKept start elements
  cases elements with
  | nil => exact sequenced
  | cons head arguments =>
      cases head with
      | number _ | bool _ | form _ => exact sequenced
      | symbol head =>
          rw [form, Evaluation.form]
          split
          · rfl
          split
          · exact inner.define_eq start arguments
          cases environment.macroNamed? head with
          | some definition =>
              dsimp only
              cases definition.expand head arguments with
              | error _ => rfl
              | ok expansion => exact inner environment expansion start
          | none =>
              dsimp only
              split
              · rfl
              split
              · exact inner.choose_eq start arguments
              · exact sequenced

theorem agree_expression :
    unhosted.Agree (expression setting dead guarded) (Evaluation.expression setting plain) := by
  intro environment expr start
  cases expr with
  | number _ | bool _ | symbol _ => rfl
  | form elements =>
      rw [expression, Evaluation.expression,
        form_eq inner bodies innerKept bodiesKept start elements]

end Forms

variable (setting : Setting Host) (dead : Run Host (Value Host))

/-- **The two evaluators agree**, whatever the given run is. The induction reaches two levels down,
to the bodies of functions. -/
theorem agree_evaluate (levels : Nat) :
    unhosted.Agree (evaluate setting dead levels) (Evaluation.evaluate setting levels) := by
  have kept := (closed_unhosted setting).keptBy_evaluate
  induction levels using Nat.strongRecOn with
  | ind levels ih =>
      cases levels with
      | zero => exact fun _ _ _ => rfl
      | succ levels =>
          intro environment expr start
          rw [evaluate_succ, Evaluation.evaluate_succ]
          have inner := ih levels (Nat.lt_succ_self levels)
          have bodies := ih (levels - 1) (by omega)
          exact agree_expression inner bodies (kept levels) (kept (levels - 1)) environment
            expr start

theorem evaluate_eq {environment : Environment Host} (start : unhosted.environment environment)
    (expr : Expr) :
    evaluate setting dead setting.limit environment expr =
      Lisplet.evaluate setting environment expr :=
  agree_evaluate setting dead setting.limit environment expr start

theorem evaluateProgram_eq {environment : Environment Host}
    (start : unhosted.environment environment) (program : List Expr) :
    evaluateProgram setting dead environment program =
      Lisplet.evaluateProgram setting environment program := by
  have kept := (closed_unhosted setting).keptBy_evaluate
  unfold evaluateProgram Lisplet.evaluateProgram
  cases setting.limit with
  | zero => rfl
  | succ levels =>
      exact form_eq (agree_evaluate setting dead levels) (agree_evaluate setting dead (levels - 1))
        (kept levels) (kept (levels - 1)) start program

end Guarded

/-! ## Nothing is called that cannot be called -/

/-- **The language without a host makes no call that it has no rule for.** In an environment whose
values are of the language, whatever would be done about a call of a value that cannot be called, or
about a third builtin in a row, it is not done; and no error says that something cannot be called. A
builtin that a fold calls calls nothing, and `reduce` is not content with its two arguments. -/
theorem evaluation_guarded (handler : Handler Host) {environment : Environment Host}
    (native : environment.Binds fun value => value.isNative = true) :
    (∀ limit expr,
      (∀ dead, Guarded.evaluate ⟨handler, limit⟩ dead limit environment expr =
        evaluate ⟨handler, limit⟩ environment expr) ∧
      ∀ error, (evaluate ⟨handler, limit⟩ environment expr).outcome = .error error →
        error.RefusesNoCall) ∧
      (∀ limit program,
        (∀ dead, Guarded.evaluateProgram ⟨handler, limit⟩ dead environment program =
          evaluateProgram ⟨handler, limit⟩ environment program) ∧
        ∀ error, (evaluateProgram ⟨handler, limit⟩ environment program).outcome = .error error →
          error.RefusesNoCall) ∧
      (∀ id (operation : Operation Host), (Value.builtin id operation).isNative = true →
        ∀ site gathered item, (operation.perform handler site [gathered, item]).CallsNothing) ∧
      ∀ site gathered item, (Operation.primitive .reduce).perform handler site [gathered, item] =
        .fail (.arity "reduce" (.exactly 3) 2) := by
  refine ⟨fun limit expr => ⟨fun dead => ?_, fun error => ?_⟩,
    fun limit program => ⟨fun dead => ?_, fun error => ?_⟩,
      fun id operation called site gathered item => ?_,
    fun _ _ _ => rfl⟩
  · exact Guarded.evaluate_eq ⟨handler, limit⟩ dead native expr
  · have kept := (Invariant.closed_unhosted ⟨handler, limit⟩).keptBy_evaluate limit
    exact (kept environment expr native).raised
  · exact Guarded.evaluateProgram_eq ⟨handler, limit⟩ dead native program
  · have closed := Invariant.closed_unhosted ⟨handler, limit⟩
    exact (closed.ensures_evaluateProgram program native).raised
  · exact Operation.callsNothing_pair called gathered item

/-- `reduce` as its own reducer fails for want of an argument, and a form with a number in front is
not a call at all: neither uses the run that would be made instead of a call. -/
theorem evaluation_guarded_reducing :
    let environment : Environment Empty := globalEnvironment .log
    let setting : Setting Empty := ⟨noHost, 10⟩
    let dead : Run Empty (Value Empty) := .ok (.symbol "reached")
    let reducing := Expr.form [.symbol "reduce", .symbol "reduce", .number 0,
      .form [.symbol "arrayOf", .number 1]]
    let idle := Expr.form [.number 1, .bool true]
    (environment.Binds fun value => value.isNative = true) ∧
      Guarded.evaluate setting dead 10 environment reducing =
        evaluate setting environment reducing ∧
      (evaluate setting environment reducing).outcome = .error (.arity "reduce" (.exactly 3) 2) ∧
      Guarded.evaluate setting dead 10 environment idle = evaluate setting environment idle ∧
      (evaluate setting environment idle).outcome = .ok (.bool true, environment) ∧
      (Primitive.perform .add [(.null : Value Empty), .null]).CallsNothing := by
  intro environment setting dead reducing idle
  have native : environment.Binds fun value => value.isNative = true := fun name value found =>
    (globalEnvironment_withinNesting .log name value found).1
  obtain ⟨expressions, _, folded, _⟩ := evaluation_guarded noHost native
  exact ⟨native, (expressions 10 reducing).1 dead, rfl, (expressions 10 idle).1 dead, rfl,
    folded "+" (.primitive .add) rfl environment .null .null⟩

end Lisplet
