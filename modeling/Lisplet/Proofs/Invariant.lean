import Lisplet.Evaluation

/-!
# Properties that evaluation keeps

An invariant says four things at once: which values may occur, which environments, which calls of
`print` and which errors. It is closed under evaluation when it admits the values that a form makes
out of nothing, the elements of the vectors it admits, the bindings of the values it admits, and all
that an admitted operation does with admitted arguments.

A closed invariant holds of every run that starts in an admitted environment
(`Closed.keptBy_evaluate` and `Closed.ensures_evaluateProgram`): of the result, of the environment
at the end, of everything printed, also when the run fails, and of the error. What one rule of
evaluation keeps is proved for any evaluator of the parts that keeps it too, so the induction on the
levels is made once, at the end.

A value is called only when it is callable. The invariant need not admit the error for a call of any
other value.
-/

set_option autoImplicit false

namespace Lisplet

variable {Host α β : Type}

/-- What may occur in a run: values, environments, calls of `print` and errors. -/
structure Invariant (Host : Type) where
  value : Value Host → Prop
  environment : Environment Host → Prop
  printed : Printed Host → Prop
  error : Error → Prop

/-- Every value that an environment binds has a property. -/
def Environment.Binds (property : Value Host → Prop) (environment : Environment Host) : Prop :=
  ∀ name value, environment.value? name = some value → property value

/-- A value that a form makes out of nothing: neither a vector nor a list nor a builtin. -/
def Value.isPlain : Value Host → Bool
  | .vector _ => false
  | .list _ => false
  | .builtin _ _ => false
  | _ => true

/-- An error that evaluation may raise. A type error names no form when it is raised, no value is
called that is neither a function nor a builtin, and only a host has words of its own for a
fault. -/
def Error.isRaisable : Error → Bool
  | .type (.notCallable _) _ => false
  | .type (.stated _) _ => false
  | .type _ form => form.isNone
  | _ => true

namespace Environment

variable {property : Value Host → Prop} {environment : Environment Host}

theorem binds_empty : (empty : Environment Host).Binds property := by
  intro name value found
  cases found

theorem Binds.bind (binds : environment.Binds property) (name : String) {value : Value Host}
    (holds : property value) : (environment.bind name value).Binds property := by
  intro other found look
  by_cases same : other = name
  · subst same
    rw [value?_bind_self] at look
    exact Option.some.inj look ▸ holds
  · rw [value?_bind_other environment value same] at look
    exact binds other found look

theorem Binds.bindMacro (binds : environment.Binds property) (name : String) (definition : Macro) :
    (environment.bindMacro name definition).Binds property :=
  binds

/-- A symbol has the property of what is bound, or else is itself. -/
theorem Binds.lookup (binds : environment.Binds property)
    (symbols : ∀ name, property (.symbol name))
    (name : String) : property (environment.lookup name) := by
  unfold Environment.lookup
  cases found : environment.value? name with
  | none => exact symbols name
  | some value => exact binds name value found

end Environment

namespace Invariant

/-! ## Runs -/

/-- A computation ends with a result that has the given property or with an admitted error. -/
def Ends (invariant : Invariant Host) (result : α → Prop) : Except Error α → Prop
  | .ok reached => result reached
  | .error raised => invariant.error raised

/-- A run prints what the invariant admits, and ends with a result that has the given property or
with an admitted error. -/
structure Ensures (invariant : Invariant Host) (result : α → Prop) (run : Run Host α) : Prop where
  printed : ∀ call ∈ run.printed, invariant.printed call
  outcome : invariant.Ends result run.outcome

variable {invariant : Invariant Host} {result : α → Prop} {further : β → Prop}

theorem Ensures.reached {run : Run Host α} {reached : α} (kept : invariant.Ensures result run)
    (succeeds : run.outcome = .ok reached) : result reached := by
  have ends := kept.outcome
  rw [succeeds] at ends
  exact ends

theorem Ensures.raised {run : Run Host α} {raised : Error} (kept : invariant.Ensures result run)
    (fails : run.outcome = .error raised) : invariant.error raised := by
  have ends := kept.outcome
  rw [fails] at ends
  exact ends

theorem ensures_ofExcept {outcome : Except Error α} (ends : invariant.Ends result outcome) :
    invariant.Ensures result (.ofExcept outcome) :=
  ⟨fun _ member => absurd member List.not_mem_nil, ends⟩

theorem ensures_ok {reached : α} (admitted : result reached) :
    invariant.Ensures result (.ok reached) :=
  ensures_ofExcept admitted

theorem ensures_fail {raised : Error} (admitted : invariant.error raised) :
    invariant.Ensures result (.fail raised) :=
  ensures_ofExcept admitted

theorem ensures_bind {first : Run Host α} {next : α → Run Host β}
    (before : invariant.Ensures result first)
    (after : ∀ reached, result reached → invariant.Ensures further (next reached)) :
    invariant.Ensures further (first.bind next) := by
  obtain ⟨printed, outcome⟩ := first
  cases outcome with
  | error raised => exact ⟨before.printed, before.outcome⟩
  | ok reached =>
      have rest := after reached before.outcome
      refine ⟨fun call member => ?_, rest.outcome⟩
      rcases List.mem_append.mp member with early | late
      · exact before.printed call early
      · exact rest.printed call late

theorem ensures_map {change : α → β} {run : Run Host α} (kept : invariant.Ensures result run)
    (changed : ∀ reached, result reached → further (change reached)) :
    invariant.Ensures further (run.map change) := by
  obtain ⟨printed, outcome⟩ := run
  cases outcome with
  | error raised => exact ⟨kept.printed, kept.outcome⟩
  | ok reached => exact ⟨kept.printed, changed reached kept.outcome⟩

theorem ensures_mapError {change : Error → Error} {run : Run Host α}
    (kept : invariant.Ensures result run)
    (changed : ∀ raised, invariant.error raised → invariant.error (change raised)) :
    invariant.Ensures result (run.mapError change) := by
  obtain ⟨printed, outcome⟩ := run
  cases outcome with
  | error raised => exact ⟨kept.printed, changed raised kept.outcome⟩
  | ok reached => exact ⟨kept.printed, kept.outcome⟩

theorem ends_bind {first : Except Error α} {next : α → Except Error β}
    (before : invariant.Ends result first)
    (after : ∀ reached, result reached → invariant.Ends further (next reached)) :
    invariant.Ends further (first.bind next) := by
  cases first with
  | error raised => exact before
  | ok reached => exact after reached before

theorem ends_map {first : Except Error α} {change : α → β} (before : invariant.Ends result first)
    (changed : ∀ reached, result reached → further (change reached)) :
    invariant.Ends further (first.map change) := by
  cases first with
  | error raised => exact before
  | ok reached => exact changed reached before

/-! ## Actions -/

/-- Everything that an action asks for is admitted, whatever admitted values it goes on with. A
value that it calls is callable. -/
def Keeps (invariant : Invariant Host) : Action Host → Prop
  | .done value => invariant.value value
  | .fail error => invariant.error error
  | .print sink values next => invariant.printed ⟨sink, values⟩ ∧ invariant.Keeps next
  | .call callee arguments next =>
      callee.isCallable = true ∧ invariant.value callee ∧
        (∀ argument ∈ arguments, invariant.value argument) ∧
        ∀ value, invariant.value value → invariant.Keeps (next value)

theorem keeps_ofExcept {outcome : Except Error (Value Host)}
    (ends : invariant.Ends invariant.value outcome) : invariant.Keeps (.ofExcept outcome) := by
  cases outcome with
  | ok value => exact ends
  | error raised => exact ends

theorem keeps_withResult {outcome : Except Error α} {next : α → Action Host}
    (ends : invariant.Ends result outcome)
    (goesOn : ∀ reached, result reached → invariant.Keeps (next reached)) :
    invariant.Keeps (.withResult outcome next) := by
  cases outcome with
  | ok reached => exact goesOn reached ends
  | error raised => exact ends

/-- A fold keeps an invariant however often it calls its reducer. -/
theorem keeps_fold {reducer gathered : Value Host} {items : List (Value Host)}
    (callable : reducer.isCallable = true) (reducing : invariant.value reducer)
    (start : invariant.value gathered) (members : ∀ item ∈ items, invariant.value item) :
    invariant.Keeps (.fold reducer gathered items) := by
  induction items generalizing gathered with
  | nil => exact start
  | cons item items ih =>
      refine ⟨callable, reducing, ?_, fun next admitted => ?_⟩
      · intro argument member
        rcases List.mem_cons.mp member with rfl | second
        · exact start
        · exact List.mem_singleton.mp second ▸ members item List.mem_cons_self
      · exact ih admitted fun later member => members later (List.mem_cons_of_mem item member)

/-- Carrying out an action keeps an invariant when the calls that it makes do. -/
theorem Keeps.run {call : Value Host → List (Value Host) → Run Host (Value Host)}
    (calls : ∀ callee arguments, callee.isCallable = true → invariant.value callee →
      (∀ argument ∈ arguments, invariant.value argument) →
        invariant.Ensures invariant.value (call callee arguments)) {action : Action Host}
    (kept : invariant.Keeps action) : invariant.Ensures invariant.value (action.run call) := by
  induction action with
  | done value => exact ensures_ok kept
  | fail error => exact ensures_fail kept
  | print sink values next ih =>
      obtain ⟨printed, later⟩ := kept
      have rest := ih later
      refine ⟨fun other member => ?_, rest.outcome⟩
      rcases List.mem_cons.mp member with rfl | after
      · exact printed
      · exact rest.printed other after
  | call callee arguments next ih =>
      obtain ⟨callable, called, passed, later⟩ := kept
      exact ensures_bind (calls callee arguments callable called passed)
        fun value admitted => ih value (later value admitted)

/-! ## Closed invariants -/

/-- An invariant that evaluation under a setting keeps. -/
structure Closed (invariant : Invariant Host) (setting : Setting Host) : Prop where
  plain : ∀ value, value.isPlain = true → invariant.value value
  element : ∀ items, invariant.value (.vector items) → ∀ item ∈ items, invariant.value item
  lookup : ∀ environment name, invariant.environment environment →
    invariant.value (environment.lookup name)
  bind : ∀ environment name value, invariant.environment environment → invariant.value value →
    invariant.environment (environment.bind name value)
  bindMacro : ∀ environment name definition, invariant.environment environment →
    invariant.environment (environment.bindMacro name definition)
  perform : ∀ id operation environment arguments, invariant.value (.builtin id operation) →
    invariant.environment environment → (∀ argument ∈ arguments, invariant.value argument) →
      invariant.Keeps (operation.perform setting.handler environment arguments)
  raised : ∀ raised, raised.isRaisable = true → invariant.error raised
  inForm : ∀ elements raised, invariant.error raised →
    invariant.error (raised.inForm (.form elements))

/-- The result of an expression is admitted: its value and the environment after it. -/
def Reached (invariant : Invariant Host) (reached : Value Host × Environment Host) : Prop :=
  invariant.value reached.1 ∧ invariant.environment reached.2

/-- An evaluator keeps an invariant when every run that it makes in an admitted environment does. -/
def KeptBy (invariant : Invariant Host) (evaluator : Evaluator Host) : Prop :=
  ∀ environment expr, invariant.environment environment →
    invariant.Ensures invariant.Reached (evaluator environment expr)

open Evaluation

/-- The elements of a form hand admitted environments on from one to the next. -/
theorem ensures_evaluateAll {expression : Evaluator Host} (inner : invariant.KeptBy expression)
    {environment : Environment Host} (elements : List Expr)
    (start : invariant.environment environment) :
    invariant.Ensures (fun reached => (∀ value ∈ reached.1, invariant.value value) ∧
      invariant.environment reached.2) (evaluateAll expression environment elements) := by
  induction elements generalizing environment with
  | nil => exact ensures_ok ⟨fun value member => absurd member List.not_mem_nil, start⟩
  | cons first rest ih =>
      refine ensures_bind (inner environment first start) fun reached admitted => ?_
      refine ensures_bind (ih admitted.2) fun later others => ensures_ok ⟨?_, others.2⟩
      intro value member
      rcases List.mem_cons.mp member with rfl | after
      · exact admitted.1
      · exact others.1 value after

section Rules

variable {setting : Setting Host} (closed : invariant.Closed setting)
include closed

theorem Closed.value_index {items : List (Value Host)} (admitted : invariant.value (.vector items))
    (index : Option (Value Host)) : invariant.value (Value.index items index) := by
  unfold Value.index
  split
  · rename_i number
    cases found : (Value.position? number).bind (items[·]?) with
    | none => exact closed.plain _ rfl
    | some item =>
        obtain ⟨position, _, atPosition⟩ := Option.bind_eq_some_iff.mp found
        exact closed.element items admitted item (List.mem_of_getElem? atPosition)
  · exact closed.plain _ rfl

theorem Closed.environment_bindAll {environment : Environment Host} (names : List String)
    {values : List (Value Host)} (start : invariant.environment environment)
    (admitted : ∀ value ∈ values, invariant.value value) :
    invariant.environment (environment.bindAll names values) := by
  induction names generalizing environment values with
  | nil => exact start
  | cons name names ih =>
      cases values with
      | nil => exact start
      | cons value values =>
          have bound := closed.bind environment name value start (admitted value List.mem_cons_self)
          exact ih bound fun later member => admitted later (List.mem_cons_of_mem value member)

theorem Closed.ensures_exceeded {result : α → Prop} :
    invariant.Ensures result (Evaluation.exceeded setting) :=
  ensures_fail (closed.raised _ rfl)

/-! ### Calls -/

/-- A call of a callable value keeps the invariant when the evaluation of bodies does. The recursion
is on the number of builtins that may still call one another. -/
theorem Closed.ensures_call {body : Evaluator Host} (bodies : invariant.KeptBy body) :
    ∀ (chain : Nat) (environment : Environment Host) (callee : Value Host)
      (arguments : List (Value Host)), invariant.environment environment →
        callee.isCallable = true → invariant.value callee →
          (∀ argument ∈ arguments, invariant.value argument) →
            invariant.Ensures invariant.value
              (Evaluation.call setting body chain environment callee arguments)
  | chain, environment, .function parameters expression, arguments, start, _, _, passed => by
      rw [call_function]
      split
      · have inside := closed.environment_bindAll parameters start passed
        exact ensures_map (bodies _ expression inside) fun reached admitted => admitted.1
      · exact ensures_fail (closed.raised _ rfl)
  | 0, environment, .builtin id operation, arguments, _, _, _, _ => closed.ensures_exceeded
  | further + 1, environment, .builtin id operation, arguments, start, _, called, passed => by
      have kept := closed.perform id operation environment arguments called start passed
      rw [call_builtin]
      exact kept.run fun callee arguments callable called passed =>
        Closed.ensures_call bodies further environment callee arguments start callable called passed

theorem Closed.ensures_apply {call : Value Host → List (Value Host) → Run Host (Value Host)}
    (calls : ∀ callee arguments, callee.isCallable = true → invariant.value callee →
      (∀ argument ∈ arguments, invariant.value argument) →
        invariant.Ensures invariant.value (call callee arguments)) {values : List (Value Host)}
    (admitted : ∀ value ∈ values, invariant.value value) :
    invariant.Ensures invariant.value (apply call values) := by
  unfold Evaluation.apply
  split
  · exact ensures_ok (closed.plain _ rfl)
  · rename_i items arguments
    exact ensures_ok (closed.value_index (admitted _ List.mem_cons_self) _)
  · rename_i callee arguments _
    have called := admitted callee List.mem_cons_self
    have passed : ∀ argument ∈ arguments, invariant.value argument := fun argument member =>
      admitted argument (List.mem_cons_of_mem callee member)
    split
    · rename_i callable
      exact calls callee arguments callable called passed
    · exact ensures_ok (admitted _ List.getLastD_mem_cons)

/-! ### Special forms -/

theorem Closed.ends_bindingName (binder : Binder) (expr : Expr) :
    invariant.Ends (fun _ => True) (bindingName binder expr) := by
  cases expr with
  | symbol name => exact trivial
  | number value => exact closed.raised _ rfl
  | bool value => exact closed.raised _ rfl
  | form elements => exact closed.raised _ rfl

theorem Closed.ends_parameterName (binder : Binder) (expr : Expr) :
    invariant.Ends (fun _ => True) (parameterName binder expr) := by
  cases expr with
  | symbol name => exact trivial
  | number value => exact closed.raised _ rfl
  | bool value => exact closed.raised _ rfl
  | form elements => exact closed.raised _ rfl

theorem Closed.ends_parameterNames (binder : Binder) (elements : List Expr) :
    invariant.Ends (fun _ => True) (parameterNames binder elements) := by
  induction elements with
  | nil => exact trivial
  | cons first rest ih =>
      exact ends_bind (closed.ends_parameterName binder first) fun name _ =>
        ends_map ih fun names _ => trivial

theorem Closed.ends_parameters (binder : Binder) (expr : Expr) :
    invariant.Ends (fun _ => True) (parameters binder expr) := by
  cases expr with
  | form elements => exact closed.ends_parameterNames binder elements
  | number value => exact closed.raised _ rfl
  | bool value => exact closed.raised _ rfl
  | symbol name => exact closed.raised _ rfl

theorem Closed.ends_defineMacro {environment : Environment Host} (arguments : List Expr)
    (start : invariant.environment environment) :
    invariant.Ends invariant.Reached (defineMacro environment arguments) := by
  unfold Evaluation.defineMacro
  split
  · rename_i name names template
    refine ends_bind (closed.ends_bindingName .macroForm name) fun name _ => ?_
    refine ends_map (closed.ends_parameters .macroForm names) fun names _ => ?_
    exact ⟨closed.plain _ rfl, closed.bindMacro environment name _ start⟩
  · exact closed.raised _ rfl

theorem Closed.ends_makeFunction {environment : Environment Host} (arguments : List Expr)
    (start : invariant.environment environment) :
    invariant.Ends invariant.Reached (makeFunction environment arguments) := by
  unfold Evaluation.makeFunction
  split
  · rename_i names body
    exact ends_map (closed.ends_parameters .fnForm names) fun names _ => ⟨closed.plain _ rfl, start⟩
  · exact closed.raised _ rfl

theorem Closed.ensures_define {expression : Evaluator Host} (inner : invariant.KeptBy expression)
    {environment : Environment Host} (arguments : List Expr)
    (start : invariant.environment environment) :
    invariant.Ensures invariant.Reached (define expression environment arguments) := by
  unfold Evaluation.define
  split
  · rename_i name value
    have named := closed.ends_bindingName .defForm name
    split
    · rename_i raised failed
      rw [failed] at named
      exact ensures_fail named
    · rename_i name _
      refine ensures_map (inner environment value start) fun reached admitted => ?_
      exact ⟨closed.plain _ rfl, closed.bind environment name reached.1 start admitted.1⟩
  · exact ensures_fail (closed.raised _ rfl)

theorem Closed.ensures_choose {expression : Evaluator Host} (inner : invariant.KeptBy expression)
    {environment : Environment Host} (arguments : List Expr)
    (start : invariant.environment environment) :
    invariant.Ensures invariant.Reached (choose expression environment arguments) := by
  unfold Evaluation.choose
  split
  · rename_i test consequent
    refine ensures_bind (inner environment test start) fun reached _ => ?_
    dsimp only
    split
    · exact inner environment consequent start
    · exact ensures_ok ⟨closed.plain _ rfl, start⟩
  · rename_i test consequent alternative
    exact ensures_bind (inner environment test start) fun reached _ =>
      inner environment _ start
  · exact ensures_fail (closed.raised _ rfl)

/-! ### Forms and expressions -/

theorem Closed.ensures_sequence {inside : Inside Host} (inner : invariant.KeptBy inside.expression)
    (bodies : invariant.KeptBy inside.body) {environment : Environment Host} (elements : List Expr)
    (start : invariant.environment environment) :
    invariant.Ensures invariant.Reached (sequence setting inside environment elements) := by
  refine ensures_bind (ensures_evaluateAll inner elements start) fun reached admitted => ?_
  have calls (callee : Value Host) (arguments : List (Value Host)) :=
    closed.ensures_call bodies maxChain reached.2 callee arguments admitted.2
  have applied := closed.ensures_apply calls admitted.1
  exact ensures_bind applied fun value result => ensures_ok ⟨result, admitted.2⟩

theorem Closed.ensures_form {inside : Inside Host} (inner : invariant.KeptBy inside.expression)
    (bodies : invariant.KeptBy inside.body) {environment : Environment Host} (elements : List Expr)
    (start : invariant.environment environment) :
    invariant.Ensures invariant.Reached (form setting inside environment elements) := by
  have sequenced := closed.ensures_sequence inner bodies elements start
  unfold Evaluation.form
  split
  · rename_i head arguments
    split
    · exact ensures_ofExcept (closed.ends_defineMacro arguments start)
    split
    · exact closed.ensures_define inner arguments start
    split
    · rename_i definition _
      cases expanded : definition.expand head arguments with
      | ok expansion => exact inner environment expansion start
      | error raised =>
          unfold Macro.expand at expanded
          split at expanded
          · cases expanded
          · cases expanded
            exact ensures_fail (closed.raised _ rfl)
    split
    · exact ensures_ofExcept (closed.ends_makeFunction arguments start)
    split
    · exact closed.ensures_choose inner arguments start
    · exact sequenced
  · exact sequenced

theorem Closed.keptBy_expression {inside : Inside Host} (inner : invariant.KeptBy inside.expression)
    (bodies : invariant.KeptBy inside.body) :
    invariant.KeptBy (expression setting inside) := by
  intro environment expr start
  cases expr with
  | number value => exact ensures_ok ⟨closed.plain _ rfl, start⟩
  | bool value => exact ensures_ok ⟨closed.plain _ rfl, start⟩
  | symbol name => exact ensures_ok ⟨closed.lookup environment name start, start⟩
  | form elements =>
      exact ensures_mapError (closed.ensures_form inner bodies elements start)
        fun raised admitted => closed.inForm elements raised admitted

/-- **Evaluation keeps a closed invariant**, whatever the number of levels that are left. The
induction reaches two levels down, to the bodies of functions. -/
theorem Closed.keptBy_evaluate (levels : Nat) :
    invariant.KeptBy (Evaluation.evaluate setting levels) := by
  induction levels using Nat.strongRecOn with
  | ind levels ih =>
      cases levels with
      | zero => exact fun environment expr start => closed.ensures_exceeded
      | succ levels =>
          intro environment expr start
          rw [evaluate_succ]
          have inner := ih levels (Nat.lt_succ_self levels)
          have bodies := ih (levels - 1) (by omega)
          exact closed.keptBy_expression inner bodies environment expr start

/-- A program keeps a closed invariant, as a form does. -/
theorem Closed.ensures_evaluateProgram {environment : Environment Host} (program : List Expr)
    (start : invariant.environment environment) :
    invariant.Ensures invariant.Reached (evaluateProgram setting environment program) := by
  unfold evaluateProgram
  split
  · exact closed.ensures_exceeded
  · exact closed.ensures_form (closed.keptBy_evaluate _) (closed.keptBy_evaluate _) program start

end Rules
end Invariant
end Lisplet
