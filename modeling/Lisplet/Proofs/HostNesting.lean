import Lisplet.Host.Sample
import Lisplet.Proofs.Forms
import Lisplet.Proofs.Nesting
import Mathlib.Data.List.Nodup

/-!
# The limit on nesting and the operations of a host

A host registers functions with a signature. The number and the kinds of the arguments are checked
for it, but nobody counts the levels of the result. So the limit on nesting holds in an environment
with such operations exactly when each of them keeps to it, given arguments that do
(`registered_withinNesting`). One that makes a vector of arbitrary arguments does not, and passes
the limit with a value that is at the limit itself (`registered_exceeds_nesting`).

That each operation has to keep to the limit is seen by calling it: any values within the limit can
be bound to names, and a form of these names is a call of the first value on the others
(`evaluate_calling`).
-/

set_option autoImplicit false

namespace Lisplet

variable {Host : Type}

/-! ## Registered operations -/

/-- A function with a signature, and how many arguments it takes where the signature does not
say. -/
inductive Typed (Host : Type) where
  | fixed (kinds : List Kind) (function : Signature.Fixed Host kinds)
  | rest (arity : Arity) (kind : Kind)
      (function : List (kind.Carrier Host) → Except Error (Value Host))
  | firstRest (arity : Arity) (first rest : Kind)
      (function : first.Carrier Host → List (rest.Carrier Host) → Except Error (Value Host))

/-- An operation as a host registers it. -/
structure Registration (Host : Type) where
  name : String
  function : Typed Host

theorem Action.withResult_ofExcept {α : Type} (first : Except Error α)
    (next : α → Except Error (Value Host)) :
    (Action.withResult first fun reached => .ofExcept (next reached)) =
      .ofExcept (first.bind next) := by
  cases first <;> rfl

namespace Registration

/-- The result of an operation for a list of arguments. -/
def perform (registration : Registration Host) (arguments : List (Value Host)) :
    Except Error (Value Host) :=
  let name := registration.name
  match registration.function with
  | .fixed kinds function => Signature.applyFixed name kinds function arguments
  | .rest arity kind function =>
      (arity.validate name arguments.length).bind fun _ =>
        Signature.applyRest kind function arguments
  | .firstRest arity first rest function =>
      (arity.validate name arguments.length).bind fun _ =>
        Signature.applyFirstRest name first rest function arguments

/-- Given values within the limit, an operation gives a value within the limit, if it gives one. -/
def KeepsNesting (registration : Registration Host) : Prop :=
  ∀ arguments result, (∀ argument ∈ arguments, argument.nestingDepth ≤ maxNesting) →
    registration.perform arguments = .ok result → result.nestingDepth ≤ maxNesting

/-- The operation of the sample host that gives all its arguments but the first, as a vector. -/
def tail : Registration Host where
  name := "h-tail"
  function := .firstRest (.atLeast 2) .any .any fun _ values => .ok (.vector values)

/-- The operation of the sample host that multiplies numbers by the first of them. -/
def scale : Registration Host where
  name := "h-scale"
  function := .firstRest .any .number .number fun factor numbers =>
    .ok (.vector (numbers.map fun number => .number (number * factor)))

/-- The sample host has these operations. -/
theorem handler_eq (request : Sample.Request) (environment : Environment Sample.Extra)
    (arguments : List (Value Sample.Extra)) :
    Sample.handler request .tail environment arguments = .ofExcept (tail.perform arguments) ∧
      Sample.handler request .scale environment arguments = .ofExcept (scale.perform arguments) :=
  ⟨Action.withResult_ofExcept _ _, rfl⟩

end Registration

/-- What the operations do that a host registers. -/
def registered (registrations : Host → Registration Host) : Handler Host :=
  fun operation _ arguments => .ofExcept ((registrations operation).perform arguments)

/-- An environment made of the global one by registering operations and by binding values within the
limit and macros. -/
inductive Registered (registrations : Host → Registration Host) : Environment Host → Prop where
  | start (sink : Sink) : Registered registrations (globalEnvironment sink)
  | register {environment : Environment Host} (before : Registered registrations environment)
      (operation : Host) : Registered registrations
        (environment.bindBuiltin (registrations operation).name (.host operation))
  | bind {environment : Environment Host} (before : Registered registrations environment)
      (name : String) {value : Value Host} (within : value.nestingDepth ≤ maxNesting) :
      Registered registrations (environment.bind name value)
  | bindMacro {environment : Environment Host} (before : Registered registrations environment)
      (name : String) (definition : Macro) :
      Registered registrations (environment.bindMacro name definition)

/-- The value that a run gives and the values that it prints and binds are within the limit. -/
structure Run.Shallow (run : Run Host (Value Host × Environment Host)) : Prop where
  value : ∀ value environment, run.outcome = .ok (value, environment) →
    value.nestingDepth ≤ maxNesting
  environment : ∀ value environment, run.outcome = .ok (value, environment) →
    environment.Binds fun bound => bound.nestingDepth ≤ maxNesting
  printed : ∀ call ∈ run.printed, ∀ value ∈ call.values, value.nestingDepth ≤ maxNesting

/-! ## Operations that keep to the limit -/

section Keeping

variable {registrations : Host → Registration Host}

theorem Registered.shallow {environment : Environment Host}
    (made : Registered registrations environment) :
    environment.Binds fun value => value.nestingDepth ≤ maxNesting := by
  induction made with
  | start sink => exact fun name value found =>
      (globalEnvironment_withinNesting sink name value found).2
  | register before operation ih => exact ih.bind _ (Nat.zero_le maxNesting)
  | bind before name within ih => exact ih.bind name within
  | bindMacro before name definition ih => exact ih

namespace Invariant

/-- A function with a signature keeps an invariant when it does on the arguments that it gets. -/
def KeepsTyped (invariant : Invariant Host) : Typed Host → Prop
  | .fixed kinds function => invariant.KeepsFixed kinds function
  | .rest _ kind function =>
      ∀ arguments, (∀ argument ∈ arguments, invariant.Carries kind argument) →
        invariant.Ends invariant.value (function arguments)
  | .firstRest _ first rest function =>
      ∀ head tail, invariant.Carries first head →
        (∀ argument ∈ tail, invariant.Carries rest argument) →
        invariant.Ends invariant.value (function head tail)

/-- An operation keeps to the limit when the function behind its signature does. -/
theorem keepsNesting_of_keepsTyped {registration : Registration Host}
    (keeps : shallow.KeepsTyped registration.function) : registration.KeepsNesting := by
  intro arguments result passed performed
  have raised : ∀ raised : Error, raised.isRaisable = true →
      (shallow : Invariant Host).error raised := fun _ _ => trivial
  have accepted (arity : Arity) : (shallow : Invariant Host).Ends (fun _ => True)
      (arity.validate registration.name arguments.length) := by
    cases arity.validate registration.name arguments.length with
    | ok _ => exact trivial
    | error _ => exact trivial
  have ends : (shallow : Invariant Host).Ends shallow.value (registration.perform arguments) := by
    unfold Registration.perform
    cases same : registration.function with
    | fixed kinds function =>
        rw [same] at keeps
        exact ends_applyFixed raised passed keeps
    | rest arity kind function =>
        rw [same] at keeps
        exact ends_bind (accepted arity) fun _ _ => ends_applyRest raised passed keeps
    | firstRest arity first rest function =>
        rw [same] at keeps
        exact ends_bind (accepted arity) fun _ _ => ends_applyFirstRest raised passed keeps
  rw [performed] at ends
  exact ends

theorem closed_shallow (keeps : ∀ operation, (registrations operation).KeepsNesting) (limit : Nat) :
    shallow.Closed ⟨registered registrations, limit⟩ := by
  refine basic_shallow.closed _ fun id operation environment arguments _ _ passed => ?_
  refine keeps_ofExcept ?_
  cases performed : (registrations operation).perform arguments with
  | ok result => exact keeps operation arguments result passed performed
  | error raised => exact trivial

theorem Ensures.shallow {run : Run Host (Value Host × Environment Host)}
    (kept : shallow.Ensures shallow.Reached run) : run.Shallow where
  value _ _ same := (kept.reached same).1
  environment _ _ same := (kept.reached same).2
  printed := kept.printed

end Invariant
end Keeping

/-! ## Calling an operation on given values -/

namespace Environment

variable (environment : Environment Host)

theorem macroNamed?_bindAll (names : List String) (values : List (Value Host)) (name : String) :
    (environment.bindAll names values).macroNamed? name = environment.macroNamed? name := by
  induction names generalizing environment values with
  | nil => rfl
  | cons first names ih =>
      cases values with
      | nil => rfl
      | cons value values => exact ih (environment.bind first value) values

theorem value?_bindAll_of_notMem {names : List String} {name : String} (values : List (Value Host))
    (other : name ∉ names) :
    (environment.bindAll names values).value? name = environment.value? name := by
  induction names generalizing environment values with
  | nil => rfl
  | cons first names ih =>
      cases values with
      | nil => rfl
      | cons value values =>
          have ⟨different, others⟩ := List.ne_and_not_mem_of_not_mem_cons other
          rw [bindAll, ih _ values others, value?_bind_other environment value different]

/-- Different names bound to as many values stand for these values. -/
theorem map_lookup_bindAll {names : List String} {values : List (Value Host)}
    (different : names.Nodup) (asMany : names.length = values.length) :
    names.map (environment.bindAll names values).lookup = values := by
  induction names generalizing environment values with
  | nil => exact (List.length_eq_zero_iff.mp asMany.symm).symm
  | cons first names ih =>
      cases values with
      | nil => cases asMany
      | cons value values =>
          have ⟨absent, others⟩ := List.nodup_cons.mp different
          have head : (environment.bindAll (first :: names) (value :: values)).lookup first =
              value := by
            rw [lookup, bindAll, value?_bindAll_of_notMem _ values absent, value?_bind_self]
            rfl
          rw [List.map_cons, head]
          exact congrArg _ (ih (environment.bind first value) others (Nat.succ.inj asMany))

end Environment

theorem Registered.bindAll {registrations : Host → Registration Host}
    {environment : Environment Host}
    (before : Registered registrations environment) (names : List String)
    {values : List (Value Host)} (within : ∀ value ∈ values, value.nestingDepth ≤ maxNesting) :
    Registered registrations (environment.bindAll names values) := by
  induction names generalizing environment values with
  | nil => exact before
  | cons name names ih =>
      cases values with
      | nil => exact before
      | cons value values =>
          have ⟨first, others⟩ := List.forall_mem_cons.mp within
          exact ih (before.bind name first) others

namespace Evaluation

variable {setting : Setting Host}

/-- Elements that give an operation and its arguments: the operation is called. -/
theorem sequence_of_host {inside : Inside Host} {environment after : Environment Host}
    {elements : List Expr} {id : String} {operation : Host} {arguments : List (Value Host)}
    {result : Value Host} (evaluated : evaluateAll inside.expression environment elements =
      .ok (.builtin id (.host operation) :: arguments, after))
    (done : setting.handler operation after arguments = .done result) :
    sequence setting inside environment elements = .ok (result, after) := by
  have called : apply (call setting inside.body maxChain after)
      (.builtin id (.host operation) :: arguments) = .ok result := by
    show (setting.handler operation after arguments).run _ = _
    rw [done]
    rfl
  rw [sequence, evaluated, Run.ok_bind]
  dsimp only
  rw [called]
  rfl

/-- A name for the value at a position of a call. -/
def nameAt (position : Nat) : String := String.ofList (List.replicate (position + 1) 'a')

/-- Different names for as many values as a call has. -/
def namesFor (count : Nat) : List String := (List.range count).map nameAt

theorem nodup_namesFor (count : Nat) : (namesFor count).Nodup := by
  refine List.Nodup.map (fun first second same => ?_) List.nodup_range
  have lengths := congrArg (fun name => name.toList.length) same
  simp only [nameAt, String.toList_ofList, List.length_replicate] at lengths
  exact Nat.succ.inj lengths

theorem namesFor_succ (count : Nat) : ∃ others, namesFor (count + 1) = nameAt 0 :: others := by
  rw [namesFor, List.range_succ_eq_map, List.map_cons]
  exact ⟨_, rfl⟩

/-- A form of names calls the value of the first on the values of the others. -/
theorem evaluate_calling (environment : Environment Host) (id : String) (operation : Host)
    {arguments : List (Value Host)} {result : Value Host}
    (noMacro : environment.macroNamed? (nameAt 0) = none) :
    let names := namesFor (arguments.length + 1)
    let start := environment.bindAll names (.builtin id (.host operation) :: arguments)
    setting.handler operation start arguments = .done result →
      evaluate setting 2 start (.form (names.map .symbol)) = .ok (result, start) := by
  intro names start done
  have values : names.map start.lookup = .builtin id (.host operation) :: arguments :=
    environment.map_lookup_bindAll (nodup_namesFor _) (by simp [names, namesFor])
  have elements : evaluateAll (inside setting 1).expression start (names.map .symbol) =
      .ok (.builtin id (.host operation) :: arguments, start) := by
    rw [← values]
    exact evaluateAll_symbols 0 start names
  have ordinary : form setting (inside setting 1) start (names.map .symbol) =
      sequence setting (inside setting 1) start (names.map .symbol) := by
    obtain ⟨others, first⟩ := namesFor_succ arguments.length
    rw [show names = nameAt 0 :: others from first, List.map_cons]
    exact form_of_name (by decide) ((environment.macroNamed?_bindAll _ _ _).trans noMacro) _
  rw [evaluate_succ, expression, ordinary, sequence_of_host elements done]
  rfl

end Evaluation

/-! ## What is needed of operations -/

/-- Only what is printed is within the limit. -/
def Invariant.shallowPrints : Invariant Host where
  value _ := True
  environment _ := True
  printed call := ∀ value ∈ call.values, value.nestingDepth ≤ maxNesting
  error _ := True

theorem Invariant.closed_shallowPrints (registrations : Host → Registration Host) (limit : Nat) :
    shallowPrints.Closed ⟨registered registrations, limit⟩ := by
  have basic : (shallowPrints : Invariant Host).Basic := {
    plain := fun _ _ => trivial
    element := fun _ _ _ _ => trivial
    vector := fun _ _ _ => trivial
    list := fun _ _ _ => trivial
    append := fun _ _ _ _ _ => trivial
    printed := fun _ _ checked _ => Value.deepest_le_iff.mp
      (Nat.le_of_succ_le (Value.checkNesting_eq_ok_iff.mp checked))
    lookup := fun _ _ _ => trivial
    bind := fun _ _ _ _ _ => trivial
    bindMacro := fun _ _ _ _ => trivial
    raised := fun _ _ => trivial
    inForm := fun _ _ _ => trivial }
  refine basic.closed _ fun id operation environment arguments _ _ _ => keeps_ofExcept ?_
  cases (registrations operation).perform arguments with
  | ok result => exact trivial
  | error raised => exact trivial

/-- **The limit on nesting holds exactly when every registered operation keeps to it.** What is
printed is within the limit in any case. What runs give and bind is within the limit, for all
expressions and programs in all environments made by registering the operations and binding values
within the limit, exactly when each operation gives a value within the limit, if it gives one, for
arguments within the limit. -/
theorem registered_withinNesting (registrations : Host → Registration Host) :
    (∀ limit environment program,
      ∀ call ∈ (evaluateProgram ⟨registered registrations, limit⟩ environment program).printed,
        ∀ value ∈ call.values, value.nestingDepth ≤ maxNesting) ∧
      ((∀ limit environment, Registered registrations environment →
          (∀ expr, (evaluate ⟨registered registrations, limit⟩ environment expr).Shallow) ∧
            ∀ program,
              (evaluateProgram ⟨registered registrations, limit⟩ environment program).Shallow) ↔
        ∀ operation, (registrations operation).KeepsNesting) := by
  refine ⟨fun limit environment program => ?_, fun within operation => ?_, fun keeps => ?_⟩
  · have closed := Invariant.closed_shallowPrints registrations limit
    have start : Invariant.shallowPrints.environment environment := trivial
    exact (closed.ensures_evaluateProgram program start).printed
  · intro arguments result passed performed
    let callee : Value Host := .builtin (registrations operation).name (.host operation)
    let names := Evaluation.namesFor (arguments.length + 1)
    let start := (globalEnvironment .log).bindAll names (callee :: arguments)
    have made : Registered registrations start := (Registered.start .log).bindAll names
      (List.forall_mem_cons.mpr ⟨Nat.zero_le maxNesting, passed⟩)
    have done : registered registrations operation start arguments = .done result := by
      rw [registered, performed]
      rfl
    have called : evaluate ⟨registered registrations, 2⟩ start (.form (names.map .symbol)) =
        .ok (result, start) :=
      Evaluation.evaluate_calling (globalEnvironment .log) _ operation rfl done
    exact ((within 2 start made).1 _).value result start (congrArg Run.outcome called)
  · intro limit environment made
    have closed := Invariant.closed_shallow keeps limit
    exact ⟨fun expr => (closed.keptBy_evaluate limit environment expr made.shallow).shallow,
      fun program => (closed.ensures_evaluateProgram program made.shallow).shallow⟩

/-- An operation that multiplies numbers gives vectors of one level: every run is within the limit,
also with a value at the limit bound beside the operation. -/
theorem registered_withinNesting_scale :
    let registrations : Unit → Registration Unit := fun _ => .scale
    let start := ((globalEnvironment .log).bindBuiltin "h-scale" (.host ())).bind "deep"
      (.wrapped maxNesting .null)
    (registrations ()).KeepsNesting ∧ Registered registrations start ∧
      ∀ expr, (evaluate ⟨registered registrations, 100⟩ start expr).Shallow := by
  intro registrations start
  have keeps : (registrations ()).KeepsNesting := by
    refine Invariant.keepsNesting_of_keepsTyped fun factor numbers _ _ => ?_
    have flat :
        Value.deepest (numbers.map fun number => (.number (number * factor) : Value Unit)) ≤ 0 := by
      refine Value.deepest_le_iff.mpr fun item member => ?_
      obtain ⟨number, _, rfl⟩ := List.mem_map.mp member
      exact Nat.le_refl 0
    exact Nat.le_trans (Nat.succ_le_succ flat) (by decide : 1 ≤ maxNesting)
  have made : Registered registrations start :=
    ((Registered.start .log).register ()).bind "deep"
      (Nat.le_of_eq (Value.nestingDepth_wrapped maxNesting .null))
  exact ⟨keeps, made,
    (((registered_withinNesting registrations).2.mpr fun _ => keeps) 100 start made).1⟩

/-- An operation that makes a vector of its arguments adds a level to a value at the limit, and the
call succeeds. -/
theorem registered_exceeds_nesting :
    let registrations : Unit → Registration Unit := fun _ => .tail
    let start := ((globalEnvironment .log).bindBuiltin "h-tail" (.host ())).bind "deep"
      (.wrapped maxNesting .null)
    let call := Expr.form [.symbol "h-tail", .symbol "deep", .symbol "deep"]
    Registered registrations start ∧
      ∃ value, (evaluate ⟨registered registrations, 100⟩ start call).outcome = .ok (value, start) ∧
        value.nestingDepth = maxNesting + 1 := by
  intro registrations start call
  have deep : (Value.wrapped maxNesting .null : Value Unit).nestingDepth = maxNesting :=
    Value.nestingDepth_wrapped maxNesting .null
  have made : Registered registrations start :=
    ((Registered.start .log).register ()).bind "deep" (Nat.le_of_eq deep)
  refine ⟨made, .vector [.wrapped maxNesting .null], rfl, ?_⟩
  exact Value.nestingDepth_wrapped (maxNesting + 1) .null

end Lisplet
