import Lisplet.Proofs.Invariant.Native
import Lisplet.Proofs.Simulation

/-!
# The limit on the depth

A limit on the depth of evaluation changes nothing about a run but how far it gets. What is printed
under a limit is the beginning of what is printed under a greater one. A run that does not end
because the limit is reached is the very run under every greater limit: in what it prints, in its
value and its environment, and in its error (`evaluation_cutShort`).

So no rule of evaluation asks how many levels are left, and none goes on after the error for running
out of them.

Calls from one builtin to another take no levels. What bounds them in `Evaluation.call` is no limit
of the language, and is out of its reach: a builtin of the language that is called by a builtin
calls none in its turn (`Evaluation.call_of_isNative`).
-/

set_option autoImplicit false

namespace Lisplet

variable {Host α : Type}

/-- How a run under a limit compares with a run under a greater one: it prints the beginning of what
the other prints, and it is the same run unless it ends because the limit is reached. -/
structure Run.CutShort (limit : Nat) (shorter longer : Run Host α) : Prop where
  printed : shorter.printed <+: longer.printed
  same : shorter.outcome ≠ .error (.depthExceeded limit) → longer = shorter

namespace Simulation

/-- Everything is compared by equality, and reaching the limit cuts the first run short. -/
def untilLimit (limit : Nat) : Simulation Host where
  names _ := True
  value := Eq
  environment := Eq
  printed := Eq
  error := Eq
  cut raised := raised = .depthExceeded limit

theorem Follows.cutShort {limit : Nat}
    {shorter longer : Run Host (Value Host × Environment Host)}
    (follows : (untilLimit limit).Follows (untilLimit limit).Reached shorter longer) :
    shorter.CutShort limit longer := by
  cases follows with
  | cut back outcome printed short =>
      cases eq_of_forall₂ (fun _ _ => id) printed
      cases short
      exact ⟨List.prefix_append _ back, fun other => absurd rfl other⟩
  | alike printed ends =>
      cases eq_of_forall₂ (fun _ _ => id) printed
      refine ⟨List.prefix_refl _, fun _ => ?_⟩
      cases ends with
      | ok related =>
          cases Prod.ext related.1 related.2
          rfl
      | error related =>
          cases related
          rfl

/-- A greater limit leaves the rules of evaluation as they are. -/
theorem closed_untilLimit (handler : Handler Host) (limit greater : Nat) :
    (untilLimit limit).Closed ⟨handler, limit⟩ ⟨handler, greater⟩ := by
  refine closed_equality (fun _ => rfl) ?_ ?_ (.inr rfl)
  · rintro form raised _ rfl
    rfl
  · rintro form _ rfl
    rfl

end Simulation

/-- **The limit on the depth only cuts runs short**, of expressions and of programs, in every
environment and with whatever operations a host adds. -/
theorem evaluation_cutShort (handler : Handler Host) {limit greater : Nat} (le : limit ≤ greater)
    (environment : Environment Host) :
    (∀ expr, (evaluate ⟨handler, limit⟩ environment expr).CutShort limit
        (evaluate ⟨handler, greater⟩ environment expr)) ∧
      ∀ program, (evaluateProgram ⟨handler, limit⟩ environment program).CutShort limit
        (evaluateProgram ⟨handler, greater⟩ environment program) := by
  have closed := Simulation.closed_untilLimit handler limit greater
  have enough : (Simulation.untilLimit limit).Enough ⟨handler, limit⟩ limit greater :=
    .inr ⟨le, rfl⟩
  constructor
  · intro expr
    have follows := closed.followedBy_evaluate enough environment environment expr rfl
      fun _ _ => trivial
    exact follows.cutShort
  · intro program
    exact (closed.follows_evaluateProgram enough rfl fun _ _ _ _ => trivial).cutShort

/-- A function that prints and then calls itself. -/
def loopingEnvironment : Environment Empty :=
  (Environment.empty.bindBuiltin Operation.printId (.print .log)).bind "loop"
    (.function [] (.form [.form [.symbol "print", .symbol "on"], .form [.symbol "loop"]]))

/-- The function is cut short under any limit, and prints more under a greater one; a single call of
`print` is within both limits, and is the same run. -/
theorem evaluation_cutShort_looping :
    let loop := Expr.form [.symbol "loop"]
    let once := Expr.form [.symbol "print", .symbol "on"]
    8 ≤ 12 ∧
      (evaluate ⟨noHost, 8⟩ loopingEnvironment loop).printed <+:
        (evaluate ⟨noHost, 12⟩ loopingEnvironment loop).printed ∧
      (evaluate ⟨noHost, 8⟩ loopingEnvironment loop).printed.length <
        (evaluate ⟨noHost, 12⟩ loopingEnvironment loop).printed.length ∧
      (evaluate ⟨noHost, 8⟩ loopingEnvironment once).outcome =
        .ok (.list [.symbol "on"], loopingEnvironment) ∧
      evaluate ⟨noHost, 12⟩ loopingEnvironment once =
        evaluate ⟨noHost, 8⟩ loopingEnvironment once := by
  intro loop once
  have below : 8 ≤ 12 := by decide
  have short := (evaluation_cutShort noHost below loopingEnvironment).1
  have more : (evaluate ⟨noHost, 8⟩ loopingEnvironment loop).printed.length <
      (evaluate ⟨noHost, 12⟩ loopingEnvironment loop).printed.length := by
    decide +kernel
  exact ⟨below, (short loop).printed, more, rfl, (short once).same nofun⟩

/-! ## Builtins that call one another -/

/-- The action calls nothing. -/
def Action.CallsNothing : Action Host → Prop
  | .done _ => True
  | .fail _ => True
  | .print _ _ next => next.CallsNothing
  | .call _ _ _ => False

namespace Action

/-- How values are called does not matter to an action that calls nothing. -/
theorem CallsNothing.run_eq {action : Action Host} (nothing : action.CallsNothing)
    (first second : Value Host → List (Value Host) → Run Host (Value Host)) :
    action.run first = action.run second := by
  induction action with
  | done _ | fail _ => rfl
  | print sink values next ih => rw [run, run, ih nothing]
  | call _ _ _ _ => exact nothing.elim

theorem callsNothing_ofExcept (outcome : Except Error (Value Host)) :
    (ofExcept outcome).CallsNothing := by
  cases outcome <;> exact trivial

theorem callsNothing_withResult {α : Type} (result : Except Error α) {next : α → Action Host}
    (after : ∀ value, (next value).CallsNothing) : (withResult result next).CallsNothing := by
  cases result with
  | ok value => exact after value
  | error _ => exact trivial

end Action

/-- Only `reduce` calls anything, and it takes three arguments. -/
theorem Primitive.callsNothing (primitive : Primitive) {arguments : List (Value Host)}
    (notReduction : primitive = .reduce → arguments.length ≠ 3) :
    (primitive.perform arguments).CallsNothing := by
  refine Action.callsNothing_withResult _ fun _ => ?_
  cases primitive with
  | reduce =>
      rw [body, reduction_of_length_ne (notReduction rfl)]
      exact trivial
  | add | multiply | subtract | divide | power | less | not | equal | arrayOf | append =>
      exact Action.callsNothing_ofExcept _

/-- A primitive calls nothing, or it is a fold of a vector by a value that can be called. -/
theorem Primitive.callsNothing_or_fold (primitive : Primitive) (arguments : List (Value Host)) :
    (primitive.perform arguments).CallsNothing ∨
      ∃ reducer seed items, arguments = [reducer, seed, .vector items] ∧ reducer.isCallable = true ∧
        primitive.perform arguments = .fold reducer seed items := by
  by_cases isReduce : primitive = .reduce ∧ arguments.length = 3
  · obtain ⟨rfl, three⟩ := isReduce
    obtain ⟨reducer, seed, items, rfl⟩ := List.length_eq_three.mp three
    have reduced : perform .reduce [reducer, seed, items] = reduction [reducer, seed, items] := rfl
    rw [reduced, reduction]
    split
    next callable =>
      cases items with
      | vector items => exact .inr ⟨reducer, seed, items, rfl, callable, rfl⟩
      | null | number _ | bool _ | symbol _ | list _ | function _ _ | builtin _ _ =>
          exact .inl trivial
    next => exact .inl trivial
  · exact .inl (primitive.callsNothing (not_and.mp isReduce))

namespace Operation

theorem callsNothing_printing (sink : Sink) (arguments : List (Value Host)) :
    (printing sink arguments).CallsNothing :=
  Action.callsNothing_withResult _ fun _ => trivial

variable {handler : Handler Host} {environment : Environment Host} {id : String}
  {operation : Operation Host} (native : (Value.builtin id operation).isNative = true)
include native

/-- The same of all operations of the language. -/
theorem callsNothing_or_fold (arguments : List (Value Host)) :
    (operation.perform handler environment arguments).CallsNothing ∨
      ∃ reducer seed items, arguments = [reducer, seed, .vector items] ∧ reducer.isCallable = true ∧
        operation.perform handler environment arguments = .fold reducer seed items := by
  cases operation with
  | primitive called => exact called.callsNothing_or_fold arguments
  | print sink => exact .inl (callsNothing_printing sink arguments)
  | host _ => cases native

/-- What a fold calls does not call anything in its turn, if it is a builtin: it gets two
arguments. -/
theorem callsNothing_pair (gathered item : Value Host) :
    (operation.perform handler environment [gathered, item]).CallsNothing := by
  rcases callsNothing_or_fold native [gathered, item] with nothing | ⟨_, _, _, ⟨⟩, _, _⟩
  exact nothing

end Operation

namespace Evaluation

variable (setting : Setting Host) (body : Evaluator Host) (environment : Environment Host)

/-- What a fold calls does not call any builtin in its turn. -/
theorem call_pair_of_isNative (chain : Nat) {callee : Value Host} (native : callee.isNative = true)
    (first second : Value Host) :
    call setting body (chain + 1) environment callee [first, second] =
      call setting body 1 environment callee [first, second] := by
  cases callee with
  | function _ _ => rw [call_function, call_function]
  | null | number _ | bool _ | symbol _ | vector _ | list _ => rfl
  | builtin id operation =>
      rw [call_builtin, call_builtin]
      exact (Operation.callsNothing_pair native first second).run_eq _ _

theorem run_fold_of_isNative (chain : Nat) {reducer : Value Host} (native : reducer.isNative = true)
    (gathered : Value Host) (items : List (Value Host)) :
    (Action.fold reducer gathered items).run (call setting body (chain + 1) environment) =
      (Action.fold reducer gathered items).run (call setting body 1 environment) := by
  induction items generalizing gathered with
  | nil => rfl
  | cons item items ih =>
      rw [Action.fold, Action.run, Action.run, call_pair_of_isNative _ _ _ chain native]
      exact congrArg _ (funext ih)

/-- **Two builtins in a row are the most there are**, where all builtins are of the language itself:
so no call comes near the bound that `call` recurses over. -/
theorem call_of_isNative (chain : Nat) {callee : Value Host} {arguments : List (Value Host)}
    (native : callee.isNative = true) (passed : ∀ argument ∈ arguments, argument.isNative = true) :
    call setting body (chain + 2) environment callee arguments =
      call setting body 2 environment callee arguments := by
  cases callee with
  | function _ _ => rw [call_function, call_function]
  | null | number _ | bool _ | symbol _ | vector _ | list _ => rfl
  | builtin id operation =>
      rw [call_builtin, call_builtin]
      rcases Operation.callsNothing_or_fold native arguments with
        nothing | ⟨reducer, seed, items, rfl, _, folds⟩
      · exact nothing.run_eq _ _
      · rw [folds]
        have reducing := passed reducer List.mem_cons_self
        exact run_fold_of_isNative setting body environment chain reducing seed items

end Evaluation
end Lisplet
