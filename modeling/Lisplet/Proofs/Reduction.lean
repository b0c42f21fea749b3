import Lisplet.Proofs.DepthLimit
import Lisplet.Proofs.PrimitiveCalls

/-!
# Folds over vectors

`reduce` calls a value on what has been gathered so far and on each element of a vector in turn, all
at the place of its own call. Nothing passes from one step to the next but the value that is
gathered, so a fold over a vector may be split anywhere: it is a fold over the front followed by a
fold over the back from where the first one ended (`Action.run_fold_append`). It fails exactly when
one of its steps does, with that step's error and with nothing printed after it
(`Action.run_fold_eq_error_iff`).

A step is the application that a form at the same place would make (`reduce_splits`), for functions,
primitives and operations of a host alike. The model bounds how many builtins call one another, so
that the recursion of a host's operations ends, and `reduce` is one of the builtins that it counts:
the bound is one higher on the side of the fold (`Evaluation.call_reduce_singleton`). Under one
bound for both sides a step of a host's operation may be cut short (`Evaluation.call_cutShort`).
-/

set_option autoImplicit false

namespace Lisplet

variable {Host α β : Type}

/-! ## Runs cut short -/

namespace Run.CutShort

variable {limit : Nat}

theorem refl (limit : Nat) (run : Run Host α) : run.CutShort limit run :=
  ⟨List.prefix_refl _, fun _ => rfl⟩

theorem afterPrinting {shorter longer : Run Host α} (short : shorter.CutShort limit longer)
    (printed : Printed Host) :
    (shorter.afterPrinting printed).CutShort limit (longer.afterPrinting printed) where
  printed := (List.prefix_cons_inj printed).mpr short.printed
  same ends := congrArg (Run.afterPrinting printed) (short.same ends)

/-- A run that is cut short is not followed by anything, and any other goes on as the longer one
does. -/
theorem bind {shorter longer : Run Host α} (short : shorter.CutShort limit longer)
    {next further : α → Run Host β}
    (later : ∀ result, (next result).CutShort limit (further result)) :
    (shorter.bind next).CutShort limit (longer.bind further) := by
  by_cases cut : shorter.outcome = .error (.depthExceeded limit)
  · rw [bind_of_error cut]
    exact ⟨short.printed.trans (printed_prefix_bind longer further), fun other => absurd rfl other⟩
  · rw [short.same cut]
    cases ends : shorter.outcome with
    | error error =>
        rw [bind_of_error ends, bind_of_error ends]
        exact refl limit _
    | ok result =>
        rw [bind_of_ok ends, bind_of_ok ends]
        have following := later result
        refine ⟨(List.prefix_append_right_inj _).mpr following.printed, fun other => ?_⟩
        rw [following.same other]

end Run.CutShort

/-! ## Actions in sequence -/

namespace Action

section Run

variable (call : Value Host → List (Value Host) → Run Host (Value Host))

/-- One action after another is one run after another. -/
theorem run_bind (action : Action Host) (next : Value Host → Action Host) :
    (action.bind next).run call = (action.run call).bind fun value => (next value).run call := by
  induction action with
  | done value => rfl
  | fail error => rfl
  | print sink values rest ih =>
      rw [bind, run, ih, run, Run.bind_afterPrinting]
  | call callee arguments rest ih =>
      rw [bind, run, run, Run.bind_assoc]
      exact congrArg (Run.bind _) (funext fun value => ih value)

/-- **A fold may be split anywhere.** -/
theorem run_fold_append (reducer seed : Value Host) (front back : List (Value Host)) :
    (fold reducer seed (front ++ back)).run call =
      ((fold reducer seed front).run call).bind fun middle =>
        (fold reducer middle back).run call := by
  rw [fold_append, run_bind]

/-- A fold over one item is a single call. -/
theorem run_fold_singleton (reducer seed item : Value Host) :
    (fold reducer seed [item]).run call = call reducer [seed, item] := Run.bind_ok _

variable {call}

/-- **A fold fails exactly with one of its steps**, after the steps before it and without the steps
behind it. -/
theorem run_fold_eq_error_iff {reducer seed : Value Host} {items : List (Value Host)}
    {printed : List (Printed Host)} {error : Error} :
    (fold reducer seed items).run call = ⟨printed, .error error⟩ ↔
      ∃ front item rest earlier middle later, items = front ++ item :: rest ∧
        (fold reducer seed front).run call = ⟨earlier, .ok middle⟩ ∧
        (fold reducer middle [item]).run call = ⟨later, .error error⟩ ∧
          printed = earlier ++ later := by
  constructor
  · intro fails
    induction items generalizing seed printed with
    | nil => cases fails
    | cons item items ih =>
        rcases Run.bind_eq_error_iff.mp fails with
          now | ⟨earlier, next, later, succeeds, behind, rfl⟩
        · refine ⟨[], item, items, [], seed, printed, rfl, rfl, ?_, rfl⟩
          rw [run_fold_singleton]
          exact now
        · obtain ⟨front, failing, rest, before, middle, after, rfl, gathered, last, rfl⟩ :=
            ih behind
          refine ⟨item :: front, failing, rest, earlier ++ before, middle, after, rfl, ?_, last,
            (List.append_assoc _ _ _).symm⟩
          exact Run.bind_eq_ok_iff.mpr ⟨earlier, next, before, succeeds, gathered, rfl⟩
  · rintro ⟨front, item, rest, earlier, middle, later, rfl, gathered, fails, rfl⟩
    have stopped : (fold reducer middle (item :: rest)).run call = ⟨later, .error error⟩ := by
      rw [← List.singleton_append, run_fold_append, fails]
      rfl
    rw [run_fold_append, gathered]
    exact Run.bind_eq_error_iff.mpr (.inr ⟨earlier, middle, later, rfl, stopped, rfl⟩)

end Run

/-- Where calls may be cut short, so may the action that makes them. -/
theorem run_cutShort {limit : Nat}
    {first second : Value Host → List (Value Host) → Run Host (Value Host)}
    (short : ∀ callee arguments, (first callee arguments).CutShort limit (second callee arguments))
    (action : Action Host) : (action.run first).CutShort limit (action.run second) := by
  induction action with
  | done value => exact .refl limit _
  | fail error => exact .refl limit _
  | print sink values next ih => exact ih.afterPrinting ⟨sink, values⟩
  | call callee arguments next ih => exact (short callee arguments).bind ih

end Action

/-! ## Calls of `reduce` -/

namespace Evaluation

variable (setting : Setting Host) (body : Evaluator Host) (environment : Environment Host)

/-- The bound on builtins that call one another only cuts calls short. The induction is on the
bound, as a builtin is carried out with one call less. -/
theorem call_cutShort {chain further : Nat} (le : chain ≤ further) (callee : Value Host)
    (arguments : List (Value Host)) :
    (call setting body chain environment callee arguments).CutShort setting.limit
      (call setting body further environment callee arguments) := by
  induction chain generalizing further callee arguments with
  | zero =>
      cases callee with
      | builtin id operation => exact ⟨List.nil_prefix, fun other => absurd rfl other⟩
      | function _ _ =>
          rw [call_function, call_function]
          exact .refl _ _
      | null | number _ | bool _ | symbol _ | vector _ | list _ =>
          rw [call_of_not_isCallable _ _ _ _ _ rfl, call_of_not_isCallable _ _ _ _ _ rfl]
          exact .refl _ _
  | succ chain ih =>
      obtain ⟨further, rfl⟩ :=
        Nat.exists_eq_add_one.mpr (Nat.lt_of_lt_of_le (Nat.succ_pos chain) le)
      cases callee with
      | builtin id operation =>
          rw [call_builtin, call_builtin]
          exact Action.run_cutShort (ih (Nat.le_of_succ_le_succ le)) _
      | function _ _ =>
          rw [call_function, call_function]
          exact .refl _ _
      | null | number _ | bool _ | symbol _ | vector _ | list _ => exact .refl _ _

/-- **A step of a fold is an application.** On a vector of one element, `reduce` does what applying
the value to the two others does at the place of its call, whatever the value is. The bound on
builtins that call one another is one higher for `reduce`, which is the outermost of them. -/
theorem call_reduce_singleton (chain : Nat) {reducer : Value Host}
    (callable : reducer.isCallable = true) (seed item : Value Host) :
    call setting body (chain + 1) environment Primitive.reduce.toValue
        [reducer, seed, .vector [item]] =
      apply (call setting body chain environment) [reducer, seed, item] := by
  rw [apply_of_isCallable _ _ callable, call_reduce _ _ _ _ callable, Action.run_fold_singleton]

/-- With room for one builtin more in a row, a function or a primitive of the language is applied as
before, and an operation of a host may get further. -/
theorem apply_pair_succ (chain : Nat) {callee : Value Host} (callable : callee.isCallable = true)
    (first second : Value Host) :
    let applied (bound : Nat) :=
      apply (call setting body bound environment) [callee, first, second]
    (callee.isNative = true → 1 ≤ chain → applied chain = applied (chain + 1)) ∧
      (applied chain).CutShort setting.limit (applied (chain + 1)) := by
  intro applied
  have calls (bound : Nat) :
      applied bound = call setting body bound environment callee [first, second] :=
    apply_of_isCallable _ _ callable
  rw [calls, calls]
  refine ⟨fun native room => ?_, call_cutShort _ _ _ (Nat.le_succ chain) _ _⟩
  obtain ⟨further, rfl⟩ := Nat.exists_eq_add_of_le' room
  rw [call_pair_of_isNative _ _ _ _ native, call_pair_of_isNative _ _ _ (further + 1) native]

end Evaluation

open Evaluation in
/-- **`reduce` is a left fold that may be split anywhere.** At any place of a call, in any
environment and with any number of levels left for the bodies of functions, folding over two vectors
in a row is folding over the first and, if that succeeds, over the second from its result. A fold
fails with the first of its steps that fails, whatever comes after it. A step is what applying the
value to the two others at that place is, whether the value is a function, a primitive or an
operation of a host. A fold over nothing calls nothing.

The bound on builtins that call one another counts `reduce` as one of them. If it is the same for a
step and for the application, the two are equal for a value of the language itself, and a step of an
operation of a host may be cut short. -/
theorem reduce_splits (setting : Setting Host) (levels chain : Nat) (environment : Environment Host)
    {reducer : Value Host} (callable : reducer.isCallable = true) :
    let site (bound : Nat) := call setting (Evaluation.evaluate setting levels) bound environment
    let reduced (seed : Value Host) (items : List (Value Host)) :=
      site (chain + 1) Primitive.reduce.toValue [reducer, seed, .vector items]
    (∀ seed front back, reduced seed (front ++ back) =
        (reduced seed front).bind fun middle => reduced middle back) ∧
      (∀ seed items printed error, reduced seed items = ⟨printed, .error error⟩ ↔
        ∃ front item rest earlier middle later, items = front ++ item :: rest ∧
          reduced seed front = ⟨earlier, .ok middle⟩ ∧
          reduced middle [item] = ⟨later, .error error⟩ ∧ printed = earlier ++ later) ∧
      (∀ seed item, reduced seed [item] = apply (site chain) [reducer, seed, item]) ∧
      (∀ seed item,
        (reducer.isNative = true → 1 ≤ chain →
          reduced seed [item] = apply (site (chain + 1)) [reducer, seed, item]) ∧
          (reduced seed [item]).CutShort setting.limit
            (apply (site (chain + 1)) [reducer, seed, item])) ∧
      ∀ seed, (Primitive.reduce.perform [reducer, seed, .vector []] : Action Host) = .done seed ∧
        reduced seed [] = .ok seed := by
  intro site reduced
  have folds (seed : Value Host) (items : List (Value Host)) :
      reduced seed items = (Action.fold reducer seed items).run (site chain) :=
    call_reduce setting _ environment chain callable seed items
  have step (seed item : Value Host) :
      reduced seed [item] = apply (site chain) [reducer, seed, item] :=
    call_reduce_singleton setting _ environment chain callable seed item
  refine ⟨fun seed front back => ?_, fun seed items printed error => ?_, step, fun seed item => ?_,
    fun seed => ⟨if_pos callable, folds seed []⟩⟩
  · simp only [folds]
    exact Action.run_fold_append _ reducer seed front back
  · simp only [folds]
    exact Action.run_fold_eq_error_iff
  · rw [step]
    exact apply_pair_succ setting _ environment chain callable seed item

/-- A function that calls each element on what has been gathered: `print` prints it and makes a list
of it, `append` takes no single argument, and what stands behind it is not called. -/
theorem reduce_splits_calling :
    let reducer : Value Empty := .function ["all", "next"] (.form [.symbol "next", .symbol "all"])
    let printing : Value Empty := .builtin "print" (.print .log)
    let failing : Value Empty := Primitive.append.toValue
    let site (bound : Nat) :=
      Evaluation.call ⟨noHost, 100⟩ (Evaluation.evaluate ⟨noHost, 100⟩ 10) bound .empty
    let reduced (seed : Value Empty) (items : List (Value Empty)) :=
      site (maxChain + 1) Primitive.reduce.toValue [reducer, seed, .vector items]
    reducer.isCallable = true ∧
      reduced .null ([printing] ++ [printing]) =
        ⟨[⟨.log, [.null]⟩, ⟨.log, [.list [.null]]⟩], .ok (.list [.list [.null]])⟩ ∧
      reduced .null [printing, failing, printing] =
        ⟨[⟨.log, [.null]⟩], .error (.arity "append" (.exactly 2) 1)⟩ ∧
      reduced .null [printing] = Evaluation.apply (site maxChain) [reducer, .null, printing] := by
  intro reducer printing failing site reduced
  have callable : reducer.isCallable = true := rfl
  obtain ⟨splits, fails, steps, -, -⟩ := reduce_splits ⟨noHost, 100⟩ 10 maxChain .empty callable
  have first : reduced .null [printing] = ⟨[⟨.log, [.null]⟩], .ok (.list [.null])⟩ := rfl
  have second : reduced (.list [.null]) [printing] =
      ⟨[⟨.log, [.list [.null]]⟩], .ok (.list [.list [.null]])⟩ := rfl
  have refused : reduced (.list [.null]) [failing] =
      ⟨[], .error (.arity "append" (.exactly 2) 1)⟩ := rfl
  have both : reduced .null ([printing] ++ [printing]) =
      (reduced .null [printing]).bind fun middle => reduced middle [printing] := splits _ _ _
  rw [first, Run.bind_of_ok rfl, second] at both
  have stopped := (fails .null [printing, failing, printing] _ _).mpr
    ⟨[printing], failing, [printing], _, _, _, rfl, first, refused, rfl⟩
  exact ⟨callable, both, stopped, steps .null printing⟩

end Lisplet
