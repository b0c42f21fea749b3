import Lisplet.Proofs.InTurn
import Lisplet.Proofs.Nesting

/-!
# What a run prints

A run lists its calls of `print` in order. The console shows a line for each, and a log gets their
arguments one after the other, behind what it held before (`Session.observe_eq`).

A call that is refused is not listed (`runProgram_accepted`), and the calls made before a failure
are: what a program has printed stays the beginning of what it prints when it goes on
(`runProgram_printed_prefix`).
-/

set_option autoImplicit false

namespace Lisplet

variable {Host : Type}

/-! ## What the console shows and a log gets -/

namespace Value

theorem textAll_cons_cons (first second : Value Host) (rest : List (Value Host)) :
    textAll (first :: second :: rest) = text first ++ ' ' :: textAll (second :: rest) := rfl

/-- Several values are shown with one space between two of them. -/
theorem displayAll_eq_intercalate (values : List (Value Host)) :
    displayAll values = String.intercalate " " (values.map display) := by
  induction values with
  | nil => rfl
  | cons first rest ih =>
      cases rest with
      | nil => exact (String.intercalate_singleton).symm
      | cons second rest =>
          rw [List.map_cons, List.map_cons, String.intercalate_cons_cons, ← List.map_cons, ← ih]
          apply String.toList_inj.mp
          simp [displayAll, display, textAll_cons_cons]

end Value

namespace Printed

/-- The console shows the arguments of each call on a line of their own. -/
theorem consoleText_console (calls : List (List (Value Host))) :
    consoleText (calls.map fun arguments => ⟨.console, arguments⟩) =
      String.join (calls.map fun arguments =>
        String.intercalate " " (arguments.map Value.display) ++ "\n") := by
  induction calls with
  | nil => rfl
  | cons arguments calls ih =>
      rw [List.map_cons, consoleText, ih, List.map_cons, String.join_cons, line,
        Value.displayAll_eq_intercalate]

theorem consoleText_log (calls : List (List (Value Host))) :
    consoleText (calls.map fun arguments => ⟨.log, arguments⟩) = "" := by
  induction calls with
  | nil => rfl
  | cons _ _ ih => exact ih

/-- A log gets the arguments of each call, one after the other. -/
theorem logged_log (calls : List (List (Value Host))) :
    logged (calls.map fun arguments => ⟨.log, arguments⟩) = calls.flatten := by
  induction calls with
  | nil => rfl
  | cons arguments calls ih => rw [List.map_cons, logged, ih, List.flatten_cons]

theorem logged_console (calls : List (List (Value Host))) :
    logged (calls.map fun arguments => ⟨.console, arguments⟩) = [] := by
  induction calls with
  | nil => rfl
  | cons _ _ ih => exact ih

end Printed

/-- A session adds to its log what a run prints to it, also when the run fails, and is otherwise the
same. -/
theorem Session.observe_eq {α : Type} (session : Session Host) (run : Run Host α) :
    session.observe run =
      (run.outcome, { session with log := session.log ++ Printed.logged run.printed }) := by
  obtain ⟨printed, outcome⟩ := run
  cases outcome <;> rfl

/-! ## The calls that are listed -/

/-- A call of `print` prints its arguments and gives them as a list, or is refused and prints
nothing. -/
theorem Evaluation.call_print (setting : Setting Host) (body : Evaluator Host) (further : Nat)
    (environment : Environment Host) (sink : Sink) (arguments : List (Value Host)) :
    call setting body (further + 1) environment (.builtin Operation.printId (.print sink))
      arguments =
      if Value.deepest arguments < maxNesting then ⟨[⟨sink, arguments⟩], .ok (.list arguments)⟩
      else .fail (.nestingTooDeep maxNesting) := by
  rw [call_builtin, Operation.perform, Operation.printing]
  split
  · rename_i shallow
    rw [Value.checkNesting_eq_ok_iff.mpr shallow]
    rfl
  · rename_i deep
    have refused : Value.checkNesting arguments = .error (.nestingTooDeep maxNesting) :=
      if_pos (Nat.lt_succ_of_le (Nat.le_of_not_lt deep))
    rw [refused]
    rfl

namespace Invariant

/-- Values of the language, and calls of `print` that are not refused. -/
def accepted : Invariant Host where
  value value := value.isNative = true
  environment environment := environment.Binds fun value => value.isNative = true
  printed call := Value.deepest call.values < maxNesting
  error _ := True

theorem native_accepted : (accepted : Invariant Host).Native :=
  have language : (language fun _ => True : Invariant Host).Native :=
    native_language (fun _ _ => trivial) fun _ _ _ => trivial
  { plain := language.plain
    element := language.element
    vector := language.vector
    list := language.list
    append := language.append
    printed := fun _ _ checked _ => Value.checkNesting_eq_ok_iff.mp checked
    host := language.host
    lookup := language.lookup
    bind := language.bind
    bindMacro := language.bindMacro
    raised := language.raised
    inForm := language.inForm }

end Invariant

/-- No refused call is listed. -/
theorem runProgram_accepted (handler : Handler Host) (limits : Limits) (sink : Sink)
    (source : String) :
    ∀ call ∈ (runProgram handler limits (globalEnvironment sink) source).printed,
      Value.deepest call.values < maxNesting := by
  have start : (globalEnvironment sink : Environment Host).Binds fun value =>
      value.isNative = true :=
    fun name value found => (globalEnvironment_withinNesting sink name value found).1
  have closed := Invariant.native_accepted.closed ⟨handler, limits.evaluation⟩
  have kept : Invariant.accepted.Ensures (fun _ => True)
      (runProgram handler limits (globalEnvironment sink) source) := by
    unfold runProgram
    split
    · exact Invariant.ensures_fail trivial
    · rename_i program _
      exact Invariant.ensures_map
        (closed.ensures_evaluateProgram (Prelude.program ++ program) start)
        fun _ _ => trivial
  exact kept.printed

theorem Run.printed_map {α β : Type} (run : Run Host α) (change : α → β) :
    (run.map change).printed = run.printed := rfl

/-- **What a program has printed stays**, however it goes on and whether or not it fails then. -/
theorem runProgram_printed_prefix (handler : Handler Host) (limits : Limits)
    (environment : Environment Host) {source longer : String} {program further : List Expr}
    (read : parseProgram limits.reading source = .ok program)
    (readLonger : parseProgram limits.reading longer = .ok (program ++ further)) :
    (runProgram handler limits environment source).printed <+:
      (runProgram handler limits environment longer).printed := by
  obtain ⟨reading, evaluation⟩ := limits
  cases evaluation with
  | zero =>
      rw [runProgram, read]
      exact List.nil_prefix
  | succ levels =>
      let expression := Evaluation.evaluate ⟨handler, levels + 1⟩ levels
      rw [runProgram_eq_map handler reading levels environment read,
        runProgram_eq_map handler reading levels environment readLonger, ← List.append_assoc,
        Evaluation.evaluateAll_append expression environment (Prelude.program ++ program) further,
        Run.printed_map, Run.printed_map]
      exact Run.printed_prefix_bind _ _

end Lisplet
