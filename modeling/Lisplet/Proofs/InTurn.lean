import Lisplet.Proofs.DepthLimit
import Lisplet.Proofs.Prelude
import Lisplet.Session

/-!
# Programs, expression by expression

A program is evaluated as one form, with the prelude in front of it. A session evaluates one
expression after the other and keeps what they define. Both come to the same (`runProgram_inTurn`):
the same is printed, and the program ends with the last value or with the first error.

Two things have to be seen for that. The form of a program is evaluated element by element, and
gives the last value: it is no special form and no call of a macro, since its first element is a
form, and it is neither indexed nor called, since the first element is a definition of the prelude
and gives null (`form_prelude_append`). And an element of the program stands a level deeper than the
program, so that a program has to be given one level more; an error for running out of levels then
names another limit.
-/

set_option autoImplicit false

namespace Lisplet

variable {Host α β γ : Type}

/-! ## Runs under another limit -/

/-- Two errors are the same, but for the limit that they name when evaluation went too deep. -/
inductive Error.SameButLimit : Error → Error → Prop where
  | same (error : Error) : SameButLimit error error
  | exceeded (left right : Nat) : SameButLimit (.depthExceeded left) (.depthExceeded right)

/-- Two runs print the same and end the same, but for the limit that their errors name. -/
inductive Run.SameButLimit : Run Host α → Run Host α → Prop where
  | ok (printed : List (Printed Host)) (result : α) :
      SameButLimit ⟨printed, .ok result⟩ ⟨printed, .ok result⟩
  | error (printed : List (Printed Host)) {left right : Error} (same : left.SameButLimit right) :
      SameButLimit ⟨printed, .error left⟩ ⟨printed, .error right⟩

namespace Simulation

/-- Everything is compared by equality, except the limit that an error names. -/
def exceptLimit : Simulation Host := equality Error.SameButLimit fun _ => False

theorem Follows.sameButLimit {result : α → α → Prop} {left right : Run Host α}
    (follows : exceptLimit.Follows result left right)
    (equal : ∀ first second, result first second → first = second) : left.SameButLimit right := by
  cases follows with
  | cut _ _ _ short => exact short.elim
  | alike printed ends =>
      cases eq_of_forall₂ (fun _ _ => id) printed
      cases ends with
      | ok related =>
          cases equal _ _ related
          exact .ok _ _
      | error same => exact .error _ same

/-- Another limit is named, and nothing else changes where the same levels are left. -/
theorem closed_exceptLimit (handler : Handler Host) (limit other : Nat) :
    exceptLimit.Closed ⟨handler, limit⟩ ⟨handler, other⟩ := by
  refine closed_equality .same ?_ (fun _ _ => False.elim) (.inl (.exceeded limit other))
  rintro form left right (error | ⟨_, _⟩)
  · exact .same _
  · exact .exceeded _ _

end Simulation

theorem Run.SameButLimit.map {left right : Run Host α} (same : left.SameButLimit right)
    (change : α → β) : (left.map change).SameButLimit (right.map change) := by
  cases same with
  | ok printed result => exact .ok printed (change result)
  | error printed same => exact .error printed same

/-- Expressions in turn come to the same under every limit, where the same levels are left. -/
theorem Evaluation.evaluateAll_sameButLimit (handler : Handler Host) (limit other levels : Nat)
    (environment : Environment Host) (elements : List Expr) :
    (evaluateAll (Evaluation.evaluate ⟨handler, limit⟩ levels) environment elements).SameButLimit
      (evaluateAll (Evaluation.evaluate ⟨handler, other⟩ levels) environment elements) := by
  have closed := Simulation.closed_exceptLimit handler limit other
  have inner :=
    closed.followedBy_evaluate (.inl rfl : Simulation.exceptLimit.Enough _ levels levels)
  have start : Simulation.exceptLimit.environment environment environment := rfl
  have follows := Simulation.follows_evaluateAll inner elements start fun _ _ _ _ => trivial
  exact follows.sameButLimit fun _ _ reached =>
    Prod.ext (eq_of_forall₂ (fun _ _ => id) reached.1) reached.2

/-! ## One list of expressions after another -/

/-- Expressions behind others are evaluated in the environment that those leave. -/
theorem Evaluation.evaluateAll_append (expression : Evaluator Host) (environment : Environment Host)
    (front back : List Expr) :
    evaluateAll expression environment (front ++ back) =
      (evaluateAll expression environment front).bind fun reached =>
        (evaluateAll expression reached.2 back).bind fun later =>
          .ok (reached.1 ++ later.1, later.2) := by
  induction front generalizing environment with
  | nil => exact (Run.bind_ok _).symm
  | cons first rest ih =>
      rw [List.cons_append, evaluateAll, evaluateAll]
      simp only [ih, Run.bind_assoc, Run.ok_bind, List.cons_append]

/-! ## The form of a program -/

/-- A run goes on without printing or failing where every result that it may have is only
changed. -/
theorem Run.bind_eq_map {result : α → Prop} {run : Run Host α} {next : α → Run Host β}
    {change : α → β} (ends : Invariant.anything.Ensures result run)
    (changes : ∀ reached, result reached → next reached = .ok (change reached)) :
    run.bind next = run.map change := by
  obtain ⟨printed, outcome⟩ := run
  cases outcome with
  | error raised => rfl
  | ok reached =>
      rw [bind]
      dsimp only
      rw [changes reached ends.outcome]
      show Run.mk (printed ++ []) _ = _
      rw [List.append_nil]
      rfl

namespace Evaluation

/-- What comes of several values: the last one, and null when there are none. -/
def lastOf (reached : List (Value Host) × Environment Host) : Value Host × Environment Host :=
  (reached.1.getLastD .null, reached.2)

/-- Elements of which the first gives null are neither indexed nor called: the last value counts. -/
theorem sequence_of_null {setting : Setting Host} {inside : Inside Host}
    {environment : Environment Host}
    {first : Expr} (rest : List Expr) (null : Invariant.anything.Ensures
      (fun reached => reached.1 = .null) (inside.expression environment first)) :
    sequence setting inside environment (first :: rest) =
      (evaluateAll inside.expression environment (first :: rest)).map lastOf := by
  have ends : Invariant.anything.Ensures
      (fun reached => ∃ values, reached.1 = Value.null :: values)
      (evaluateAll inside.expression environment (first :: rest)) := by
    refine Invariant.ensures_bind null fun reached isNull => ?_
    refine Invariant.ensures_bind (Invariant.ensures_anything _) fun later _ => ?_
    exact Invariant.ensures_ok ⟨later.1, isNull ▸ rfl⟩
  refine Run.bind_eq_map ends ?_
  rintro ⟨_, after⟩ ⟨values, rfl⟩
  have applied (call : Value Host → List (Value Host) → Run Host (Value Host)) :
      apply call (.null :: values) = .ok (values.getLastD .null) := rfl
  dsimp only
  rw [applied, lastOf, List.getLastD_cons]
  rfl

/-- **The form of a program gives the values of its elements in turn**, whatever the environment
binds: its first element is the definition of a macro. -/
theorem form_prelude_append (setting : Setting Host) (levels : Nat) (environment : Environment Host)
    (program : List Expr) :
    form setting (inside setting levels) environment (Prelude.program ++ program) =
      (evaluateAll (Evaluation.evaluate setting levels) environment
        (Prelude.program ++ program)).map lastOf := by
  rw [Prelude.program_eq, Prelude.entries, List.map_cons, List.cons_append]
  refine sequence_of_null _ ?_
  cases levels with
  | zero => exact Invariant.ensures_fail trivial
  | succ levels =>
      show Invariant.anything.Ensures _ (Evaluation.evaluate setting (levels + 1) environment _)
      rw [Prelude.evaluate_template]
      exact Invariant.ensures_ok rfl

end Evaluation

open Evaluation

/-! ## Programs -/

/-- A program gives the last of the values of its expressions in turn. -/
theorem runProgram_eq_map (handler : Handler Host) (reading levels : Nat)
    (environment : Environment Host) {source : String} {program : List Expr}
    (read : parseProgram reading source = .ok program) :
    runProgram handler ⟨reading, levels + 1⟩ environment source =
      (evaluateAll (Evaluation.evaluate ⟨handler, levels + 1⟩ levels) environment
        (Prelude.program ++ program)).map fun reached => reached.1.getLastD .null := by
  have elementwise : evaluateProgram ⟨handler, levels + 1⟩ environment
      (Prelude.program ++ program) =
      (evaluateAll (Evaluation.evaluate ⟨handler, levels + 1⟩ levels) environment
        (Prelude.program ++ program)).map lastOf :=
    form_prelude_append _ levels environment program
  rw [runProgram, read]
  dsimp only
  rw [elementwise, Run.map_map]
  rfl

/-- The prelude alone gives null, where it succeeds. -/
theorem ensures_runProgram_empty (handler : Handler Host) (reading levels : Nat)
    (environment : Environment Host) {source : String}
    (read : parseProgram reading source = .ok []) :
    Invariant.anything.Ensures (fun value => value = .null)
      (runProgram handler ⟨reading, levels + 1⟩ environment source) := by
  rw [runProgram_eq_map _ _ _ _ read, List.append_nil]
  have nulls := Prelude.ensures_evaluateAll_entries ⟨handler, levels + 1⟩ levels environment
  refine Invariant.ensures_map nulls fun reached all => ?_
  rcases List.mem_cons.mp (List.getLastD_mem_cons : reached.1.getLastD .null ∈ _) with null | member
  · exact null
  · exact all _ member

/-- **A program comes to the same as its expressions in turn.** With one level more it prints what
the expressions of the prelude and its own print, evaluated one after the other, each in the
environment that the one before it leaves; and it ends with the value of the last, which is null
when only the prelude is there, or with the first error. That is so in every environment. -/
theorem runProgram_inTurn (handler : Handler Host) (reading levels : Nat)
    (environment : Environment Host) {source : String} {program : List Expr}
    (read : parseProgram reading source = .ok program) :
    let together := runProgram handler ⟨reading, levels + 1⟩ environment source
    let expressions := Prelude.program ++ program
    together.SameButLimit
        ((evaluateEach ⟨handler, levels⟩ environment expressions).map fun reached =>
          reached.1.getLastD .null) ∧
      (program = [] → ∀ value, together.outcome = .ok value → value = .null) ∧
      evaluateProgram ⟨handler, levels + 1⟩ environment expressions =
        (evaluateAll (Evaluation.evaluate ⟨handler, levels + 1⟩ levels) environment expressions).map
          lastOf := by
  intro together expressions
  refine ⟨?_, ?_, form_prelude_append _ levels environment program⟩
  · have values := runProgram_eq_map handler reading levels environment read
    show (runProgram handler ⟨reading, levels + 1⟩ environment source).SameButLimit _
    rw [values]
    exact (evaluateAll_sameButLimit handler (levels + 1) levels levels environment
      expressions).map _
  · rintro rfl value succeeds
    exact (ensures_runProgram_empty handler reading levels environment read).reached succeeds

/-- A program that calls a looping function runs out of levels, as its expressions in turn do: it
names a limit that is one higher, and has printed the same. The empty program gives null. -/
theorem runProgram_inTurn_looping :
    let loop := Expr.form [.symbol "loop"]
    let together := runProgram noHost ⟨4, 9⟩ loopingEnvironment "(loop)"
    let inTurn := (evaluateEach ⟨noHost, 8⟩ loopingEnvironment (Prelude.program ++ [loop])).map
      fun reached => reached.1.getLastD .null
    parseProgram 4 "(loop)" = .ok [loop] ∧
      together.SameButLimit inTurn ∧
      together.outcome = .error (.depthExceeded 9) ∧
      inTurn.outcome = .error (.depthExceeded 8) ∧
      0 < inTurn.printed.length ∧
      (runProgram noHost ⟨4, 9⟩ loopingEnvironment "").outcome = .ok .null := by
  intro loop together inTurn
  have read : parseProgram 4 "(loop)" = .ok [loop] :=
    Source.parseProgram_eq_of_readAll (by decide +kernel)
  have same : together.SameButLimit inTurn :=
    (runProgram_inTurn noHost 4 8 loopingEnvironment read).1
  have exceedsTogether : together.outcome = .error (.depthExceeded 9) := by
    show (runProgram noHost ⟨4, 9⟩ loopingEnvironment "(loop)").outcome = _
    rw [runProgram_eq_map noHost 4 8 loopingEnvironment read, Prelude.program_eq]
    rfl
  have exceedsInTurn : inTurn.outcome = .error (.depthExceeded 8) := by
    show ((evaluateEach _ _ (Prelude.program ++ _)).map _).outcome = _
    rw [Prelude.program_eq]
    rfl
  have prints : 0 < inTurn.printed.length := by
    show 0 < ((evaluateEach _ _ (Prelude.program ++ _)).map _).printed.length
    rw [Prelude.program_eq]
    decide +kernel
  have emptyGivesNull : (runProgram noHost ⟨4, 9⟩ loopingEnvironment "").outcome = .ok .null := by
    have nothing : parseProgram 4 "" = .ok [] :=
      Source.parseProgram_eq_of_readAll (by decide +kernel)
    rw [runProgram_eq_map noHost 4 8 loopingEnvironment nothing, Prelude.program_eq]
    rfl
  exact ⟨read, same, exceedsTogether, exceedsInTurn, prints, emptyGivesNull⟩

end Lisplet
