import Lisplet.Program
import Lisplet.Proofs.Invariant.Native

/-!
# The limit on nesting

No program makes a value with more levels of vectors and lists than `maxNesting`, however deep or
long its evaluation is. The limit on evaluation does not see to this: a fold adds a level with each
of its calls and takes no level of evaluation for it. What does is that the three operations that
make vectors and lists count the levels first. `append` counts those of the new element only; that
is enough because the vector it extends is itself within the limit (`nestingDepth_append_le`).

The invariant behind the theorem is that all values within reach are within the limit and have no
operation of a host in them (`Value.WithinNesting`).
-/

set_option autoImplicit false

namespace Lisplet

variable {Host : Type}

/-! ## Counting levels -/

namespace Value

theorem deepest_le_iff {items : List (Value Host)} {bound : Nat} :
    deepest items ≤ bound ↔ ∀ item ∈ items, item.nestingDepth ≤ bound := by
  induction items with
  | nil => simp [deepest]
  | cons first rest ih => rw [deepest, Nat.max_le, ih, List.forall_mem_cons]

theorem deepest_append (front back : List (Value Host)) :
    deepest (front ++ back) = max (deepest front) (deepest back) := by
  induction front with
  | nil => exact (Nat.zero_max _).symm
  | cons first rest ih =>
      show max first.nestingDepth (deepest (rest ++ back)) = max (max _ _) _
      rw [ih, Nat.max_assoc]

theorem nestingDepth_of_isPlain {value : Value Host} (plain : value.isPlain = true) :
    value.nestingDepth = 0 := by
  cases value with
  | null | bool _ | symbol _ | number _ | function _ _ => rfl
  | vector _ | list _ | builtin _ _ => cases plain

theorem deepest_singleton (item : Value Host) : deepest [item] = item.nestingDepth := Nat.max_zero _

theorem checkNesting_eq (elements : List (Value Host)) :
    checkNesting elements =
      if deepest elements < maxNesting then .ok () else .error (.nestingTooDeep maxNesting) := by
  unfold checkNesting
  by_cases shallow : deepest elements < maxNesting
  · rw [if_pos shallow, if_neg (Nat.not_lt_of_le shallow)]
  · rw [if_neg shallow, if_pos (Nat.lt_succ_of_le (Nat.le_of_not_lt shallow))]

theorem checkNesting_eq_ok_iff {elements : List (Value Host)} :
    checkNesting elements = .ok () ↔ deepest elements + 1 ≤ maxNesting := by
  rw [checkNesting_eq]
  split
  · rename_i shallow
    exact iff_of_true rfl shallow
  · rename_i deep
    exact iff_of_false (by rintro ⟨⟩) deep

/-- A new element adds its own levels, and the vector around it. -/
theorem nestingDepth_append (item : Value Host) (items : List (Value Host)) :
    (vector (append item items)).nestingDepth =
      max (vector items).nestingDepth (item.nestingDepth + 1) := by
  rw [append, nestingDepth, deepest_append, deepest_singleton, nestingDepth, Nat.succ_max_succ]

/-- One more element adds a level only through its own levels. -/
theorem nestingDepth_append_le {item : Value Host} {items : List (Value Host)} {bound : Nat}
    (extended : (vector items).nestingDepth ≤ bound)
    (added : (vector [item]).nestingDepth ≤ bound) :
    (vector (append item items)).nestingDepth ≤ bound := by
  rw [nestingDepth, deepest_singleton] at added
  rw [nestingDepth_append]
  exact Nat.max_le.mpr ⟨extended, added⟩

/-- A value with one-element vectors around it. -/
def wrapped : Nat → Value Host → Value Host
  | 0, value => value
  | levels + 1, value => .vector [wrapped levels value]

theorem nestingDepth_wrapped (levels : Nat) (value : Value Host) :
    (wrapped levels value).nestingDepth = levels + value.nestingDepth := by
  induction levels with
  | zero => simp [wrapped]
  | succ levels ih =>
      simp only [wrapped, nestingDepth, deepest, ih]
      omega

theorem isNative_wrapped (levels : Nat) {value : Value Host} (native : value.isNative = true) :
    (wrapped levels value).isNative = true := by
  induction levels with
  | zero => exact native
  | succ levels ih => simp [wrapped, isNative, allNative, ih]

/-- A value of the language itself, with no more levels than the limit. -/
def WithinNesting (value : Value Host) : Prop :=
  value.isNative = true ∧ value.nestingDepth ≤ maxNesting

end Value

/-! ## Runs within the limit -/

/-- All values that an environment binds are within the limit. -/
def Environment.WithinNesting (environment : Environment Host) : Prop :=
  environment.Binds Value.WithinNesting

/-- Everything that a run gives is within the limit: the value and what is bound at the end, and the
values printed, also when the run fails. -/
structure Run.WithinNesting (run : Run Host (Value Host × Environment Host)) : Prop where
  value : ∀ value environment, run.outcome = .ok (value, environment) → value.WithinNesting
  environment : ∀ value environment, run.outcome = .ok (value, environment) →
    environment.WithinNesting
  printed : ∀ call ∈ run.printed, ∀ value ∈ call.values, value.nestingDepth ≤ maxNesting

/-- The limit on nesting as an invariant. It admits every error. -/
def Invariant.nesting : Invariant Host where
  value := Value.WithinNesting
  environment := Environment.WithinNesting
  printed call := ∀ value ∈ call.values, value.nestingDepth ≤ maxNesting
  error _ := True

namespace Invariant

/-- The limit on nesting by itself, whatever operations a host has. It admits every error. -/
def shallow : Invariant Host where
  value value := value.nestingDepth ≤ maxNesting
  environment environment := environment.Binds fun value => value.nestingDepth ≤ maxNesting
  printed call := ∀ value ∈ call.values, value.nestingDepth ≤ maxNesting
  error _ := True

theorem basic_shallow : (shallow : Invariant Host).Basic where
  plain _ plain :=
    Nat.le_trans (Nat.le_of_eq (Value.nestingDepth_of_isPlain plain)) (Nat.zero_le maxNesting)
  element _ admitted := Value.deepest_le_iff.mp (Nat.le_of_succ_le admitted)
  vector _ checked _ := Value.checkNesting_eq_ok_iff.mp checked
  list _ checked _ := Value.checkNesting_eq_ok_iff.mp checked
  append _ _ checked _ extended :=
    Value.nestingDepth_append_le extended (Value.checkNesting_eq_ok_iff.mp checked)
  printed _ _ _ admitted := admitted
  lookup _ name binds := binds.lookup (fun _ => Nat.zero_le maxNesting) name
  bind _ name _ binds admitted := binds.bind name admitted
  bindMacro _ _ _ binds := binds
  raised _ _ := trivial
  inForm _ _ _ := trivial

/-- Values of the language within the limit: every part of this is a part of the language and of the
limit. -/
theorem native_nesting : (nesting : Invariant Host).Native := by
  have language : (language fun _ => True : Invariant Host).Native :=
    native_language (fun _ _ => trivial) fun _ _ _ => trivial
  have both {values : List (Value Host)} (admitted : ∀ value ∈ values, value.WithinNesting) :
      (∀ value ∈ values, value.isNative = true) ∧
        ∀ value ∈ values, value.nestingDepth ≤ maxNesting :=
    ⟨fun value member => (admitted value member).1, fun value member => (admitted value member).2⟩
  exact {
    plain := fun value plain => ⟨language.plain value plain, basic_shallow.plain value plain⟩
    element := fun items admitted item member =>
      ⟨language.element items admitted.1 item member,
        basic_shallow.element items admitted.2 item member⟩
    vector := fun items checked admitted =>
      ⟨language.vector items checked (both admitted).1,
        basic_shallow.vector items checked (both admitted).2⟩
    list := fun items checked admitted =>
      ⟨language.list items checked (both admitted).1,
        basic_shallow.list items checked (both admitted).2⟩
    append := fun item items checked admitted extended =>
      ⟨language.append item items checked admitted.1 extended.1,
        basic_shallow.append item items checked admitted.2 extended.2⟩
    printed := fun _ _ _ admitted => (both admitted).2
    host := fun id operation admitted => language.host id operation admitted.1
    lookup := fun _ name binds => binds.lookup (fun _ => ⟨rfl, Nat.zero_le maxNesting⟩) name
    bind := fun _ name _ binds admitted => binds.bind name admitted
    bindMacro := fun _ _ _ binds => binds
    raised := fun _ _ => trivial
    inForm := fun _ _ _ => trivial }

theorem Ensures.withinNesting {run : Run Host (Value Host × Environment Host)}
    (kept : nesting.Ensures nesting.Reached run) : run.WithinNesting where
  value _ _ same := (kept.reached same).1
  environment _ _ same := (kept.reached same).2
  printed := kept.printed

end Invariant

/-- **No run exceeds the limit on nesting.** In an environment that binds values of the language
within the limit only, an expression and a program give values within the limit, bind and print
them, under every limit on the depth of evaluation and whether the run succeeds or fails. -/
theorem evaluation_withinNesting (setting : Setting Host) {environment : Environment Host}
    (start : environment.WithinNesting) :
    (∀ expr, (evaluate setting environment expr).WithinNesting) ∧
      ∀ program, (evaluateProgram setting environment program).WithinNesting := by
  have closed := Invariant.native_nesting.closed setting
  constructor
  · intro expr
    exact (closed.keptBy_evaluate setting.limit environment expr start).withinNesting
  · intro program
    exact (closed.ensures_evaluateProgram program start).withinNesting

/-- The global environment binds nothing but truth values and builtins. -/
theorem globalEnvironment_withinNesting (sink : Sink) :
    (globalEnvironment sink : Environment Host).WithinNesting := by
  have plain (value : Bool) : (Value.bool value : Value Host).WithinNesting :=
    ⟨rfl, Nat.zero_le maxNesting⟩
  have truths := (Environment.binds_empty.bind "true" (plain true)).bind "false" (plain false)
  refine Environment.Binds.bind ?_ Operation.printId ⟨rfl, Nat.zero_le maxNesting⟩
  exact List.foldlRecOn Primitive.all _ truths fun environment binds primitive _ =>
    binds.bind primitive.id ⟨rfl, Nat.zero_le maxNesting⟩

/-- A value at the limit is bound, and a vector around it is asked for. -/
theorem evaluation_withinNesting_at_limit :
    ((globalEnvironment .log : Environment Empty).bind "deep"
        (.wrapped maxNesting .null)).WithinNesting ∧
      (evaluate ⟨noHost, 100⟩
        ((globalEnvironment .log).bind "deep" (.wrapped maxNesting .null))
        (.form [.symbol "arrayOf", .symbol "deep"])).WithinNesting := by
  have deep : (Value.wrapped maxNesting .null : Value Empty).WithinNesting :=
    ⟨Value.isNative_wrapped maxNesting rfl,
      Nat.le_of_eq (Value.nestingDepth_wrapped maxNesting .null)⟩
  have start := (globalEnvironment_withinNesting .log).bind "deep" deep
  exact ⟨start, (evaluation_withinNesting ⟨noHost, 100⟩ start).1 _⟩

/-- A text that is run as a program in the global environment keeps to the limit as well. -/
theorem runProgram_withinNesting (handler : Handler Host) (limits : Limits) (sink : Sink)
    (source : String) :
    (∀ value, (runProgram handler limits (globalEnvironment sink) source).outcome = .ok value →
        value.WithinNesting) ∧
      ∀ call ∈ (runProgram handler limits (globalEnvironment sink) source).printed,
        ∀ value ∈ call.values, value.nestingDepth ≤ maxNesting := by
  have closed := Invariant.native_nesting.closed ⟨handler, limits.evaluation⟩
  have kept : Invariant.nesting.Ensures Value.WithinNesting
      (runProgram handler limits (globalEnvironment sink) source) := by
    unfold runProgram
    split
    · exact Invariant.ensures_fail trivial
    · rename_i program _
      exact Invariant.ensures_map (closed.ensures_evaluateProgram (Prelude.program ++ program)
        (globalEnvironment_withinNesting sink)) fun reached admitted => admitted.1
  refine ⟨fun value same => ?_, kept.printed⟩
  have ends := kept.outcome
  rw [same] at ends
  exact ends

end Lisplet
