import Lisplet.Proofs.Invariant
import Lisplet.Proofs.Symbols

/-!
# Where definitions go

The forms of `def` and `macro` are the only ones that give an environment with a further binding,
and a form hands on what its elements bind. What the body of a function binds is gone when the call
is over. So a definition that outlives an expression shows in it, or comes out of the expansion of a
macro.

To see that, take names, `def` and `macro` among them, so that every macro with one of them in its
template has such a name itself (`Environment.Guarded`). An expression without these names gives
back the environment that it gets, whatever the functions do that it calls; and any expression at
all leaves bound what was bound before (`evaluation_keepsDefinitions`).

Both follow from one induction on the levels (`Threading.Closed.keptBy_evaluate`): a relation
between the environments before and after a run holds when it is reflexive and transitive and admits
what the two forms do. Nothing is asked of the bodies of functions.
-/

set_option autoImplicit false

namespace Lisplet

variable {Host α : Type}

/-- The invariant that admits everything: what a run ensures under it concerns its result only. -/
def Invariant.anything : Invariant Host where
  value _ := True
  environment _ := True
  printed _ := True
  error _ := True

theorem Invariant.ends_anything (outcome : Except Error α) :
    (anything : Invariant Host).Ends (fun _ => True) outcome := by
  cases outcome with
  | ok _ => exact trivial
  | error _ => exact trivial

theorem Invariant.ensures_anything (run : Run Host α) : anything.Ensures (fun _ => True) run :=
  ⟨fun _ _ => trivial, ends_anything run.outcome⟩

/-- What evaluation may do to an environment: which expressions are admitted in it, and which
environments they may leave behind. -/
structure Threading (Host : Type) where
  admits : Environment Host → Expr → Prop
  leaves : Environment Host → Environment Host → Prop

namespace Threading

open Evaluation

/-- A threading that evaluation keeps. -/
structure Closed (threading : Threading Host) : Prop where
  refl : ∀ environment, threading.leaves environment environment
  trans : ∀ first second third, threading.leaves first second → threading.leaves second third →
    threading.leaves first third
  element : ∀ before after elements, threading.admits before (.form elements) →
    threading.leaves before after → ∀ element ∈ elements, threading.admits after element
  expansion : ∀ environment head arguments definition expansion,
    threading.admits environment (.form (.symbol head :: arguments)) →
      environment.macroNamed? head = some definition →
        definition.expand head arguments = .ok expansion → threading.admits environment expansion
  bind : ∀ environment arguments name value,
    threading.admits environment (.form (.symbol Binder.defForm.keyword :: arguments)) →
      threading.leaves environment (environment.bind name value)
  bindMacro : ∀ environment arguments name definition,
    threading.admits environment (.form (.symbol Binder.macroForm.keyword :: arguments)) →
      threading.leaves environment (environment.bindMacro name definition)

/-- A run from an environment leaves one behind that it may leave, if it succeeds. -/
def Leaves (threading : Threading Host) (environment : Environment Host)
    (run : Run Host (α × Environment Host)) : Prop :=
  Invariant.anything.Ensures (fun reached => threading.leaves environment reached.2) run

/-- An evaluator keeps a threading when every run of an admitted expression does. -/
def KeptBy (threading : Threading Host) (evaluator : Evaluator Host) : Prop :=
  ∀ environment expr, threading.admits environment expr →
    threading.Leaves environment (evaluator environment expr)

variable {threading : Threading Host}

theorem Leaves.of_outcome {environment after : Environment Host} {value : α}
    {run : Run Host (α × Environment Host)} (kept : threading.Leaves environment run)
    (succeeds : run.outcome = .ok (value, after)) : threading.leaves environment after := by
  have ends := kept.outcome
  rw [succeeds] at ends
  exact ends

section Rules

variable {setting : Setting Host} (closed : threading.Closed)
include closed

theorem Closed.leaves_evaluateAll {expression : Evaluator Host}
    (inner : threading.KeptBy expression) {environment : Environment Host} {elements : List Expr}
    (admitted : ∀ after, threading.leaves environment after →
      ∀ element ∈ elements, threading.admits after element) :
    threading.Leaves environment (evaluateAll expression environment elements) := by
  induction elements generalizing environment with
  | nil => exact Invariant.ensures_ok (closed.refl environment)
  | cons first rest ih =>
      have head := admitted environment (closed.refl environment) first List.mem_cons_self
      refine Invariant.ensures_bind (inner environment first head) fun reached left => ?_
      have tail : ∀ after, threading.leaves reached.2 after →
          ∀ element ∈ rest, threading.admits after element := fun after later element member =>
        admitted after (closed.trans _ _ _ left later) element (List.mem_cons_of_mem first member)
      exact Invariant.ensures_bind (ih tail) fun last later =>
        Invariant.ensures_ok (closed.trans _ _ _ left later)

theorem Closed.leaves_sequence {inside : Inside Host} (inner : threading.KeptBy inside.expression)
    {environment : Environment Host} {elements : List Expr}
    (admitted : threading.admits environment (.form elements)) :
    threading.Leaves environment (sequence setting inside environment elements) := by
  have elementwise := closed.leaves_evaluateAll inner fun after left =>
    closed.element environment after elements admitted left
  refine Invariant.ensures_bind elementwise fun reached left => ?_
  exact Invariant.ensures_bind (Invariant.ensures_anything _) fun _ _ => Invariant.ensures_ok left

theorem Closed.leaves_define {expression : Evaluator Host} {environment : Environment Host}
    {arguments : List Expr}
    (admitted :
      threading.admits environment (.form (.symbol Binder.defForm.keyword :: arguments))) :
    threading.Leaves environment (define expression environment arguments) := by
  unfold define
  split
  · split
    · exact Invariant.ensures_fail trivial
    · exact Invariant.ensures_map (Invariant.ensures_anything _) fun reached _ =>
        closed.bind environment _ _ reached.1 admitted
  · exact Invariant.ensures_fail trivial

theorem Closed.leaves_defineMacro {environment : Environment Host} {arguments : List Expr}
    (admitted :
      threading.admits environment (.form (.symbol Binder.macroForm.keyword :: arguments))) :
    threading.Leaves environment (.ofExcept (defineMacro environment arguments)) := by
  refine Invariant.ensures_ofExcept ?_
  unfold defineMacro
  split
  · refine Invariant.ends_bind (Invariant.ends_anything _) fun name _ => ?_
    exact Invariant.ends_map (Invariant.ends_anything _) fun names _ =>
      closed.bindMacro environment _ name _ admitted
  · exact trivial

theorem Closed.leaves_makeFunction (environment : Environment Host) (arguments : List Expr) :
    threading.Leaves environment (.ofExcept (makeFunction environment arguments)) := by
  refine Invariant.ensures_ofExcept ?_
  unfold makeFunction
  split
  · exact Invariant.ends_map (Invariant.ends_anything _) fun _ _ => closed.refl environment
  · exact trivial

theorem Closed.leaves_choose {expression : Evaluator Host} (inner : threading.KeptBy expression)
    {environment : Environment Host} {arguments : List Expr}
    (admitted : ∀ argument ∈ arguments, threading.admits environment argument) :
    threading.Leaves environment (choose expression environment arguments) := by
  unfold choose
  split
  · rename_i test consequent
    refine Invariant.ensures_bind (Invariant.ensures_anything _) fun reached _ => ?_
    dsimp only
    split
    · exact inner environment consequent (admitted consequent (by simp))
    · exact Invariant.ensures_ok (closed.refl environment)
  · rename_i test consequent alternative
    refine Invariant.ensures_bind (Invariant.ensures_anything _) fun reached _ => ?_
    dsimp only
    split
    · exact inner environment consequent (admitted consequent (by simp))
    · exact inner environment alternative (admitted alternative (by simp))
  · exact Invariant.ensures_fail trivial

theorem Closed.leaves_form {inside : Inside Host} (inner : threading.KeptBy inside.expression)
    {environment : Environment Host} {elements : List Expr}
    (admitted : threading.admits environment (.form elements)) :
    threading.Leaves environment (form setting inside environment elements) := by
  have sequenced : threading.Leaves environment (sequence setting inside environment elements) :=
    closed.leaves_sequence inner admitted
  unfold form
  split
  · rename_i head arguments
    split
    · rename_i isMacro
      subst isMacro
      exact closed.leaves_defineMacro admitted
    split
    · rename_i isDef
      subst isDef
      exact closed.leaves_define admitted
    split
    · rename_i definition found
      split
      · exact Invariant.ensures_fail trivial
      · rename_i expansion expanded
        exact inner environment expansion
          (closed.expansion environment head arguments definition expansion admitted found expanded)
    split
    · exact closed.leaves_makeFunction environment arguments
    split
    · refine closed.leaves_choose inner fun argument member => ?_
      exact closed.element environment environment _ admitted (closed.refl environment) argument
        (List.mem_cons_of_mem _ member)
    · exact sequenced
  · exact sequenced

/-- **Every run leaves an environment behind that it may leave.** The induction is on the levels;
bodies of functions, which are further down, do not matter. -/
theorem Closed.keptBy_evaluate (setting : Setting Host) (levels : Nat) :
    threading.KeptBy (Evaluation.evaluate setting levels) := by
  induction levels with
  | zero => exact fun _ _ _ => Invariant.ensures_fail trivial
  | succ levels ih =>
      intro environment expr admitted
      rw [evaluate_succ]
      cases expr with
      | number _ | bool _ | symbol _ => exact Invariant.ensures_ok (closed.refl environment)
      | form elements =>
          exact Invariant.ensures_mapError (closed.leaves_form ih admitted) fun _ _ => trivial

/-- A program is threaded as a form is. -/
theorem Closed.leaves_evaluateProgram (setting : Setting Host) {environment : Environment Host}
    {program : List Expr}
    (admitted : threading.admits environment (.form program)) :
    threading.Leaves environment (evaluateProgram setting environment program) := by
  unfold evaluateProgram
  split
  · exact Invariant.ensures_fail trivial
  · exact closed.leaves_form (closed.keptBy_evaluate setting _) admitted

end Rules
end Threading

/-! ## Expressions without definitions -/

namespace Environment

/-- Every macro with one of the names in its template has one of the names itself. -/
def Guarded (definers : String → Prop) (environment : Environment Host) : Prop :=
  ∀ name definition, environment.macroNamed? name = some definition →
    (∃ symbol ∈ definition.template.symbols, definers symbol) → definers name

/-- What is bound before is bound after, if perhaps to something else. -/
structure BoundAfter (before after : Environment Host) : Prop where
  values : ∀ name, (before.value? name).isSome → (after.value? name).isSome
  macros : ∀ name, (before.macroNamed? name).isSome → (after.macroNamed? name).isSome

/-- What becomes of an environment by evaluating something with the given symbols in it: nothing, if
these are none of some names that guard all definitions; and what is bound stays bound in any
case. -/
structure KeptAfter (symbols : List String) (before after : Environment Host) : Prop where
  unchanged : ∀ definers : String → Prop, definers "def" → definers "macro" →
    before.Guarded definers → (∀ symbol ∈ symbols, ¬ definers symbol) → after = before
  bound : before.BoundAfter after

end Environment

/-- Expressions without the names leave an environment as it is. -/
def Threading.unchanged (definers : String → Prop) : Threading Host where
  admits environment expr := environment.Guarded definers ∧
    expr.MentionsOnly fun name => ¬ definers name
  leaves := Eq

theorem Threading.closed_unchanged {definers : String → Prop} (isDef : definers "def")
    (isMacro : definers "macro") : (unchanged definers : Threading Host).Closed where
  refl _ := rfl
  trans _ _ _ := Eq.trans
  element := by
    rintro before _ elements ⟨guarded, mentions⟩ rfl element member
    exact ⟨guarded, Expr.mentionsOnly_form.mp mentions element member⟩
  expansion := by
    rintro environment head arguments definition expansion ⟨guarded, mentions⟩ found expanded
    have ⟨headMentions, passed⟩ := List.forall_mem_cons.mp (Expr.mentionsOnly_form.mp mentions)
    have notDefiner := Expr.mentionsOnly_symbol.mp headMentions
    have template : definition.template.MentionsOnly fun name => ¬ definers name :=
      fun name occurs defines => notDefiner (guarded head definition found ⟨name, occurs, defines⟩)
    exact ⟨guarded, Macro.mentionsOnly_of_expand expanded template passed⟩
  bind := by
    rintro environment arguments name value ⟨_, mentions⟩
    have headMentions := Expr.mentionsOnly_form.mp mentions _ List.mem_cons_self
    exact absurd isDef (Expr.mentionsOnly_symbol.mp headMentions)
  bindMacro := by
    rintro environment arguments name definition ⟨_, mentions⟩
    have headMentions := Expr.mentionsOnly_form.mp mentions _ List.mem_cons_self
    exact absurd isMacro (Expr.mentionsOnly_symbol.mp headMentions)

/-- Any expression leaves bound what is bound. -/
def Threading.growing : Threading Host where
  admits _ _ := True
  leaves := Environment.BoundAfter

theorem Threading.closed_growing : (growing : Threading Host).Closed where
  refl _ := ⟨fun _ => id, fun _ => id⟩
  trans _ _ _ first second :=
    ⟨fun name bound => second.values name (first.values name bound),
      fun name bound => second.macros name (first.macros name bound)⟩
  element _ _ _ _ _ _ _ := trivial
  expansion _ _ _ _ _ _ _ _ := trivial
  bind := by
    intro environment arguments name value _
    refine ⟨fun other bound => ?_, fun _ => id⟩
    by_cases same : other = name
    · subst same
      rw [Environment.value?_bind_self]
      rfl
    · rwa [Environment.value?_bind_other environment value same]
  bindMacro := by
    intro environment arguments name definition _
    refine ⟨fun _ => id, fun other bound => ?_⟩
    by_cases same : other = name
    · subst same
      rw [Environment.macroNamed?_bindMacro_self]
      rfl
    · rwa [Environment.macroNamed?_bindMacro_other environment definition same]

theorem Environment.keptAfter {symbols : List String} {environment after : Environment Host}
    {value : Value Host} {run : Run Host (Value Host × Environment Host)}
    (unchanged : ∀ definers : String → Prop, definers "def" → definers "macro" →
      environment.Guarded definers → (∀ symbol ∈ symbols, ¬ definers symbol) →
        (Threading.unchanged definers).Leaves environment run)
    (growing : Threading.growing.Leaves environment run)
    (succeeds : run.outcome = .ok (value, after)) : environment.KeptAfter symbols after where
  unchanged definers isDef isMacro guarded absent :=
    ((unchanged definers isDef isMacro guarded absent).of_outcome succeeds).symm
  bound := growing.of_outcome succeeds

/-- **Definitions do not leave the calls that execute them**, and no definition unbinds a name: for
expressions and for programs, under every limit on the depth. -/
theorem evaluation_keepsDefinitions (setting : Setting Host) (environment : Environment Host) :
    (∀ expr value after, (evaluate setting environment expr).outcome = .ok (value, after) →
        environment.KeptAfter expr.symbols after) ∧
      ∀ program value after,
        (evaluateProgram setting environment program).outcome = .ok (value, after) →
          environment.KeptAfter (Expr.allSymbols program) after := by
  constructor
  · intro expr value after
    refine Environment.keptAfter (fun definers isDef isMacro guarded absent => ?_)
      (Threading.closed_growing.keptBy_evaluate setting setting.limit environment expr trivial)
    exact (Threading.closed_unchanged isDef isMacro).keptBy_evaluate setting setting.limit
      environment expr ⟨guarded, absent⟩
  · intro program value after
    refine Environment.keptAfter (fun definers isDef isMacro guarded absent => ?_)
      (Threading.closed_growing.leaves_evaluateProgram setting trivial)
    exact (Threading.closed_unchanged isDef isMacro).leaves_evaluateProgram setting
      ⟨guarded, absent⟩

/-- A macro that defines, a function that defines two names, one of them through the macro, and a
vector to fold the function over. -/
def noting : Environment Empty :=
  let note : Macro := ⟨["name", "value"], .form [.symbol "def", .symbol "name", .symbol "value"]⟩
  let step : Expr := .form [.form [.symbol "note", .symbol "seen", .symbol "item"],
    .form [.symbol "def", .symbol "sum", .symbol "seen"], .symbol "sum"]
  ((((Environment.empty.bindMacro "note" note).bind "reduce" Primitive.reduce.toValue).bind "step"
    (.function ["sum", "item"] step)).bind "items" (.vector [.bool true, .bool false]))

/-- A fold calls the function twice, and what the function defines is gone afterwards. -/
theorem evaluation_keepsDefinitions_noting :
    let definers := (· ∈ ["def", "macro", "note"])
    let fold := Expr.form [.symbol "reduce", .symbol "step", .symbol "start", .symbol "items"]
    definers "def" ∧ definers "macro" ∧ noting.Guarded definers ∧
      (∀ symbol ∈ fold.symbols, ¬ definers symbol) ∧
        ∃ after, (evaluate ⟨noHost, 100⟩ noting fold).outcome = .ok (.bool false, after) ∧
          after = noting ∧ noting.BoundAfter after := by
  intro definers fold
  have isDef : definers "def" := by decide
  have isMacro : definers "macro" := by decide
  have guarded : noting.Guarded definers := by
    intro name definition found _
    by_cases same : name = "note"
    · subst same
      decide
    · have unbound : noting.macroNamed? name = none :=
        Environment.macroNamed?_bindMacro_other .empty _ same
      cases unbound.symm.trans found
  have absent : ∀ symbol ∈ fold.symbols, ¬ definers symbol := by decide
  obtain ⟨after, succeeds⟩ : ∃ after,
      (evaluate ⟨noHost, 100⟩ noting fold).outcome = .ok (.bool false, after) := ⟨_, rfl⟩
  have kept := (evaluation_keepsDefinitions ⟨noHost, 100⟩ noting).1 fold _ after succeeds
  exact ⟨isDef, isMacro, guarded, absent, after, succeeds,
    kept.unchanged definers isDef isMacro guarded absent, kept.bound⟩

end Lisplet
