import Lisplet.Proofs.Bindings
import Lisplet.Proofs.InTurn

/-!
# Loading the prelude

Each definition of the prelude binds its name, in whatever environment it is evaluated, and does
nothing else, as long as no macro takes the place of the special form `fn`. No other name that the
environment binds matters: the special forms `macro` and `def` come before all macros, and `defn` is
bound by the prelude itself before it is called. So loading the prelude extends an environment by
its nine definitions (`Prelude.evaluateAll_program`).

Definitions that an environment has already are made again without a change. So the prelude can be
loaded twice, and a program, which is run with the prelude in front of it, runs the same where the
prelude has been loaded before (`withPrelude_extends`).
-/

set_option autoImplicit false

namespace Lisplet

variable {Host : Type}

namespace Prelude

open Evaluation Lisplet.Expr

/-! ## Definitions made in an environment -/

namespace Entry

/-- The environment with a definition made in it. -/
def make (environment : Environment Host) : Entry → Environment Host
  | .template name definition => environment.bindMacro name definition
  | .function name parameters body => environment.bind name (.function parameters body)

/-- A definition is made in an environment that binds its name to what it defines. -/
def MadeIn (environment : Environment Host) : Entry → Prop
  | .template name definition => environment.macroNamed? name = some definition
  | .function name parameters body => environment.value? name = some (.function parameters body)

/-- The name that a definition binds to a value. -/
def valueName? : Entry → Option String
  | .template _ _ => none
  | .function name _ _ => some name

/-- The name that a definition binds to a macro. -/
def macroName? : Entry → Option String
  | .template name _ => some name
  | .function _ _ _ => none

variable {environment : Environment Host} {entry other : Entry}

theorem madeIn_make (entry : Entry) (environment : Environment Host) :
    entry.MadeIn (entry.make environment) := by
  cases entry with
  | template name definition =>
      exact Environment.macroNamed?_bindMacro_self environment name definition
  | function name parameters body => exact Environment.value?_bind_self environment name _

/-- A definition stays made when one of another name is made. -/
theorem MadeIn.make (made : entry.MadeIn environment) (different : entry.name ≠ other.name) :
    entry.MadeIn (other.make environment) := by
  cases entry with
  | template name definition =>
      cases other with
      | template _ later =>
          exact (Environment.macroNamed?_bindMacro_other environment later different).trans made
      | function _ _ _ => exact made
  | function name parameters body =>
      cases other with
      | template _ _ => exact made
      | function _ _ _ => exact (Environment.value?_bind_other environment _ different).trans made

/-- A definition that is made already changes nothing. -/
theorem make_of_madeIn (made : entry.MadeIn environment) :
    entry.make environment = environment := by
  cases entry with
  | template name definition => exact Environment.bindMacro_of_macroNamed? made
  | function name parameters body => exact Environment.bind_of_value? made

theorem value?_make {name : String} (other : entry.valueName? ≠ some name) :
    (entry.make environment).value? name = environment.value? name := by
  cases entry with
  | template _ _ => rfl
  | function bound _ _ =>
      exact Environment.value?_bind_other environment _ fun same => other (congrArg some same.symm)

theorem macroNamed?_make {name : String} (other : entry.macroName? ≠ some name) :
    (entry.make environment).macroNamed? name = environment.macroNamed? name := by
  cases entry with
  | template bound _ =>
      exact Environment.macroNamed?_bindMacro_other environment _
        fun same => other (congrArg some same.symm)
  | function _ _ _ => rfl

end Entry

/-- The environment with definitions made in it, one after the other. -/
def makeAll (environment : Environment Host) (definitions : List Entry) : Environment Host :=
  definitions.foldl Entry.make environment

/-- The environment with all definitions of the prelude made in it. -/
def load (environment : Environment Host) : Environment Host := makeAll environment entries

theorem madeIn_makeAll_of_madeIn {environment : Environment Host} {entry : Entry}
    {definitions : List Entry}
    (made : entry.MadeIn environment) (others : ∀ other ∈ definitions, entry.name ≠ other.name) :
    entry.MadeIn (makeAll environment definitions) := by
  induction definitions generalizing environment with
  | nil => exact made
  | cons first rest ih =>
      have ⟨different, rest⟩ := List.forall_mem_cons.mp others
      exact ih (made.make different) rest

/-- Definitions of different names are all made in the end. -/
theorem madeIn_makeAll {environment : Environment Host} {definitions : List Entry}
    (distinct : (definitions.map Entry.name).Nodup) :
    ∀ entry ∈ definitions, entry.MadeIn (makeAll environment definitions) := by
  induction definitions generalizing environment with
  | nil => exact fun _ member => absurd member List.not_mem_nil
  | cons first rest ih =>
      rw [List.map_cons, List.nodup_cons] at distinct
      refine List.forall_mem_cons.mpr ⟨?_, ih distinct.2⟩
      show first.MadeIn (makeAll (first.make environment) rest)
      refine madeIn_makeAll_of_madeIn (first.madeIn_make environment) fun other member same => ?_
      exact distinct.1 (List.mem_map.mpr ⟨other, member, same.symm⟩)

/-- Definitions that are made already change nothing. -/
theorem makeAll_of_madeIn {environment : Environment Host} {definitions : List Entry}
    (made : ∀ entry ∈ definitions, entry.MadeIn environment) :
    makeAll environment definitions = environment := by
  induction definitions with
  | nil => rfl
  | cons first rest ih =>
      have ⟨here, rest⟩ := List.forall_mem_cons.mp made
      rw [makeAll, List.foldl_cons, Entry.make_of_madeIn here]
      exact ih rest

/-- What no definition changes by itself, they do not change together. -/
theorem read_makeAll {α : Type} (read : Environment Host → α) {definitions : List Entry}
    (keeps : ∀ entry ∈ definitions, ∀ environment, read (entry.make environment) = read environment)
    (environment : Environment Host) :
    read (makeAll environment definitions) = read environment := by
  induction definitions generalizing environment with
  | nil => rfl
  | cons first rest ih =>
      have ⟨here, rest⟩ := List.forall_mem_cons.mp keeps
      exact (ih rest (first.make environment)).trans (here environment)

theorem value?_makeAll (environment : Environment Host) {definitions : List Entry} {name : String}
    (others : name ∉ definitions.filterMap Entry.valueName?) :
    (makeAll environment definitions).value? name = environment.value? name := by
  refine read_makeAll (·.value? name) (fun entry member _ => ?_) environment
  exact Entry.value?_make fun same => others (List.mem_filterMap.mpr ⟨entry, member, same⟩)

theorem macroNamed?_makeAll (environment : Environment Host) {definitions : List Entry}
    {name : String} (others : name ∉ definitions.filterMap Entry.macroName?) :
    (makeAll environment definitions).macroNamed? name = environment.macroNamed? name := by
  refine read_makeAll (·.macroNamed? name) (fun entry member _ => ?_) environment
  exact Entry.macroNamed?_make fun same => others (List.mem_filterMap.mpr ⟨entry, member, same⟩)

/-- How an environment compares with one that the prelude is loaded in: what the prelude defines is
what it defines there, and everything else is as it was. -/
structure LoadedIn (before after : Environment Host) : Prop where
  made : ∀ entry ∈ entries, entry.MadeIn after
  values : ∀ name, name ∉ [">", ">=", "<=", "!=", "map", "filter"] →
    after.value? name = before.value? name
  macros : ∀ name, name ∉ ["defn", "or", "and"] → after.macroNamed? name = before.macroNamed? name

theorem loadedIn_load (environment : Environment Host) :
    LoadedIn environment (load environment) where
  made := madeIn_makeAll (by decide)
  values _ others := value?_makeAll environment others
  macros _ others := macroNamed?_makeAll environment others

/-- An environment that the prelude is loaded in is determined. -/
theorem loadedIn_iff {before after : Environment Host} :
    LoadedIn before after ↔ after = load before := by
  constructor
  · intro extension
    have same := loadedIn_load before
    refine Environment.eq_of_lookups (fun name => ?_) fun name => ?_
    · by_cases defined : name ∈ entries.filterMap Entry.valueName?
      · obtain ⟨entry, member, names⟩ := List.mem_filterMap.mp defined
        cases entry with
        | template _ _ => cases names
        | function bound _ _ =>
            cases names
            exact (extension.made _ member).trans (same.made _ member).symm
      · exact (extension.values name defined).trans (same.values name defined).symm
    · by_cases defined : name ∈ entries.filterMap Entry.macroName?
      · obtain ⟨entry, member, names⟩ := List.mem_filterMap.mp defined
        cases entry with
        | function _ _ _ => cases names
        | template bound _ =>
            cases names
            exact (extension.made _ member).trans (same.made _ member).symm
      · exact (extension.macros name defined).trans (same.macros name defined).symm
  · rintro rfl
    exact loadedIn_load before

theorem load_load (environment : Environment Host) : load (load environment) = load environment :=
  makeAll_of_madeIn (loadedIn_load environment).made

/-! ## Evaluating the definitions -/

section Evaluating

variable (setting : Setting Host) (levels : Nat) {environment : Environment Host}

/-- A form of `fn` is a function, as long as no macro has its name, and needs a level. -/
theorem evaluate_fn (noFn : environment.macroNamed? Binder.fnForm.keyword = none)
    (parameters : List String) (body : Expr) :
    Evaluation.evaluate setting levels environment
        (.form [symbol "fn", .form (parameters.map .symbol), body]) =
      if 1 ≤ levels then .ok (.function parameters body, environment) else exceeded setting := by
  cases levels with
  | zero => rfl
  | succ levels =>
      have named : Evaluation.parameters .fnForm (.form (parameters.map .symbol)) =
          .ok parameters :=
        parameterNames_symbols .fnForm parameters
      have made : Evaluation.form setting (inside setting levels) environment
          [symbol Binder.fnForm.keyword, .form (parameters.map .symbol), body] =
            .ok (.function parameters body, environment) := by
        rw [Evaluation.form, if_neg (by decide), if_neg (by decide), noFn]
        dsimp only
        rw [if_pos rfl, makeFunction, named]
        rfl
      rw [evaluate_succ, expression, if_pos (Nat.le_add_left 1 levels)]
      exact congrArg (Run.mapError _) made

/-- A form of `def` with a function binds it, and needs a level more than the function. -/
theorem evaluate_def (noFn : environment.macroNamed? Binder.fnForm.keyword = none)
    (name : String) (parameters : List String) (body : Expr) :
    Evaluation.evaluate setting levels environment (.form [symbol "def", symbol name,
        .form [symbol "fn", .form (parameters.map .symbol), body]]) =
      if 2 ≤ levels then .ok (.null, environment.bind name (.function parameters body))
      else exceeded setting := by
  cases levels with
  | zero => rfl
  | succ levels =>
      have defined : form setting (inside setting levels) environment [symbol "def", symbol name,
          .form [symbol "fn", .form (parameters.map .symbol), body]] =
            (Evaluation.evaluate setting levels environment
              (.form [symbol "fn", .form (parameters.map .symbol), body])).map
                fun reached => (.null, environment.bind name reached.1) := rfl
      rw [evaluate_succ, expression, defined, evaluate_fn setting levels noFn]
      split
      · rw [if_pos (by omega)]
        rfl
      · rw [if_neg (by omega)]
        rfl

namespace Entry

/-- The levels that a definition needs: a function is bound by the expansion of a call. -/
def levelsNeeded : Entry → Nat
  | .template _ _ => 1
  | .function _ _ _ => 3

/-- **A definition binds its name and gives null**, with enough levels, where `defn` is the macro of
the prelude and no macro is named `fn`. -/
theorem evaluate_expr (entry : Entry) (bound : environment.macroNamed? definer = some defnMacro)
    (noFn : environment.macroNamed? Binder.fnForm.keyword = none) :
    Evaluation.evaluate setting levels environment entry.expr =
      if entry.levelsNeeded ≤ levels then .ok (.null, entry.make environment)
      else exceeded setting := by
  cases levels with
  | zero => cases entry <;> rfl
  | succ levels =>
      cases entry with
      | template name definition =>
          exact (evaluate_template setting levels environment name definition).trans
            (if_pos (Nat.le_add_left 1 levels)).symm
      | function name parameters body =>
          have expanded : form setting (inside setting levels) environment
              [symbol definer, symbol name, .form (parameters.map .symbol), body] = _ :=
            form_expansion _ _ _ (by decide) (by decide) bound (expand_defnMacro _ _ _)
          rw [evaluate_succ, expr, expression, expanded]
          show Run.mapError _ (Evaluation.evaluate setting levels environment _) = _
          rw [evaluate_def setting levels noFn]
          split
          · rename_i enough
            exact (if_pos (Nat.succ_le_succ enough)).symm
          · rename_i few
            exact (if_neg fun enough => few (Nat.le_of_succ_le_succ enough)).symm

end Entry

/-- Definitions of other names than `defn` and `fn` are made one after the other. -/
theorem evaluateAll_entries (definitions : List Entry)
    (bound : environment.macroNamed? definer = some defnMacro)
    (noFn : environment.macroNamed? Binder.fnForm.keyword = none)
    (others : ∀ entry ∈ definitions, entry.macroName? ≠ some definer ∧
      entry.macroName? ≠ some Binder.fnForm.keyword) :
    evaluateAll (Evaluation.evaluate setting levels) environment (definitions.map Entry.expr) =
      if ∀ entry ∈ definitions, entry.levelsNeeded ≤ levels then
        .ok (List.replicate definitions.length .null, makeAll environment definitions)
      else exceeded setting := by
  induction definitions generalizing environment with
  | nil => rfl
  | cons first rest ih =>
      have ⟨⟨notDefiner, notFn⟩, others⟩ := List.forall_mem_cons.mp others
      rw [List.map_cons, evaluateAll, first.evaluate_expr setting levels bound noFn]
      simp only [List.forall_mem_cons]
      by_cases enough : first.levelsNeeded ≤ levels
      · rw [if_pos enough, Run.ok_bind,
          ih ((Entry.macroNamed?_make notDefiner).trans bound)
            ((Entry.macroNamed?_make notFn).trans noFn)
          others]
        simp only [enough, true_and]
        split <;> rfl
      · rw [if_neg enough, if_neg fun all => enough all.1]
        rfl

/-- **The prelude extends every environment without a macro named `fn` by its definitions**, given
three levels, and prints nothing. -/
theorem evaluateAll_program (noFn : environment.macroNamed? Binder.fnForm.keyword = none) :
    evaluateAll (Evaluation.evaluate setting levels) environment program =
      if 3 ≤ levels then .ok (List.replicate entries.length .null, load environment)
      else exceeded setting := by
  have needed : (∀ entry ∈ laterEntries, entry.levelsNeeded ≤ levels) ↔ 3 ≤ levels := by
    simp [laterEntries, Entry.levelsNeeded]
    omega
  rw [program_eq, entries, List.map_cons]
  cases levels with
  | zero => rfl
  | succ levels =>
      have bound := Environment.macroNamed?_bindMacro_self environment definer defnMacro
      have noFn := (Environment.macroNamed?_bindMacro_other environment defnMacro
        (by decide : Binder.fnForm.keyword ≠ definer)).trans noFn
      rw [evaluateAll, evaluate_template, Run.ok_bind]
      dsimp only
      rw [evaluateAll_entries setting (levels + 1) laterEntries bound noFn (by decide)]
      simp only [needed]
      split <;> rfl

end Evaluating

theorem macroNamed?_fn_load {environment : Environment Host}
    (noFn : environment.macroNamed? Binder.fnForm.keyword = none) :
    (load environment).macroNamed? Binder.fnForm.keyword = none :=
  ((loadedIn_load environment).macros _ (by decide)).trans noFn

end Prelude

open Evaluation

variable (handler : Handler Host)

/-- Loading the prelude takes four levels: one for the program and three for its definitions. -/
theorem withPrelude_eq (limit : Nat) {environment : Environment Host}
    (noFn : environment.macroNamed? Binder.fnForm.keyword = none) :
    withPrelude ⟨handler, limit⟩ environment =
      if 4 ≤ limit then .ok (Prelude.load environment) else exceeded ⟨handler, limit⟩ := by
  cases limit with
  | zero => rfl
  | succ levels =>
      have together := form_prelude_append ⟨handler, levels + 1⟩ levels environment []
      rw [List.append_nil, Prelude.evaluateAll_program _ _ noFn] at together
      show (form _ _ environment Prelude.program).map Prod.snd = _
      rw [together]
      split
      · rename_i enough
        exact (if_pos (Nat.succ_le_succ enough)).symm
      · rename_i few
        exact (if_neg fun enough => few (Nat.le_of_succ_le_succ enough)).symm

/-- A program runs the same where the prelude has been loaded. -/
theorem runProgram_load (limits : Limits) {environment : Environment Host} (source : String)
    (noFn : environment.macroNamed? Binder.fnForm.keyword = none) :
    runProgram handler limits (Prelude.load environment) source =
      runProgram handler limits environment source := by
  obtain ⟨reading, evaluation⟩ := limits
  cases read : parseProgram reading source with
  | error raised => rw [runProgram, runProgram, read]
  | ok program =>
      cases evaluation with
      | zero =>
          rw [runProgram, runProgram, read]
          rfl
      | succ levels =>
          rw [runProgram_eq_map handler reading levels _ read,
            runProgram_eq_map handler reading levels _ read, evaluateAll_append, evaluateAll_append,
            Prelude.evaluateAll_program _ _ noFn,
            Prelude.evaluateAll_program _ _ (Prelude.macroNamed?_fn_load noFn), Prelude.load_load]

/-- **Loading the prelude extends an environment by its definitions, once and for all.** In every
environment without a macro named `fn`, and with four levels, it succeeds, prints nothing, and binds
its three macros and six functions; every other value and macro stays as it is, so that the result
is determined. Loaded again, it changes nothing, and every program prints and comes to the same with
it and without it. -/
theorem withPrelude_extends {limit : Nat} (enough : 4 ≤ limit) {environment : Environment Host}
    (noFn : environment.macroNamed? Binder.fnForm.keyword = none) :
    ∃ loaded, withPrelude ⟨handler, limit⟩ environment = .ok loaded ∧
      (∀ after, Prelude.LoadedIn environment after ↔ after = loaded) ∧
      withPrelude ⟨handler, limit⟩ loaded = .ok loaded ∧
      ∀ limits source,
        runProgram handler limits loaded source = runProgram handler limits environment source := by
  refine ⟨Prelude.load environment, ?_, fun _ => Prelude.loadedIn_iff, ?_, ?_⟩
  · rw [withPrelude_eq handler limit noFn, if_pos enough]
  · rw [withPrelude_eq handler limit (Prelude.macroNamed?_fn_load noFn), if_pos enough,
      Prelude.load_load]
  · exact fun limits source => runProgram_load handler limits source noFn

/-- An environment that gives a special form, a macro and a function of the prelude other
meanings. -/
def usurped : Environment Empty :=
  (((globalEnvironment .log).bindMacro "if" ⟨[], .bool false⟩).bindMacro Prelude.definer
    ⟨["name"], .symbol "name"⟩).bind "map" (.bool true)

/-- The prelude gets its own meanings back, and leaves the special form with the other. -/
theorem withPrelude_extends_usurped :
    4 ≤ defaultEvaluationLimit ∧ usurped.macroNamed? Binder.fnForm.keyword = none ∧
      ∃ loaded, withPrelude ⟨noHost, defaultEvaluationLimit⟩ usurped = .ok loaded ∧
        usurped.value? "map" = some (.bool true) ∧
        loaded.value? "map" = some (.function ["f", "arr"] Prelude.mapBody) ∧
        loaded.macroNamed? Prelude.definer = some Prelude.defnMacro ∧
        loaded.macroNamed? "if" = some ⟨[], .bool false⟩ ∧
        runProgram noHost .default loaded "(map print [1])" =
          runProgram noHost .default usurped "(map print [1])" := by
  have enough : 4 ≤ defaultEvaluationLimit := by decide
  have noFn : usurped.macroNamed? Binder.fnForm.keyword = none := by decide
  obtain ⟨loaded, succeeds, precise, -, alike⟩ := withPrelude_extends noHost enough noFn
  have extension : Prelude.LoadedIn usurped loaded := (precise loaded).mpr rfl
  have mapped : Prelude.Entry.function "map" ["f", "arr"] Prelude.mapBody ∈ Prelude.entries := by
    simp [Prelude.entries, Prelude.laterEntries]
  refine ⟨enough, noFn, loaded, succeeds, Environment.value?_bind_self _ "map" _,
    extension.made _ mapped, extension.made _ List.mem_cons_self, ?_, alike .default _⟩
  exact (extension.macros "if" (by decide)).trans (by decide)

end Lisplet
