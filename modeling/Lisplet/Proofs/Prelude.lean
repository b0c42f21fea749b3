import Lisplet.Prelude
import Lisplet.Proofs.Definitions
import Lisplet.Proofs.Forms

/-!
# What the prelude defines

The prelude is a text. Read, it is a list of definitions (`Prelude.program_eq`): three macros, which
the special form `macro` binds, and six functions, which calls of the first of these macros bind.
The text is a program, with nothing left over (`Prelude.parseProgram_source`).

Each definition gives null, whatever else the environment binds: those of macros always, those of
functions as long as `defn` is the macro of the prelude, and no definition of the prelude binds that
name again (`Prelude.ensures_evaluateAll_entries`).
-/

set_option autoImplicit false

namespace Lisplet

variable {Host : Type}

/-! ## Reading the text -/

namespace Source

/-- The expressions at the start of a text. -/
def expressions (limit : Nat) (text : String) : List Expr := (readText limit text.toList).1

theorem expressions_eq {limit : Nat} {text : String} {found : List Expr} {rest : List Lexeme}
    (read : readAll limit (lexemes text.toList) = (found, rest)) :
    expressions limit text = found := by
  unfold expressions readText
  rw [read]

theorem parseProgram_eq_of_readAll {limit : Nat} {text : String} {found : List Expr}
    (read : readAll limit (lexemes text.toList) = (found, [])) :
    parseProgram limit text = .ok found := by
  rw [parseProgram, program, read]
  rfl

/-- The characters of a text, told by its bytes. A long literal has its bytes at hand, and its
characters only by decoding them. -/
theorem toList_eq_of_toByteArray {text : String} {characters : List Char}
    (bytes : text.toByteArray = characters.utf8Encode) : text.toList = characters := by
  have whole : text = String.ofList characters := String.toByteArray_inj.mp bytes
  rw [whole, String.toList_ofList]

end Source

namespace Prelude

/-- A definition of the prelude. -/
inductive Entry where
  /-- A macro, bound by the special form. -/
  | template (name : String) (definition : Macro)
  /-- A function, bound by a call of the macro `defn`. -/
  | function (name : String) (parameters : List String) (body : Expr)

/-- The name of the macro that defines functions. -/
def definer : String := "defn"

namespace Entry

/-- The name that a definition binds. -/
def name : Entry → String
  | .template name _ => name
  | .function name _ _ => name

/-- The expression that makes a definition. -/
def expr : Entry → Expr
  | .template name definition =>
      .form [.symbol Binder.macroForm.keyword, .symbol name,
        .form (definition.parameters.map .symbol), definition.template]
  | .function name parameters body =>
      .form [.symbol definer, .symbol name, .form (parameters.map .symbol), body]

end Entry

open Lisplet.Expr

/-- The macro `defn` binds a function of the given parameters and body. -/
def defnMacro : Macro where
  parameters := ["::name", "::args", "::body"]
  template := form [symbol "def", symbol "::name",
    form [symbol "fn", symbol "::args", symbol "::body"]]

/-- The macro `or` has its first argument twice. -/
def orMacro : Macro where
  parameters := ["::x", "::y"]
  template := form [symbol "if", symbol "::x", symbol "::x", symbol "::y"]

/-- The macro `and` is `or` between two negations. -/
def andMacro : Macro where
  parameters := ["::x", "::y"]
  template := form [symbol "not",
    form [symbol "or", form [symbol "not", symbol "::x"], form [symbol "not", symbol "::y"]]]

/-- The body of `map` folds over a vector and appends what the function gives. -/
def mapBody : Expr :=
  form [symbol "reduce",
    form [symbol "fn", form [symbol "acc", symbol "x"],
      form [symbol "append", form [symbol "f", symbol "x"], symbol "acc"]],
    form [symbol "arrayOf"], symbol "arr"]

/-- The body of `filter` folds over a vector and appends the elements that pass the test. -/
def filterBody : Expr :=
  form [symbol "reduce",
    form [symbol "fn", form [symbol "acc", symbol "x"],
      form [symbol "if", form [symbol "pred", symbol "x"],
        form [symbol "append", symbol "x", symbol "acc"], symbol "acc"]],
    form [symbol "arrayOf"], symbol "arr"]

/-- The negation of a test on the two arguments of a comparison. -/
def negated (test : String) : Expr :=
  form [symbol "not", form [symbol test, symbol "a", symbol "b"]]

/-- The definitions after that of `defn`. -/
def laterEntries : List Entry :=
  [.template "or" orMacro,
    .template "and" andMacro,
    .function ">" ["a", "b"] (form [symbol "and", negated "=", negated "<"]),
    .function ">=" ["a", "b"] (negated "<"),
    .function "<=" ["a", "b"] (negated ">"),
    .function "!=" ["a", "b"] (negated "="),
    .function "map" ["f", "arr"] mapBody,
    .function "filter" ["pred", "arr"] filterBody]

/-- The definitions of the prelude, in order. -/
def entries : List Entry := .template definer defnMacro :: laterEntries

set_option maxRecDepth 4000 in
theorem readAll_source :
    Source.readAll defaultReadLimit (Source.lexemes source.toList) =
      (entries.map Entry.expr, []) := by
  rw [Source.toList_eq_of_toByteArray rfl]
  decide +kernel

/-- The prelude is its definitions. -/
theorem program_eq : program = entries.map Entry.expr := by
  have asRead : program = Source.expressions defaultReadLimit source := rfl
  rw [asRead, Source.expressions_eq readAll_source]

/-- The text of the prelude is a program, and is read to its end. -/
theorem parseProgram_source : parseProgram defaultReadLimit source = .ok program := by
  rw [program_eq]
  exact Source.parseProgram_eq_of_readAll readAll_source

end Prelude

/-! ## Evaluating the definitions -/

namespace Evaluation

theorem parameterNames_symbols (binder : Binder) (names : List String) :
    parameterNames binder (names.map .symbol) = .ok names := by
  induction names with
  | nil => rfl
  | cons name names ih =>
      rw [List.map_cons, parameterNames, ih]
      rfl

end Evaluation

namespace Prelude

open Evaluation Lisplet.Expr

/-- A call of `defn` expands to a form of `def` with a form of `fn` in it. -/
theorem expand_defnMacro (name parameters body : Expr) :
    defnMacro.expand definer [name, parameters, body] =
      .ok (.form [symbol "def", name, .form [symbol "fn", parameters, body]]) := by
  simp [Macro.expand, defnMacro, substitute, substituteAll, Macro.bindings]

/-- The definition of a macro binds it, in every environment and with a level to spare. -/
theorem evaluate_template (setting : Setting Host) (levels : Nat) (environment : Environment Host)
    (name : String) (definition : Macro) :
    Evaluation.evaluate setting (levels + 1) environment (Entry.template name definition).expr =
      .ok (.null, environment.bindMacro name definition) := by
  have listed : parameters .macroForm (.form (definition.parameters.map .symbol)) =
      .ok definition.parameters := parameterNames_symbols .macroForm definition.parameters
  have defined : defineMacro environment [.symbol name,
      .form (definition.parameters.map .symbol), definition.template] =
        .ok (.null, environment.bindMacro name definition) := by
    rw [defineMacro, listed]
    rfl
  rw [evaluate_succ, Entry.expr, expression, Evaluation.form, if_pos rfl, defined]
  rfl

/-- What a definition gives: null, and an environment in which `defn` is the macro of the
prelude. -/
def KeepsDefiner (reached : Value Host × Environment Host) : Prop :=
  reached.1 = .null ∧ reached.2.macroNamed? definer = some defnMacro

/-- A definition gives null and leaves the macro `defn` bound, if it is bound and the definition is
one of another name. -/
theorem ensures_evaluate_entry (setting : Setting Host) (levels : Nat)
    {environment : Environment Host}
    {entry : Entry} (bound : environment.macroNamed? definer = some defnMacro)
    (other : entry.name ≠ definer) :
    Invariant.anything.Ensures KeepsDefiner
      (Evaluation.evaluate setting levels environment entry.expr) := by
  cases levels with
  | zero => exact Invariant.ensures_fail trivial
  | succ levels =>
      cases entry with
      | template name definition =>
          rw [evaluate_template]
          exact Invariant.ensures_ok
            ⟨rfl,
              (Environment.macroNamed?_bindMacro_other environment definition other.symm).trans
                bound⟩
      | function name names body =>
          rw [evaluate_succ, Entry.expr, expression,
            form_expansion _ _ _ (by decide) (by decide) bound (expand_defnMacro _ _ _)]
          -- The expansion is a form of `def`, which binds a value and no macro.
          have expansion : Invariant.anything.Ensures KeepsDefiner
              (Evaluation.evaluate setting levels environment (.form [symbol "def", symbol name,
                .form [symbol "fn", .form (names.map .symbol), body]])) := by
            cases levels with
            | zero => exact Invariant.ensures_fail trivial
            | succ levels =>
                rw [evaluate_succ, expression]
                have defined : Invariant.anything.Ensures KeepsDefiner
                    (define (inside setting levels).expression environment [symbol name,
                      .form [symbol "fn", .form (names.map .symbol), body]]) :=
                  Invariant.ensures_map (Invariant.ensures_anything _) fun _ _ => ⟨rfl, bound⟩
                exact Invariant.ensures_mapError defined fun _ _ => trivial
          exact Invariant.ensures_mapError expansion fun _ _ => trivial

theorem ensures_evaluateAll_laterEntries (setting : Setting Host) (levels : Nat)
    {environment : Environment Host} {later : List Entry}
    (bound : environment.macroNamed? definer = some defnMacro)
    (others : ∀ entry ∈ later, entry.name ≠ definer) :
    Invariant.anything.Ensures (fun reached => ∀ value ∈ reached.1, value = .null)
      (evaluateAll (Evaluation.evaluate setting levels) environment (later.map Entry.expr)) := by
  induction later generalizing environment with
  | nil => exact Invariant.ensures_ok fun _ member => absurd member List.not_mem_nil
  | cons entry later ih =>
      have ⟨other, rest⟩ := List.forall_mem_cons.mp others
      refine Invariant.ensures_bind (ensures_evaluate_entry setting levels bound other)
        fun _ reached => ?_
      refine Invariant.ensures_bind (ih reached.2 rest) fun _ nulls => Invariant.ensures_ok ?_
      exact List.forall_mem_cons.mpr ⟨reached.1, nulls⟩

/-- **Every definition of the prelude gives null**, in every environment in which all of them
succeed. -/
theorem ensures_evaluateAll_entries (setting : Setting Host) (levels : Nat)
    (environment : Environment Host) :
    Invariant.anything.Ensures (fun reached => ∀ value ∈ reached.1, value = .null)
      (evaluateAll (Evaluation.evaluate setting levels) environment program) := by
  rw [program_eq, entries, List.map_cons]
  cases levels with
  | zero => exact Invariant.ensures_fail trivial
  | succ levels =>
      rw [evaluateAll, evaluate_template, Run.ok_bind]
      have bound := Environment.macroNamed?_bindMacro_self environment definer defnMacro
      refine Invariant.ensures_bind
        (ensures_evaluateAll_laterEntries setting (levels + 1) bound (by decide)) fun _ nulls => ?_
      exact Invariant.ensures_ok (List.forall_mem_cons.mpr ⟨rfl, nulls⟩)

end Prelude
end Lisplet
