import Lisplet.Proofs.Decimal.Integers
import Lisplet.Proofs.Equivalence
import Lisplet.Proofs.Source.RoundTrip
import Lisplet.Program

/-!
# Printed data reads back

Data are the natural numbers below `2 ^ 53`, the truth values, the symbols that nothing is bound to,
and the vectors of data (`Value.IsData`). The printed text of a value that is data is read as one
expression, and that expression evaluates to the value (`display_readsBack`).

What has to be seen is that four parts of the language agree with one another, value by value:
* the tokens of the printed text, with any text behind it where a word stops (`ReadsAs.tokenized`);
* the expression that the tokens spell, which stands inside as many groups as the value has levels
  (`ReadsAs.spelled`);
* what the expression evaluates to, with one level more than the value has (`ReadsAs.evaluated`).

A vector is printed in square brackets, and these are read as a form of the name `Expr.vectorHead`.
So it is read back where that name is bound to the primitive that makes vectors, and the truth
values are where their names are bound to them (`Environment.BindsLiterals`).
-/

set_option autoImplicit false

namespace Lisplet

open Source Evaluation

variable {Host : Type}

/-! ## Data and the names that its text uses -/

/-- A value whose printed text stands for it. -/
inductive Value.IsData (environment : Environment Host) : Value Host → Prop where
  | number {number : Nat} : number < 2 ^ 53 → IsData environment (.number (Float.ofNat number))
  | bool (value : Bool) : IsData environment (.bool value)
  | symbol {name : String} : Expr.IsName name.toList → environment.value? name = none →
      IsData environment (.symbol name)
  | vector {items : List (Value Host)} : (∀ item ∈ items, IsData environment item) →
      IsData environment (.vector items)

/-- The names that stand in the text of data for something else than symbols have the meaning that
the global environment gives them. -/
structure Environment.BindsLiterals (environment : Environment Host) : Prop where
  bool : ∀ value, environment.value? (boolText value) = some (.bool value)
  vector : environment.value? Expr.vectorHead = some Primitive.arrayOf.toValue
  noMacro : environment.macroNamed? Expr.vectorHead = none

theorem globalEnvironment_bindsLiterals (sink : Sink) :
    (globalEnvironment sink : Environment Host).BindsLiterals where
  bool value := by
    cases value <;>
      simp [boolText, globalEnvironment, Environment.redirect, Environment.bindBuiltin,
        Environment.value?_bind, Primitive.all, Primitive.id, Operation.printId]
  vector := value?_globalEnvironment sink .arrayOf
  noMacro := rfl

theorem isName_boolText (value : Bool) : Expr.IsName (boolText value).toList := by
  have letters : (boolText value).toList =
      if value then ['t', 'r', 'u', 'e'] else ['f', 'a', 'l', 's', 'e'] := by
    cases value <;> decide +kernel
  rw [letters]
  cases value with
  | true | false => exact ⟨List.cons_ne_nil _ _, stops_cons rfl, List.all_eq_true.mp rfl⟩

/-! ## The text of one value and of several -/

/-- The tokens of a value's text spell an expression that evaluates to the value. -/
structure ReadsAs (setting : Setting Host) (environment : Environment Host) (value : Value Host)
    (expr : Expr) (found : List Token) : Prop where
  tokenized : ∀ {after later}, Tokenized after later → Stops isWordCharacter after →
    Tokenized (value.text ++ after) (found ++ later)
  spelled : ∀ {room}, value.nestingDepth < room → Spelled room [expr] found
  evaluated : ∀ {levels}, value.nestingDepth < levels →
    Evaluation.evaluate setting levels environment expr = .ok (value, environment)

/-- The tokens of the text of several values spell expressions that evaluate to the values, one
after the other. -/
structure ReadAllAs (setting : Setting Host) (environment : Environment Host)
    (items : List (Value Host)) (exprs : List Expr) (found : List Token) : Prop where
  tokenized : ∀ {after later}, Tokenized after later → Stops isWordCharacter after →
    Tokenized (Value.textAll items ++ after) (found ++ later)
  spelled : ∀ {room}, Value.deepest items < room → Spelled room exprs found
  evaluated : ∀ {levels}, Value.deepest items < levels →
    evaluateAll (Evaluation.evaluate setting levels) environment exprs = .ok (items, environment)

section Parts

variable {setting : Setting Host} {environment : Environment Host}

theorem ReadAllAs.nil : ReadAllAs setting environment [] [] [] where
  tokenized tokenized _ := tokenized
  spelled _ := .done
  evaluated _ := rfl

theorem ReadAllAs.cons {first : Value Host} {rest : List (Value Host)} {expr : Expr}
    {exprs : List Expr}
    {found others : List Token} (head : ReadsAs setting environment first expr found)
    (tail : ReadAllAs setting environment rest exprs others) :
    ReadAllAs setting environment (first :: rest) (expr :: exprs) (found ++ others) where
  tokenized := by
    intro after later tokenized stops
    have behind := tail.tokenized tokenized stops
    rw [List.append_assoc]
    -- Behind the first value stands the text behind all of them, or a blank.
    cases rest with
    | nil => exact head.tokenized behind stops
    | cons second rest =>
        have spaced : Value.textAll (first :: second :: rest) ++ after =
            first.text ++ ' ' :: (Value.textAll (second :: rest) ++ after) :=
          List.append_assoc _ _ _
        rw [spaced]
        exact head.tokenized (.blank (by decide) behind) (stops_cons (by decide))
  spelled within :=
    (head.spelled (Nat.lt_of_le_of_lt (Nat.le_max_left _ _) within)).append
      (tail.spelled (Nat.lt_of_le_of_lt (Nat.le_max_right _ _) within))
  evaluated within := by
    rw [evaluateAll, head.evaluated (Nat.lt_of_le_of_lt (Nat.le_max_left _ _) within), Run.ok_bind]
    dsimp only
    rw [tail.evaluated (Nat.lt_of_le_of_lt (Nat.le_max_right _ _) within), Run.ok_bind]

/-- Values are read together when each of them is read. -/
theorem exists_readAllAs {items : List (Value Host)}
    (each : ∀ item ∈ items, ∃ expr found, ReadsAs setting environment item expr found) :
    ∃ exprs found, ReadAllAs setting environment items exprs found := by
  induction items with
  | nil => exact ⟨[], [], .nil⟩
  | cons first rest ih =>
      obtain ⟨⟨expr, found, head⟩, others⟩ := List.forall_mem_cons.mp each
      obtain ⟨exprs, more, tail⟩ := ih others
      exact ⟨_, _, .cons head tail⟩

/-! ## Each kind of data -/

theorem ReadsAs.number {number : Nat} (small : number < 2 ^ 53) :
    ReadsAs setting environment (.number (Float.ofNat number)) (.number (Int64.ofNat number))
      [.digits (Nat.toDigits 10 number)] where
  tokenized tokenized stops := by
    have text : (Value.number (Float.ofNat number) : Value Host).text = Nat.toDigits 10 number :=
      Decimal.numberText_ofNat small
    rw [text]
    exact .digits Nat.toDigits_ne_nil
      (fun _ member => Nat.isDigit_of_mem_toDigits (by decide) (by decide) member) stops.isDigit
        tokenized
  spelled within := by
    obtain ⟨room, rfl⟩ := Nat.exists_eq_add_one.mpr (Nat.zero_lt_of_lt within)
    have fits : digitsValue (Nat.toDigits 10 number) ≤ maxNumber := by
      rw [digitsValue_toDigits, maxNumber]
      omega
    have spelled := Spelled.digits fits (.done : Spelled (room + 1) [] [])
    rw [digitsValue_toDigits] at spelled
    exact spelled
  evaluated within := by
    obtain ⟨levels, rfl⟩ := Nat.exists_eq_add_one.mpr (Nat.zero_lt_of_lt within)
    have same : Float.ofInt (Int64.ofNat number).toInt = Float.ofNat number := by
      rw [Int64.toInt_ofNat_of_lt (by omega)]
      rfl
    rw [evaluate_succ, expression, same]

/-- A word whose name has a value in the environment. -/
theorem ReadsAs.word {value : Value Host} {name : String} (isName : Expr.IsName name.toList)
    (text : value.text = name.toList) (looked : environment.lookup name = value) :
    ReadsAs setting environment value (.symbol name) [.word name.toList] where
  tokenized tokenized stops := by
    obtain ⟨some, start, word⟩ := isName
    rw [text]
    exact .word some start word stops tokenized
  spelled within := by
    obtain ⟨room, rfl⟩ := Nat.exists_eq_add_one.mpr (Nat.zero_lt_of_lt within)
    have spelled : Spelled (room + 1) [.symbol (String.ofList name.toList)] [.word name.toList] :=
      .word .done
    rw [String.ofList_toList] at spelled
    exact spelled
  evaluated within := by
    obtain ⟨levels, rfl⟩ := Nat.exists_eq_add_one.mpr (Nat.zero_lt_of_lt within)
    rw [evaluate_symbol, looked]

theorem ReadsAs.vector {items : List (Value Host)} {exprs : List Expr} {found : List Token}
    (literals : environment.BindsLiterals)
    (shallow : (Value.vector items).nestingDepth ≤ maxNesting)
    (inner : ReadAllAs setting environment items exprs found) :
    ReadsAs setting environment (.vector items) (Bracket.square.group exprs)
      (.opening .square :: (found ++ [.closing .square])) where
  tokenized := by
    intro after later tokenized stops
    have text : (Value.vector items).text ++ after =
        '[' :: (Value.textAll items ++ ']' :: after) := by
      rw [Value.text, List.cons_append, List.append_assoc]
      rfl
    have closed : Tokenized (']' :: after) (.closing .square :: later) := .bracket rfl tokenized
    rw [text, List.cons_append, List.append_assoc]
    exact .bracket rfl (inner.tokenized closed (stops_cons (by decide)))
  spelled := by
    intro room within
    obtain ⟨room, rfl⟩ := Nat.exists_eq_add_one.mpr (Nat.zero_lt_of_lt within)
    exact .group (inner.spelled (Nat.lt_of_succ_lt_succ within)) .done
  evaluated := by
    intro levels within
    obtain ⟨levels, rfl⟩ : ∃ fewer, levels = fewer + 2 := by
      have one : 1 ≤ (Value.vector items).nestingDepth := Nat.succ_pos _
      exact ⟨levels - 2, by omega⟩
    have made : Primitive.makeVector items = .ok (.vector items) := by
      rw [Primitive.makeVector, Value.checkNesting_eq_ok_iff.mpr shallow]
      rfl
    have called (body : Evaluator Host) :
        call setting body maxChain environment Primitive.arrayOf.toValue items =
          .ok (.vector items) :=
      (call_arrayOf setting body environment _ items).trans (congrArg Run.ofExcept made)
    rw [Bracket.group,
      evaluate_called setting levels (by decide) literals.noMacro exprs literals.vector rfl,
      inner.evaluated (Nat.lt_of_succ_lt_succ within), Run.ok_bind]
    dsimp only
    rw [called]
    rfl

end Parts

namespace Value.IsData

variable {environment : Environment Host} {value : Value Host}

/-- Data is read back, by induction on its vectors. -/
theorem exists_readsAs (data : value.IsData environment) (setting : Setting Host)
    (literals : environment.BindsLiterals) (shallow : value.nestingDepth ≤ maxNesting) :
    ∃ expr found, ReadsAs setting environment value expr found := by
  induction data with
  | number small => exact ⟨_, _, .number small⟩
  | bool value =>
      exact ⟨_, _,
        .word (isName_boolText value) rfl (by rw [Environment.lookup, literals.bool]; rfl)⟩
  | symbol isName unbound =>
      exact ⟨_, _, .word isName rfl (by rw [Environment.lookup, unbound]; rfl)⟩
  | @vector items _ ih =>
      have within := deepest_le_iff.mp (Nat.le_of_succ_le shallow)
      obtain ⟨exprs, found, inner⟩ :=
        exists_readAllAs fun item member => ih item member (within item member)
      exact ⟨_, _, .vector literals shallow inner⟩

theorem holdsNaN_eq_false (data : value.IsData environment) : value.holdsNaN = false := by
  induction data with
  | number small => exact Binary64.isNaN_ofNat small
  | bool value => rfl
  | symbol _ _ => rfl
  | @vector items _ ih =>
      rw [holdsNaN]
      exact anyHoldsNaN_eq_false ih

end Value.IsData

/-- **Printed data reads back**: the text of a value is read as one expression, and that expression
evaluates to the value and leaves the environment as it was. -/
theorem display_readsBack (handler : Handler Host) {environment : Environment Host}
    (literals : environment.BindsLiterals) {value : Value Host} (data : value.IsData environment)
    (nested : value.nestingDepth ≤ 255) :
    ∃ expr, parseProgram defaultReadLimit value.display = .ok [expr] ∧
      evaluate ⟨handler, defaultEvaluationLimit⟩ environment expr = .ok (value, environment) ∧
        value.equal value = true := by
  obtain ⟨expr, found, reads⟩ := data.exists_readsAs ⟨handler, defaultEvaluationLimit⟩ literals
    (nested.trans (by decide))
  have tokenized := reads.tokenized .done fun character member => nomatch member
  rw [List.append_nil, List.append_nil] at tokenized
  have deepEnough : 255 < defaultEvaluationLimit := by decide
  refine ⟨expr, ?_, reads.evaluated (Nat.lt_of_le_of_lt nested deepEnough), ?_⟩
  · rw [parseProgram_eq_ok_iff, Value.display, String.toList_ofList, tokenized.tokens_eq]
    exact reads.spelled (Nat.lt_of_le_of_lt nested (by decide))
  · rw [Value.equal_self, data.holdsNaN_eq_false]
    rfl

/-- Vectors inside one another, with a number, a truth value and a symbol among them. -/
theorem display_readsBack_vectors :
    let environment : Environment Empty := globalEnvironment .console
    let value : Value Empty :=
      .vector [.number (Float.ofNat 120), .bool true, .vector [.symbol "x", .vector []]]
    environment.BindsLiterals ∧ value.IsData environment ∧ value.nestingDepth ≤ 255 ∧
      value.display = "[120 true [x []]]" ∧
      ∃ expr, parseProgram defaultReadLimit value.display = .ok [expr] ∧
        evaluate ⟨noHost, defaultEvaluationLimit⟩ environment expr = .ok (value, environment) ∧
          value.equal value = true := by
  intro environment value
  have literals : environment.BindsLiterals := globalEnvironment_bindsLiterals .console
  have unbound : environment.value? "x" = none := by rfl
  have letters : "x".toList = ['x'] := by decide +kernel
  have isName : Expr.IsName "x".toList := by
    rw [letters]
    exact ⟨List.cons_ne_nil _ _, stops_cons rfl, List.all_eq_true.mp rfl⟩
  have empty : (Value.vector []).IsData environment := .vector (List.forall_mem_nil _)
  have inner : (Value.vector [.symbol "x", .vector []]).IsData environment :=
    .vector (List.forall_mem_cons.mpr ⟨.symbol isName unbound, List.forall_mem_singleton.mpr empty⟩)
  have data : value.IsData environment :=
    .vector (List.forall_mem_cons.mpr ⟨.number (by decide),
      List.forall_mem_cons.mpr ⟨.bool true, List.forall_mem_singleton.mpr inner⟩⟩)
  have nested : value.nestingDepth ≤ 255 := by decide
  exact ⟨literals, data, nested, by decide +kernel, display_readsBack noHost literals data nested⟩

end Lisplet
