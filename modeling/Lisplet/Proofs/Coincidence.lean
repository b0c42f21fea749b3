import Lisplet.Proofs.Invariant.Native
import Lisplet.Proofs.Simulation.Native

/-!
# Which names a run depends on

A function has no environment of its own and a macro is looked up where it is called, so what a run
depends on is not to be read off the expression alone. It is bounded by any names that are closed
under mention: all symbols of the expression are among them, and with a name also every name that
its macro and the functions in its value mention (`Environment.Confined`).

Two confined environments that agree on the names give the same run (`evaluation_coincides`). It
prints the same and ends with the same value or the same error, the environments at the end are
confined and agree again, and neither has changed outside the names. The macros of `def` and `macro`
need not agree, since the special forms of those names come before all macros.
-/

set_option autoImplicit false

namespace Lisplet

variable {Host : Type} {names : String → Prop}

namespace Environment

/-- Two environments agree on the names: these have the same values in both and, but for the two
special forms that come before all macros, the same macros. -/
def AgreeOn (names : String → Prop) (left right : Environment Host) : Prop :=
  ∀ name, names name → left.value? name = right.value? name ∧
    (name ≠ Binder.macroForm.keyword → name ≠ Binder.defForm.keyword →
      left.macroNamed? name = right.macroNamed? name)

/-- What the names are bound to has no operation of a host in it and mentions none but the names. -/
structure Confined (names : String → Prop) (environment : Environment Host) : Prop where
  value : ∀ name value, names name → environment.value? name = some value →
    value.isNative = true ∧ value.MentionsOnly names
  macros : ∀ name definition, names name → environment.macroNamed? name = some definition →
    definition.MentionsOnly names

/-- Outside the names the second environment binds what the first one does. -/
def SameOutside (names : String → Prop) (before after : Environment Host) : Prop :=
  ∀ name, ¬ names name → after.value? name = before.value? name ∧
    after.macroNamed? name = before.macroNamed? name

variable {left right environment before after : Environment Host} {name : String}

/-! ## Binding a name -/

theorem AgreeOn.bind (agree : left.AgreeOn names right) (name : String) (value : Value Host) :
    (left.bind name value).AgreeOn names (right.bind name value) := by
  intro other named
  refine ⟨?_, (agree other named).2⟩
  by_cases same : other = name
  · subst same
    rw [value?_bind_self, value?_bind_self]
  · rw [value?_bind_other left value same, value?_bind_other right value same]
    exact (agree other named).1

theorem AgreeOn.bindMacro (agree : left.AgreeOn names right) (name : String) (definition : Macro) :
    (left.bindMacro name definition).AgreeOn names (right.bindMacro name definition) := by
  intro other named
  refine ⟨(agree other named).1, fun notMacro notDef => ?_⟩
  by_cases same : other = name
  · subst same
    rw [macroNamed?_bindMacro_self, macroNamed?_bindMacro_self]
  · rw [macroNamed?_bindMacro_other left definition same,
      macroNamed?_bindMacro_other right definition same]
    exact (agree other named).2 notMacro notDef

theorem confined_empty : (empty : Environment Host).Confined names where
  value _ _ _ found := by cases found
  macros _ _ _ found := by cases found

theorem Confined.bind (confined : environment.Confined names) {name : String} {value : Value Host}
    (kept : names name → value.isNative = true ∧ value.MentionsOnly names) :
    (environment.bind name value).Confined names where
  macros := confined.macros
  value := by
    intro other found named look
    by_cases same : other = name
    · subst same
      rw [value?_bind_self] at look
      cases look
      exact kept named
    · rw [value?_bind_other environment value same] at look
      exact confined.value other found named look

theorem Confined.bindMacro (confined : environment.Confined names) (name : String)
    {definition : Macro} (mentions : definition.MentionsOnly names) :
    (environment.bindMacro name definition).Confined names where
  value := confined.value
  macros := by
    intro other found named look
    by_cases same : other = name
    · subst same
      rw [macroNamed?_bindMacro_self] at look
      cases look
      exact mentions
    · rw [macroNamed?_bindMacro_other environment definition same] at look
      exact confined.macros other found named look

theorem sameOutside_refl : environment.SameOutside names environment :=
  fun _ _ => ⟨rfl, rfl⟩

theorem SameOutside.bind (outside : before.SameOutside names after) (named : names name)
    (value : Value Host) : before.SameOutside names (after.bind name value) := by
  intro other notNamed
  have different : other ≠ name := by
    rintro rfl
    exact notNamed named
  rw [value?_bind_other after value different]
  exact outside other notNamed

theorem SameOutside.bindMacro (outside : before.SameOutside names after) (named : names name)
    (definition : Macro) : before.SameOutside names (after.bindMacro name definition) := by
  intro other notNamed
  have different : other ≠ name := by
    rintro rfl
    exact notNamed named
  rw [macroNamed?_bindMacro_other after definition different]
  exact outside other notNamed

/-- Two environments that two runs reach from the given starts: confined and in agreement on the
names, and each unchanged outside them. -/
structure Coincide (names : String → Prop) (leftStart rightStart left right : Environment Host) :
    Prop where
  agree : left.AgreeOn names right
  leftConfined : left.Confined names
  rightConfined : right.Confined names
  leftOutside : leftStart.SameOutside names left
  rightOutside : rightStart.SameOutside names right

end Environment

/-- Two runs from the given starts print the same and end with the same error, or with the same
value and in environments that coincide. -/
structure Run.Coincide (names : String → Prop) (leftStart rightStart : Environment Host)
    (left right : Run Host (Value Host × Environment Host)) : Prop where
  printed : left.printed = right.printed
  outcome : (∃ raised, left.outcome = .error raised ∧ right.outcome = .error raised) ∨
    ∃ value leftAfter rightAfter, left.outcome = .ok (value, leftAfter) ∧
      right.outcome = .ok (value, rightAfter) ∧
        Environment.Coincide names leftStart rightStart leftAfter rightAfter

namespace Simulation

/-- Confined environments that agree, with the same values in both. -/
def coincidence (names : String → Prop) (leftStart rightStart : Environment Host) :
    Simulation Host where
  names := names
  value left right := left = right ∧ left.isNative = true ∧ left.MentionsOnly names
  environment := Environment.Coincide names leftStart rightStart
  printed := Eq
  error := Eq
  cut _ := False

variable {leftStart rightStart : Environment Host}

theorem Follows.coincide {left right : Run Host (Value Host × Environment Host)}
    (follows : (coincidence names leftStart rightStart).Follows
      (coincidence names leftStart rightStart).Reached left right) :
    Run.Coincide names leftStart rightStart left right := by
  cases follows with
  | cut _ _ _ short => exact short.elim
  | alike printed ends =>
      refine ⟨eq_of_forall₂ (fun _ _ => id) printed, ?_⟩
      cases ends with
      | error related =>
          cases related
          exact .inl ⟨_, rfl, rfl⟩
      | @ok leftReached rightReached related =>
          obtain ⟨value, leftAfter⟩ := leftReached
          obtain ⟨_, rightAfter⟩ := rightReached
          obtain ⟨⟨rfl, _⟩, environments⟩ := related
          exact .inr ⟨value, leftAfter, rightAfter, rfl, rfl, environments⟩

/-- Values that mention none but the names are kept by the operations of the language. -/
theorem native_coincidence (names : String → Prop) (leftStart rightStart : Environment Host) :
    (coincidence names leftStart rightStart).Native where
  plain value plain mentions := ⟨rfl, Value.isNative_of_isPlain plain, mentions⟩
  raised _ := rfl
  shape := by
    rintro value _ ⟨rfl, native, mentions⟩
    refine .refl mentions ?_
    rintro items rfl item member
    exact ⟨rfl, (Value.allNative_iff items).mp native item member,
      Value.mentionsOnly_vector.mp mentions item member⟩
  describe left right related := congrArg Value.describe related.1
  nestingDepth left right related := congrArg Value.nestingDepth related.1
  equal left right otherLeft otherRight related others := by
    rw [related.1, others.1]
  vector left right related := by
    cases eq_of_forall₂ (fun _ _ pair => pair.1) related
    have each := List.forall₂_same.mp related
    exact ⟨rfl, (Value.allNative_iff left).mpr fun item member => (each item member).2.1,
      Value.mentionsOnly_vector.mpr fun item member => (each item member).2.2⟩
  list left right related := by
    cases eq_of_forall₂ (fun _ _ pair => pair.1) related
    have each := List.forall₂_same.mp related
    exact ⟨rfl, (Value.allNative_iff left).mpr fun item member => (each item member).2.1,
      Value.mentionsOnly_list.mpr fun item member => (each item member).2.2⟩
  primitive id primitive operation related := by
    cases related.1
    rfl
  print id sink operation related := by
    cases related.1
    exact ⟨sink, rfl, fun left right same =>
      congrArg _ (eq_of_forall₂ (fun _ _ pair => pair.1) same)⟩
  host id called operation related := Bool.noConfusion related.2.1

/-- Evaluation keeps two environments in agreement. -/
theorem closed_coincidence (setting : Setting Host) (names : String → Prop)
    (leftStart rightStart : Environment Host) :
    (coincidence names leftStart rightStart).Closed setting setting where
  toFaithful := (native_coincidence names leftStart rightStart).toFaithful
  lookup left right name environments named := by
    unfold Environment.lookup
    rw [← (environments.agree name named).1]
    cases found : left.value? name with
    | none => exact ⟨rfl, rfl, nofun⟩
    | some value => exact ⟨rfl, environments.leftConfined.value name value named found⟩
  bind := by
    rintro left right name value _ environments named ⟨rfl, native, mentions⟩
    exact ⟨environments.agree.bind name value,
      environments.leftConfined.bind fun _ => ⟨native, mentions⟩,
      environments.rightConfined.bind fun _ => ⟨native, mentions⟩,
      environments.leftOutside.bind named value, environments.rightOutside.bind named value⟩
  bindMacro left right name definition environments named mentions :=
    ⟨environments.agree.bindMacro name definition,
      environments.leftConfined.bindMacro name mentions,
      environments.rightConfined.bindMacro name mentions,
      environments.leftOutside.bindMacro named definition,
      environments.rightOutside.bindMacro named definition⟩
  macroNamed left right name environments named notMacro notDef :=
    ⟨(environments.agree name named).2 notMacro notDef, fun definition found =>
      environments.leftConfined.macros name definition named found⟩
  perform id leftOperation rightOperation left right _ _ related _ arguments :=
    (native_coincidence names leftStart rightStart).asks_perform related setting.handler
      setting.handler left right arguments
  inForm form _ _ same := congrArg (Error.inForm form) same
  cutInForm _ _ short := short
  exceeded := .inl rfl

end Simulation

/-- **A run depends on the names that it can come across only**, for expressions and for programs,
under every limit on the depth. -/
theorem evaluation_coincides (setting : Setting Host) {left right : Environment Host}
    (agree : left.AgreeOn names right) (leftConfined : left.Confined names)
    (rightConfined : right.Confined names) :
    (∀ expr, expr.MentionsOnly names →
        Run.Coincide names left right (evaluate setting left expr) (evaluate setting right expr)) ∧
      ∀ program, (∀ expr ∈ program, expr.MentionsOnly names) →
        Run.Coincide names left right (evaluateProgram setting left program)
          (evaluateProgram setting right program) := by
  have closed := Simulation.closed_coincidence setting names left right
  have start : Environment.Coincide names left right left right :=
    ⟨agree, leftConfined, rightConfined, Environment.sameOutside_refl, Environment.sameOutside_refl⟩
  constructor
  · intro expr mentions
    exact (closed.followedBy_evaluate (.inl rfl) left right expr start mentions).coincide
  · intro program mentions
    exact (closed.follows_evaluateProgram (.inl rfl) start mentions).coincide

/-- A function that prints whatever `word` is where the function is called. -/
def saying : Environment Empty :=
  (Environment.empty.bindBuiltin Operation.printId (.print .log)).bind "say"
    (.function [] (.form [.symbol "print", .symbol "word"]))

/-- The same function beside another one, and a macro that is never called. -/
def sayingBeside : Environment Empty :=
  (saying.bindMacro "def" ⟨["word"], .symbol "word"⟩).bind "hidden"
    (.function [] (.symbol "secret"))

/-- A function is defined anew and called, in two environments that bind different names and
different macros. -/
theorem evaluation_coincides_saying :
    let names := (· ∈ ["def", "print", "say", "again", "word"])
    let definition := Expr.form [.symbol "def", .symbol "again", .symbol "say"]
    let expr := Expr.form [definition, .form [.symbol "again"]]
    saying.AgreeOn names sayingBeside ∧ saying.Confined names ∧ sayingBeside.Confined names ∧
      expr.MentionsOnly names ∧
        Run.Coincide names saying sayingBeside (evaluate ⟨noHost, 100⟩ saying expr)
          (evaluate ⟨noHost, 100⟩ sayingBeside expr) := by
  intro names definition expr
  have agree : saying.AgreeOn names sayingBeside := by
    intro name named
    simp only [names, List.mem_cons, List.not_mem_nil, or_false] at named
    rcases named with rfl | rfl | rfl | rfl | rfl
    · exact ⟨rfl, fun _ notDef => absurd rfl notDef⟩
    all_goals exact ⟨rfl, fun _ _ => rfl⟩
  have confined : saying.Confined names :=
    (Environment.confined_empty.bind fun _ => ⟨rfl, nofun⟩).bind fun _ => ⟨rfl, by decide⟩
  have beside : sayingBeside.Confined names :=
    (confined.bindMacro "def" (by decide)).bind fun named => absurd named (by decide)
  have mentions : expr.MentionsOnly names := by decide
  exact ⟨agree, confined, beside, mentions,
    (evaluation_coincides ⟨noHost, 100⟩ agree confined beside).1 expr mentions⟩

end Lisplet
