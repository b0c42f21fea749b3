import Lisplet.Macro

/-!
# Expansions

The expansion of a macro is its template with arguments in the place of parameters.
`Macro.Instantiates` says what that means leaf by leaf: a symbol that is a parameter gives way to
the argument at the last place of that parameter, every other leaf stays, and so does the structure
of forms. There is no rule for the symbols of an argument that was put in, so all parameters are
replaced at once. For as many arguments as parameters the expansion is the one expression that the
template is instantiated to (`Macro.instantiates_iff`).

Substitutions compose: one after another is a single one, which gives each name what the second
makes of what the first gave it (`Expr.substitute_substitute`). What a substitution does to the
names is all that matters. So a macro that expands to a call of another one may be expanded at once.
-/

set_option autoImplicit false

namespace Lisplet

/-! ## Templates and their instances -/

namespace Macro

/-- A place of a name among the parameters that has no later one. -/
structure LastPlace (parameters : List String) (name : String) (place : Nat) : Prop where
  here : parameters[place]? = some name
  last : ∀ later, parameters[later]? = some name → later ≤ place

variable {parameters : List String} {arguments : List Expr}

theorem LastPlace.mem {name : String} {place : Nat} (last : LastPlace parameters name place) :
    name ∈ parameters :=
  List.mem_of_getElem? last.here

theorem lastPlace_cons_zero_iff {parameter name : String} :
    LastPlace (parameter :: parameters) name 0 ↔ name = parameter ∧ name ∉ parameters := by
  constructor
  · intro last
    refine ⟨(Option.some.inj last.here).symm, fun member => ?_⟩
    obtain ⟨place, found⟩ := List.mem_iff_getElem?.mp member
    exact Nat.not_succ_le_zero place (last.last (place + 1) found)
  · rintro ⟨rfl, notLater⟩
    refine ⟨rfl, fun later found => ?_⟩
    cases later with
    | zero => exact Nat.le_refl 0
    | succ later =>
        have among : name ∈ parameters := List.mem_of_getElem? found
        exact absurd among notLater

theorem lastPlace_cons_succ_iff {parameter name : String} {place : Nat} :
    LastPlace (parameter :: parameters) name (place + 1) ↔ LastPlace parameters name place := by
  constructor
  · exact fun last =>
      ⟨last.here, fun later found => Nat.le_of_succ_le_succ (last.last (later + 1) found)⟩
  · refine fun last => ⟨last.here, fun later found => ?_⟩
    cases later with
    | zero => exact Nat.zero_le _
    | succ later => exact Nat.succ_le_succ (last.last later found)

theorem bindings_cons (parameter name : String) (first : Expr) (rest : List Expr) :
    bindings (parameter :: parameters) (first :: rest) name =
      (bindings parameters rest name).or (if name = parameter then some first else none) := by
  rw [bindings]
  dsimp only
  cases bindings parameters rest name <;> rfl

/-- What is bound is what is among the parameters. -/
theorem bindings_eq_none_iff (same : arguments.length = parameters.length) {name : String} :
    bindings parameters arguments name = none ↔ name ∉ parameters := by
  induction parameters generalizing arguments with
  | nil => exact ⟨fun _ => List.not_mem_nil, fun _ => by cases arguments <;> rfl⟩
  | cons parameter parameters ih =>
      cases arguments with
      | nil => cases same
      | cons first rest =>
          rw [bindings_cons, Option.or_eq_none_iff, ih (Nat.succ.inj same), List.mem_cons, not_or,
            and_comm]
          simp

/-- A parameter is bound to the argument at its last place. -/
theorem bindings_eq_some_iff (same : arguments.length = parameters.length) {name : String}
    {argument : Expr} :
    bindings parameters arguments name = some argument ↔
      ∃ place, LastPlace parameters name place ∧ arguments[place]? = some argument := by
  induction parameters generalizing arguments with
  | nil =>
      constructor
      · intro given
        cases arguments <;> cases given
      · rintro ⟨place, last, _⟩
        exact absurd last.mem List.not_mem_nil
  | cons parameter parameters ih =>
      cases arguments with
      | nil => cases same
      | cons first rest =>
          have shorter := Nat.succ.inj same
          rw [← Nat.or_exists_add_one]
          simp only [lastPlace_cons_zero_iff, lastPlace_cons_succ_iff, List.getElem?_cons_zero,
            List.getElem?_cons_succ, ← ih shorter, ← bindings_eq_none_iff shorter, bindings_cons]
          cases bindings parameters rest name <;> simp

mutual

/-- An expression is a template with arguments in the place of parameters. -/
inductive Instantiates (parameters : List String) (arguments : List Expr) : Expr → Expr → Prop where
  /-- A parameter gives way to the argument at its last place. -/
  | parameter {name : String} {place : Nat} {argument : Expr} :
      LastPlace parameters name place → arguments[place]? = some argument →
        Instantiates parameters arguments (.symbol name) argument
  /-- Any other symbol stays. -/
  | symbol {name : String} : name ∉ parameters →
      Instantiates parameters arguments (.symbol name) (.symbol name)
  | number (value : Int64) : Instantiates parameters arguments (.number value) (.number value)
  | bool (value : Bool) : Instantiates parameters arguments (.bool value) (.bool value)
  /-- A form stays a form, with its elements instantiated. -/
  | form {templates instances : List Expr} :
      InstantiatesAll parameters arguments templates instances →
        Instantiates parameters arguments (.form templates) (.form instances)

/-- Several expressions are as many templates, in their order, with arguments in the place of
parameters. -/
inductive InstantiatesAll (parameters : List String) (arguments : List Expr) :
    List Expr → List Expr → Prop where
  | nil : InstantiatesAll parameters arguments [] []
  | cons {template result : Expr} {templates results : List Expr} :
      Instantiates parameters arguments template result →
        InstantiatesAll parameters arguments templates results →
          InstantiatesAll parameters arguments (template :: templates) (result :: results)

end

mutual

theorem instantiates_substitute (same : arguments.length = parameters.length) : ∀ template : Expr,
    Instantiates parameters arguments template (template.substitute (bindings parameters arguments))
  | .symbol name => by
      rw [Expr.substitute]
      cases given : bindings parameters arguments name with
      | none => exact .symbol ((bindings_eq_none_iff same).mp given)
      | some argument =>
          obtain ⟨place, last, found⟩ := (bindings_eq_some_iff same).mp given
          exact .parameter last found
  | .number value => .number value
  | .bool value => .bool value
  | .form elements => .form (instantiatesAll_substituteAll same elements)

theorem instantiatesAll_substituteAll (same : arguments.length = parameters.length) :
    ∀ templates : List Expr, InstantiatesAll parameters arguments templates
      (Expr.substituteAll (bindings parameters arguments) templates)
  | [] => .nil
  | first :: rest =>
      .cons (instantiates_substitute same first) (instantiatesAll_substituteAll same rest)

end

mutual

theorem eq_substitute_of_instantiates (same : arguments.length = parameters.length) :
    ∀ {template result : Expr}, Instantiates parameters arguments template result →
      result = template.substitute (bindings parameters arguments)
  | .symbol name, result, made => by
      rw [Expr.substitute]
      cases made with
      | parameter last found => rw [(bindings_eq_some_iff same).mpr ⟨_, last, found⟩]; rfl
      | symbol other => rw [(bindings_eq_none_iff same).mpr other]; rfl
  | .number _, result, made => by
      cases made
      rfl
  | .bool _, result, made => by
      cases made
      rfl
  | .form _, result, made => by
      cases made with
      | form each => rw [eq_substituteAll_of_instantiatesAll same each, Expr.substitute]

theorem eq_substituteAll_of_instantiatesAll (same : arguments.length = parameters.length) :
    ∀ {templates results : List Expr}, InstantiatesAll parameters arguments templates results →
      results = Expr.substituteAll (bindings parameters arguments) templates
  | [], results, made => by
      cases made
      rfl
  | _ :: _, results, made => by
      cases made with
      | cons head tail =>
          rw [eq_substitute_of_instantiates same head,
            eq_substituteAll_of_instantiatesAll same tail, Expr.substituteAll]

end

/-- **The expansion is the one instance of the template.** -/
theorem instantiates_iff (same : arguments.length = parameters.length) {template result : Expr} :
    Instantiates parameters arguments template result ↔
      result = template.substitute (bindings parameters arguments) := by
  constructor
  · exact eq_substitute_of_instantiates same
  · rintro rfl
    exact instantiates_substitute same template

end Macro

/-! ## One substitution after another -/

namespace Substitution

/-- The expression that a substitution puts in the place of a name. -/
def image (substitution : Substitution) (name : String) : Expr :=
  (substitution name).getD (.symbol name)

/-- One substitution after another: what the first puts in is gone through by the second, and what
the first leaves alone is left to the second. -/
def andThen (first second : Substitution) : Substitution := fun name =>
  ((first name).map (Expr.substitute second)).or (second name)

theorem image_andThen (first second : Substitution) (name : String) :
    (first.andThen second).image name = (first.image name).substitute second := by
  rw [image, andThen, image]
  cases first name <;> rfl

end Substitution

namespace Expr

variable {first second both : Substitution}

mutual

/-- **Substitutions compose**: a substitution that puts in the place of each name what the second
makes of what the first puts there does in one go what they do one after the other. -/
theorem substitute_substitute
    (composed : ∀ name, both.image name = (first.image name).substitute second) : ∀ template : Expr,
    (template.substitute first).substitute second = template.substitute both
  | .symbol name => (composed name).symm
  | .number _ => rfl
  | .bool _ => rfl
  | .form elements => congrArg form (substituteAll_substituteAll composed elements)

theorem substituteAll_substituteAll
    (composed : ∀ name, both.image name = (first.image name).substitute second) :
    ∀ templates : List Expr, substituteAll second (substituteAll first templates) =
      substituteAll both templates
  | [] => rfl
  | template :: templates => by
      rw [substituteAll, substituteAll, substitute_substitute composed template,
        substituteAll_substituteAll composed templates, substituteAll]

end

end Expr

/-- **Expansion is simultaneous substitution, and substitutions compose.** For as many arguments as
parameters, the expansion of a macro is the one instance of its template; for any other number there
is an error that names the number of parameters. Substituting once and then again is one
substitution, whichever substitution puts in the place of each name what the second makes of what
the first puts there; and there is one that does. -/
theorem expansion_simultaneous :
    (∀ (definition : Macro) (name : String) (arguments : List Expr),
      arguments.length = definition.parameters.length →
        ∃ expansion, definition.expand name arguments = .ok expansion ∧
          ∀ result, Macro.Instantiates definition.parameters arguments definition.template result ↔
            result = expansion) ∧
      (∀ (definition : Macro) (name : String) (arguments : List Expr),
        arguments.length ≠ definition.parameters.length →
          definition.expand name arguments =
            .error (.arity ("macro " ++ name)
              (.exactly definition.parameters.length) arguments.length)) ∧
      ∀ first second : Substitution,
        (∀ name, (first.andThen second).image name = (first.image name).substitute second) ∧
          ∀ both : Substitution, (∀ name, both.image name = (first.image name).substitute second) →
            ∀ template : Expr, (template.substitute first).substitute second =
              template.substitute both := by
  refine ⟨fun definition name arguments same => ?_,
    fun definition name arguments other => if_neg other,
    fun first second => ⟨first.image_andThen second, fun both composed => ?_⟩⟩
  · exact ⟨_, if_pos same, fun result => Macro.instantiates_iff same⟩
  · exact Expr.substitute_substitute composed

/-- Two parameters are swapped, as the symbols in the arguments are not replaced again; the
parameter that occurs twice stands for the last argument; and the expansion, with one of its symbols
replaced, is a single substitution in the template. -/
theorem expansion_simultaneous_swapping :
    let definition : Macro :=
      ⟨["x", "y", "x"], .form [.symbol "x", .form [.symbol "y", .symbol "z", .number 1]]⟩
    let arguments : List Expr := [.bool true, .symbol "x", .symbol "y"]
    let expansion : Expr := .form [.symbol "y", .form [.symbol "x", .symbol "z", .number 1]]
    let replacing : Substitution := fun name => if name = "x" then some (.symbol "z") else none
    let both : Substitution := (Macro.bindings definition.parameters arguments).andThen replacing
    arguments.length = definition.parameters.length ∧
      definition.expand "swap" arguments = .ok expansion ∧
      Macro.Instantiates definition.parameters arguments definition.template expansion ∧
      arguments.tail.length ≠ definition.parameters.length ∧
      definition.expand "swap" arguments.tail = .error (.arity "macro swap" (.exactly 3) 2) ∧
      (∀ name, both.image name =
        ((Macro.bindings definition.parameters arguments).image name).substitute replacing) ∧
      expansion.substitute replacing = definition.template.substitute both := by
  intro definition arguments expansion replacing both
  obtain ⟨expands, refuses, composes⟩ := expansion_simultaneous
  have same : arguments.length = definition.parameters.length := rfl
  have other : arguments.tail.length ≠ definition.parameters.length := by decide
  have expanded : definition.expand "swap" arguments = .ok expansion := rfl
  obtain ⟨found, succeeds, instances⟩ := expands definition "swap" arguments same
  obtain rfl := Except.ok.inj (expanded.symm.trans succeeds)
  obtain ⟨images, composed⟩ := composes (Macro.bindings definition.parameters arguments) replacing
  exact ⟨same, expanded, (instances expansion).mpr rfl, other, refuses definition "swap" _ other,
    images, composed both images definition.template⟩

end Lisplet
