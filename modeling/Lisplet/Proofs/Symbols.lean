import Lisplet.Evaluation

/-!
# The names that are mentioned

A run can come across a name only if something mentions it: an expression, through its symbols, the
template of a macro, or a function, through its parameters and its body. Parameters are symbols of
the form that binds them (`Evaluation.mem_symbols_of_parameters`), and an expansion has no symbol
but those of the template and those of the arguments (`Macro.mem_symbols_of_expand`).
-/

set_option autoImplicit false

namespace Lisplet

variable {Host : Type}

namespace Expr

mutual

/-- The names of the symbols in an expression, at any depth. -/
def symbols : Expr → List String
  | .symbol name => [name]
  | .form elements => allSymbols elements
  | .number _ => []
  | .bool _ => []

/-- The names of the symbols in several expressions. -/
def allSymbols : List Expr → List String
  | [] => []
  | first :: rest => symbols first ++ allSymbols rest

end

/-- Every symbol in the expression is one of the names. -/
def MentionsOnly (names : String → Prop) (expr : Expr) : Prop := ∀ name ∈ expr.symbols, names name

instance (names : String → Prop) [DecidablePred names] (expr : Expr) :
    Decidable (expr.MentionsOnly names) :=
  inferInstanceAs (Decidable (∀ name ∈ expr.symbols, names name))

theorem mem_allSymbols {name : String} {elements : List Expr} :
    name ∈ allSymbols elements ↔ ∃ element ∈ elements, name ∈ element.symbols := by
  induction elements with
  | nil => simp [allSymbols]
  | cons first rest ih => simp [allSymbols, ih]

theorem mem_symbols_form {name : String} {elements : List Expr} :
    name ∈ (form elements).symbols ↔ ∃ element ∈ elements, name ∈ element.symbols :=
  mem_allSymbols

theorem mentionsOnly_symbol {names : String → Prop} {name : String} :
    (symbol name).MentionsOnly names ↔ names name := by
  simp [MentionsOnly, symbols]

theorem mentionsOnly_form {names : String → Prop} {elements : List Expr} :
    (form elements).MentionsOnly names ↔ ∀ element ∈ elements, element.MentionsOnly names := by
  constructor
  · intro mentions element member name occurs
    exact mentions name (mem_symbols_form.mpr ⟨element, member, occurs⟩)
  · intro mentions name occurs
    obtain ⟨element, member, within⟩ := mem_symbols_form.mp occurs
    exact mentions element member name within

mutual

/-- A substitution puts in no symbols but those of the expressions that it gives. -/
theorem mem_symbols_of_substitute {substitution : Substitution} {name : String} :
    ∀ expr : Expr, name ∈ (expr.substitute substitution).symbols →
      name ∈ expr.symbols ∨ ∃ replaced argument,
        substitution replaced = some argument ∧ name ∈ argument.symbols
  | .symbol replaced, occurs => by
      unfold substitute at occurs
      cases given : substitution replaced with
      | none =>
          rw [given] at occurs
          exact .inl occurs
      | some argument =>
          rw [given] at occurs
          exact .inr ⟨replaced, argument, given, occurs⟩
  | .form elements, occurs => mem_allSymbols_of_substituteAll elements occurs
  | .number _, occurs => .inl occurs
  | .bool _, occurs => .inl occurs

theorem mem_allSymbols_of_substituteAll {substitution : Substitution} {name : String} :
    ∀ elements : List Expr, name ∈ allSymbols (substituteAll substitution elements) →
      name ∈ allSymbols elements ∨ ∃ replaced argument,
        substitution replaced = some argument ∧ name ∈ argument.symbols
  | [], occurs => .inl occurs
  | first :: rest, occurs => by
      rcases List.mem_append.mp occurs with early | late
      · exact (mem_symbols_of_substitute first early).imp_left fun within =>
          List.mem_append_left (allSymbols rest) within
      · exact (mem_allSymbols_of_substituteAll rest late).imp_left fun within =>
          List.mem_append_right first.symbols within

end

end Expr

namespace Macro

/-- Every parameter of the macro and every symbol in its template is one of the names. -/
def MentionsOnly (names : String → Prop) (definition : Macro) : Prop :=
  (∀ parameter ∈ definition.parameters, names parameter) ∧ definition.template.MentionsOnly names

instance (names : String → Prop) [DecidablePred names] (definition : Macro) :
    Decidable (definition.MentionsOnly names) :=
  inferInstanceAs (Decidable (_ ∧ _))

theorem mem_of_bindings {parameters : List String} {arguments : List Expr} {name : String}
    {argument : Expr} (given : bindings parameters arguments name = some argument) :
    argument ∈ arguments := by
  induction parameters generalizing arguments with
  | nil => cases given
  | cons parameter parameters ih =>
      cases arguments with
      | nil => cases given
      | cons first rest =>
          unfold bindings at given
          split at given
          · rename_i later found
            cases given
            exact List.mem_cons_of_mem first (ih found)
          · split at given
            · cases given
              exact List.mem_cons_self
            · cases given

theorem mem_symbols_of_expand {definition : Macro} {head name : String} {arguments : List Expr}
    {expansion : Expr} (expanded : definition.expand head arguments = .ok expansion)
    (occurs : name ∈ expansion.symbols) :
    name ∈ definition.template.symbols ∨ ∃ argument ∈ arguments, name ∈ argument.symbols := by
  unfold expand at expanded
  split at expanded
  · cases expanded
    refine (Expr.mem_symbols_of_substitute definition.template occurs).imp_right ?_
    intro ⟨_, argument, given, within⟩
    exact ⟨argument, mem_of_bindings given, within⟩
  · cases expanded

/-- The expansion mentions no names but those of the template and of the arguments. -/
theorem mentionsOnly_of_expand {names : String → Prop} {definition : Macro} {head : String}
    {arguments : List Expr} {expansion : Expr}
    (expanded : definition.expand head arguments = .ok expansion)
    (template : definition.template.MentionsOnly names)
    (passed : ∀ argument ∈ arguments, argument.MentionsOnly names) :
    expansion.MentionsOnly names := by
  intro name occurs
  rcases mem_symbols_of_expand expanded occurs with within | ⟨argument, member, within⟩
  · exact template name within
  · exact passed argument member name within

end Macro

namespace Value

mutual

/-- The names that the functions in a value mention, at any depth, as parameters or in their
bodies. -/
def names : Value Host → List String
  | .vector items => allNames items
  | .list items => allNames items
  | .function parameters body => parameters ++ body.symbols
  | _ => []

/-- The names that the functions in several values mention. -/
def allNames : List (Value Host) → List String
  | [] => []
  | first :: rest => names first ++ allNames rest

end

/-- Every name that a function in the value mentions is one of the names. -/
def MentionsOnly (names : String → Prop) (value : Value Host) : Prop :=
  ∀ name ∈ value.names, names name

instance (names : String → Prop) [DecidablePred names] (value : Value Host) :
    Decidable (value.MentionsOnly names) :=
  inferInstanceAs (Decidable (∀ name ∈ value.names, names name))

theorem mem_allNames {name : String} {items : List (Value Host)} :
    name ∈ allNames items ↔ ∃ item ∈ items, name ∈ item.names := by
  induction items with
  | nil => simp [allNames]
  | cons first rest ih => simp [allNames, ih]

theorem mentionsOnly_vector {names : String → Prop} {items : List (Value Host)} :
    (vector items).MentionsOnly names ↔ ∀ item ∈ items, item.MentionsOnly names := by
  constructor
  · intro mentions item member name occurs
    exact mentions name (mem_allNames.mpr ⟨item, member, occurs⟩)
  · intro mentions name occurs
    obtain ⟨item, member, within⟩ := mem_allNames.mp occurs
    exact mentions item member name within

theorem mentionsOnly_list {names : String → Prop} {items : List (Value Host)} :
    (list items).MentionsOnly names ↔ ∀ item ∈ items, item.MentionsOnly names :=
  mentionsOnly_vector

theorem mentionsOnly_function {names : String → Prop} {parameters : List String} {body : Expr} :
    (function parameters body : Value Host).MentionsOnly names ↔
      (∀ parameter ∈ parameters, names parameter) ∧ body.MentionsOnly names :=
  List.forall_mem_append

end Value

namespace Evaluation

theorem mem_symbols_of_bindingName {binder : Binder} {expr : Expr} {name : String}
    (bound : bindingName binder expr = .ok name) : name ∈ expr.symbols := by
  cases expr with
  | symbol other =>
      cases bound
      exact List.mem_singleton_self name
  | number _ | bool _ | form _ => cases bound

theorem mem_allSymbols_of_parameterNames {binder : Binder} {elements : List Expr}
    {names : List String} (bound : parameterNames binder elements = .ok names) :
    ∀ name ∈ names, name ∈ Expr.allSymbols elements := by
  induction elements generalizing names with
  | nil =>
      cases bound
      exact fun name member => absurd member List.not_mem_nil
  | cons first rest ih =>
      unfold parameterNames at bound
      cases first with
      | symbol head =>
          cases others : parameterNames binder rest with
          | error raised =>
              rw [others] at bound
              cases bound
          | ok tail =>
              rw [others] at bound
              cases bound
              intro name member
              rcases List.mem_cons.mp member with rfl | later
              · exact List.mem_cons_self
              · exact List.mem_append_right _ (ih others name later)
      | number _ | bool _ | form _ => cases bound

/-- The parameters of a form are among the symbols of the list that gives them. -/
theorem mem_symbols_of_parameters {binder : Binder} {expr : Expr} {names : List String}
    (bound : parameters binder expr = .ok names) : ∀ name ∈ names, name ∈ expr.symbols := by
  cases expr with
  | form elements => exact mem_allSymbols_of_parameterNames bound
  | number _ | bool _ | symbol _ => cases bound

/-- So the parameters are among any names that the list mentions only. -/
theorem names_of_parameters {names : String → Prop} {binder : Binder} {expr : Expr}
    {bound : List String} (mentions : expr.MentionsOnly names)
    (listed : parameters binder expr = .ok bound) : ∀ parameter ∈ bound, names parameter :=
  fun parameter member => mentions parameter (mem_symbols_of_parameters listed parameter member)

end Evaluation
end Lisplet
