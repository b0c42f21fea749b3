import Lisplet.Environment.Table
import Lisplet.Macro
import Lisplet.Text.Quoted
import Lisplet.Value.Basic

/-!
# Environments

An environment binds names to values and, independently, names to macros. Binding a name gives a new
environment and leaves the old one as it was. A symbol that is not bound stands for itself.

What a name is bound to after a binding is said by `value?_bind_self` and `value?_bind_other`, and
for macros by `macroNamed?_bindMacro_self` and `macroNamed?_bindMacro_other`.
-/

set_option autoImplicit false

namespace Lisplet

/-- The values and the macros that names are bound to. -/
structure Environment (Host : Type) where
  values : Table (Value Host)
  macros : Table Macro

namespace Environment

variable {Host : Type}

/-- The environment that binds nothing. -/
def empty : Environment Host := ⟨.empty, .empty⟩

/-- The value bound to a name. -/
def value? (environment : Environment Host) (name : String) : Option (Value Host) :=
  environment.values.find? name

/-- The value that a symbol has: what its name is bound to, or else the symbol itself. -/
def lookup (environment : Environment Host) (name : String) : Value Host :=
  (environment.value? name).getD (.symbol name)

/-- The macro that a name is bound to. -/
def macroNamed? (environment : Environment Host) (name : String) : Option Macro :=
  environment.macros.find? name

/-- The environment with a name bound to a value. -/
def bind (environment : Environment Host) (name : String) (value : Value Host) :
    Environment Host :=
  { environment with values := environment.values.insert name value }

/-- The environment with a name bound to a macro. -/
def bindMacro (environment : Environment Host) (name : String) (definition : Macro) :
    Environment Host :=
  { environment with macros := environment.macros.insert name definition }

/-- The environment with a builtin of the given name bound to that name. -/
def bindBuiltin (environment : Environment Host) (name : String) (operation : Operation Host) :
    Environment Host :=
  environment.bind name (.builtin name operation)

/-- The environment with names bound to values one after the other, so that the last value counts
when a name occurs twice. -/
def bindAll (environment : Environment Host) : List String → List (Value Host) → Environment Host
  | name :: names, value :: values => (environment.bind name value).bindAll names values
  | _, _ => environment

@[simp] theorem value?_bind_self (environment : Environment Host) (name : String)
    (value : Value Host) : (environment.bind name value).value? name = some value :=
  Table.find?_insert_self environment.values name value

theorem value?_bind_other (environment : Environment Host) {name other : String}
    (value : Value Host) (different : other ≠ name) :
    (environment.bind name value).value? other = environment.value? other :=
  Table.find?_insert_other environment.values value different

@[simp] theorem macroNamed?_bind (environment : Environment Host) (name other : String)
    (value : Value Host) :
    (environment.bind name value).macroNamed? other = environment.macroNamed? other := rfl

@[simp] theorem value?_bindMacro (environment : Environment Host) (name other : String)
    (definition : Macro) :
    (environment.bindMacro name definition).value? other = environment.value? other := rfl

@[simp] theorem macroNamed?_bindMacro_self (environment : Environment Host) (name : String)
    (definition : Macro) :
    (environment.bindMacro name definition).macroNamed? name = some definition :=
  Table.find?_insert_self environment.macros name definition

theorem macroNamed?_bindMacro_other (environment : Environment Host) {name other : String}
    (definition : Macro) (different : other ≠ name) :
    (environment.bindMacro name definition).macroNamed? other = environment.macroNamed? other :=
  Table.find?_insert_other environment.macros definition different

/-- All bindings of values, in ascending order of the names. -/
def bindings (environment : Environment Host) : List (String × Value Host) :=
  environment.values.entries

/-- The names of all macros, in ascending order. -/
def macroNames (environment : Environment Host) : List String := environment.macros.names

/-- The names that an environment binds, spelled out. -/
def inspect (environment : Environment Host) : String :=
  "Environment \x7b bindings: " ++ Text.quoteAll environment.values.names ++ ", macros: " ++
    Text.quoteAll environment.macroNames ++ " \x7d"

end Environment
end Lisplet
