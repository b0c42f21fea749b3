import Lisplet.Error
import Lisplet.Expr.Basic

/-!
# Macros

A macro is a template with parameters. A call of it is replaced by its expansion: the template with
every parameter, at any depth, replaced by the expression that the call has in its place. The
expressions put in are not looked through again, and nothing is renamed. When a parameter occurs
twice among the parameters, its last place counts.
-/

set_option autoImplicit false

namespace Lisplet

/-- A substitution gives some names an expression each. -/
abbrev Substitution := String → Option Expr

namespace Expr

mutual

/-- The expression with every symbol that the substitution names replaced, all at once. -/
def substitute (substitution : Substitution) : Expr → Expr
  | .symbol name => (substitution name).getD (.symbol name)
  | .form elements => .form (substituteAll substitution elements)
  | .number value => .number value
  | .bool value => .bool value

/-- The substitution made in each of several expressions. -/
def substituteAll (substitution : Substitution) : List Expr → List Expr
  | [] => []
  | first :: rest => substitute substitution first :: substituteAll substitution rest

end

end Expr

/-- A template and its parameters, in the order of the expressions that replace them. -/
structure Macro where
  parameters : List String
  template : Expr
  deriving DecidableEq

namespace Macro

/-- The substitution of arguments for parameters of the same number; the last one of several equal
parameters counts. -/
def bindings : List String → List Expr → Substitution
  | parameter :: parameters, argument :: arguments => fun name =>
      match bindings parameters arguments name with
      | some later => some later
      | none => if name = parameter then some argument else none
  | _, _ => fun _ => none

/-- The expansion of a call of a macro under the given name. -/
def expand (definition : Macro) (name : String) (arguments : List Expr) : Except Error Expr :=
  if arguments.length = definition.parameters.length then
    .ok (definition.template.substitute (bindings definition.parameters arguments))
  else .error (.arity ("macro " ++ name) (.exactly definition.parameters.length) arguments.length)

end Macro
end Lisplet
