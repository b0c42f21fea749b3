/-!
# Expressions

A program is a list of expressions, and an expression is an atom or a form, which is a list of
expressions in brackets. What is evaluated is an expression, and so is the template of a macro.

Equality of expressions is decided element by element (`Expr.equal`), and agrees with equality of
Lean terms (`Expr.equal_iff`).
-/

set_option autoImplicit false

namespace Lisplet

/-- An atom or a form. Source text has no negative numbers and no booleans: a host may build
both. -/
inductive Expr where
  /-- An integer of 64 bits. -/
  | number (value : Int64)
  /-- A truth value; source text spells it as a symbol, which the environment binds. -/
  | bool (value : Bool)
  /-- A name. -/
  | symbol (name : String)
  /-- The elements of a bracket group, in order. -/
  | form (elements : List Expr)
  deriving Inhabited

namespace Expr

/-- The symbol that a group in square brackets puts before its elements. -/
def vectorHead : String := "arrayOf"

/-- The name of a symbol, and nothing for any other expression. -/
def symbolName? : Expr → Option String
  | .symbol name => some name
  | _ => none

/-- The elements of a form, and nothing for an atom. -/
def elements? : Expr → Option (List Expr)
  | .form elements => some elements
  | _ => none

mutual

/-- Two expressions are equal when they are the same atom or forms with equal elements. -/
def equal : Expr → Expr → Bool
  | .number left, .number right => left == right
  | .bool left, .bool right => left == right
  | .symbol left, .symbol right => left == right
  | .form left, .form right => equalAll left right
  | _, _ => false

/-- Two lists of expressions are equal when they have the same length and equal members. -/
def equalAll : List Expr → List Expr → Bool
  | [], [] => true
  | left :: lefts, right :: rights => equal left right && equalAll lefts rights
  | _, _ => false

end

mutual

theorem equal_iff : ∀ left right : Expr, equal left right = true ↔ left = right
  | .number _, .number _ => by simp [equal]
  | .bool _, .bool _ => by simp [equal]
  | .symbol _, .symbol _ => by simp [equal]
  | .form left, .form right => by simp [equal, equalAll_iff left right]
  | .number _, .bool _ => by simp [equal]
  | .number _, .symbol _ => by simp [equal]
  | .number _, .form _ => by simp [equal]
  | .bool _, .number _ => by simp [equal]
  | .bool _, .symbol _ => by simp [equal]
  | .bool _, .form _ => by simp [equal]
  | .symbol _, .number _ => by simp [equal]
  | .symbol _, .bool _ => by simp [equal]
  | .symbol _, .form _ => by simp [equal]
  | .form _, .number _ => by simp [equal]
  | .form _, .bool _ => by simp [equal]
  | .form _, .symbol _ => by simp [equal]

theorem equalAll_iff : ∀ lefts rights : List Expr, equalAll lefts rights = true ↔ lefts = rights
  | [], [] => by simp [equalAll]
  | [], _ :: _ => by simp [equalAll]
  | _ :: _, [] => by simp [equalAll]
  | left :: lefts, right :: rights => by
      simp [equalAll, equal_iff left right, equalAll_iff lefts rights]

end

instance : DecidableEq Expr := fun left right =>
  decidable_of_iff (equal left right = true) (equal_iff left right)

end Expr
end Lisplet
