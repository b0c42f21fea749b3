import Lisplet.Expr.Basic

/-!
# Printing expressions

`Expr.display` writes an expression as source text: a number in decimal, a symbol as its name, a
form as its elements between round brackets with one space between two of them. `Expr.inspect` names
the constructor of every node instead.
-/

set_option autoImplicit false

namespace Lisplet

/-- An integer in decimal, a minus sign first when it is negative. -/
def integerText (value : Int) : List Char :=
  if value < 0 then '-' :: Nat.toDigits 10 value.natAbs else Nat.toDigits 10 value.natAbs

/-- How a truth value is written. -/
def boolText (value : Bool) : String := if value then "true" else "false"

namespace Expr

mutual

/-- The characters of an expression as source text. -/
def text : Expr → List Char
  | .number value => integerText value.toInt
  | .bool value => (boolText value).toList
  | .symbol name => name.toList
  | .form elements => '(' :: (textAll elements ++ [')'])

/-- The characters of several expressions, one space between two of them. -/
def textAll : List Expr → List Char
  | [] => []
  | [last] => text last
  | first :: rest => text first ++ ' ' :: textAll rest

end

/-- An expression as source text. -/
def display (expression : Expr) : String := String.ofList expression.text

/-- Several expressions as one source text, one space between two of them. -/
def displayAll (expressions : List Expr) : String := String.ofList (textAll expressions)

mutual

/-- An expression with the kind of every node spelled out. -/
def inspect : Expr → String
  | .number value => "Number(" ++ String.ofList (integerText value.toInt) ++ ")"
  | .bool value => "Bool(" ++ boolText value ++ ")"
  | .symbol name => "Symbol(" ++ name ++ ")"
  | .form elements => "Form(" ++ String.intercalate ", " (inspectAll elements) ++ ")"

/-- The inspected forms of several expressions. -/
def inspectAll : List Expr → List String
  | [] => []
  | first :: rest => inspect first :: inspectAll rest

end

end Expr
end Lisplet
