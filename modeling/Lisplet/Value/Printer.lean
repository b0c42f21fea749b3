import Lisplet.Decimal.NumberText
import Lisplet.Expr.Printer
import Lisplet.Text.Quoted
import Lisplet.Value.Basic

/-!
# Printing values

`Value.display` is how the language shows a value: a vector in square brackets, a list in round
ones, one space between two elements, a function as its parameters, a builtin as its name.
`Value.inspect` spells out the kind of every value instead, and shows the body of a function.
-/

set_option autoImplicit false

namespace Lisplet.Value

variable {Host : Type}

mutual

/-- The characters of a value. -/
def text : Value Host → List Char
  | .null => "null".toList
  | .number value => Decimal.numberText value
  | .bool value => (boolText value).toList
  | .symbol name => name.toList
  | .vector items => '[' :: (textAll items ++ [']'])
  | .list items => '(' :: (textAll items ++ [')'])
  | .function parameters _ => ("#<fn (" ++ String.intercalate " " parameters ++ ")>").toList
  | .builtin id _ => ("#<builtin:" ++ id ++ ">").toList

/-- The characters of several values, one space between two of them. -/
def textAll : List (Value Host) → List Char
  | [] => []
  | [last] => text last
  | first :: rest => text first ++ ' ' :: textAll rest

end

/-- A value as the language shows it. -/
def display (value : Value Host) : String := String.ofList value.text

/-- Several values as the language shows them, one space between two of them. -/
def displayAll (values : List (Value Host)) : String := String.ofList (textAll values)

/-- The kind of a value and the value, as error messages name it. -/
def describe (value : Value Host) : String := value.typeName ++ " " ++ value.display

mutual

/-- A value with the kind of every part spelled out. -/
def inspect : Value Host → String
  | .null => "Null"
  | .number value => "Number(" ++ String.ofList (Decimal.numberText value) ++ ")"
  | .bool value => "Bool(" ++ boolText value ++ ")"
  | .symbol name => "Symbol(" ++ name ++ ")"
  | .vector items => "Vector(" ++ String.intercalate ", " (inspectAll items) ++ ")"
  | .list items => "List([" ++ String.intercalate ", " (inspectAll items) ++ "])"
  | .function parameters body =>
      "Function(params=" ++ Text.quoteAll parameters ++ ", body=" ++ body.display ++ ")"
  | .builtin id _ => "Builtin(" ++ id ++ ")"

/-- The inspected forms of several values. -/
def inspectAll : List (Value Host) → List String
  | [] => []
  | first :: rest => inspect first :: inspectAll rest

end

/-- The number that a value is. -/
def number? : Value Host → Except Error Float
  | .number value => .ok value
  | other => .error (.ofFault (.notNumber other.describe))

/-- The elements of the vector that a value is. -/
def vector? : Value Host → Except Error (List (Value Host))
  | .vector items => .ok items
  | other => .error (.ofFault (.notVector other.describe))

end Lisplet.Value
