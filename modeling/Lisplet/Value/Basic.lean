import Lisplet.Error
import Lisplet.Expr.Basic
import Lisplet.Operation

/-!
# Values

Values are what evaluation produces. A function is its parameters and its body and nothing else: the
environment in which it runs is the caller's. A builtin has a name and an operation.

Vectors and lists hold values, and `Value.nestingDepth` counts the levels. No program builds a value
of more than `maxNesting` levels, because `checkNesting` refuses it where vectors and lists are
made.
-/

set_option autoImplicit false

namespace Lisplet

/-! ## Whole numbers -/

namespace Number

/-- A number without what stands behind its point. From `2 ^ 52` on nothing does, on either side of
zero, and a smaller number goes through a machine word and back. -/
def truncated (number : Float) : Float :=
  if 0 ≤ number then
    if number < 4503599627370496 then number.toUInt64.toFloat else number
  else
    if -4503599627370496 < number then -(-number).toUInt64.toFloat else number

/-- What stands behind the point of a number: NaN for NaN and for the infinities. -/
def fraction (number : Float) : Float := number - truncated number

end Number

/-! ## The kinds of values -/

/-- A value of the language, with the operations of a host among its builtins. -/
inductive Value (Host : Type) where
  /-- The absence of a value. -/
  | null
  | number (value : Float)
  | bool (value : Bool)
  /-- A name that nothing is bound to. -/
  | symbol (name : String)
  | vector (items : List (Value Host))
  /-- The arguments of a `print`, which can be neither indexed nor called. -/
  | list (items : List (Value Host))
  | function (parameters : List String) (body : Expr)
  | builtin (id : String) (operation : Operation Host)
  deriving Inhabited

/-- The most levels of vectors and lists that a value has. -/
def maxNesting : Nat := 256

namespace Value

variable {Host : Type}

/-- The name of a value's kind. -/
def typeName : Value Host → String
  | .null => "null"
  | .number _ => "number"
  | .bool _ => "boolean"
  | .symbol _ => "symbol"
  | .vector _ => "vector"
  | .list _ => "list"
  | .function _ _ => "function"
  | .builtin _ _ => "builtin"

/-- What counts as true: everything but null, false, the two zeros and NaN. -/
def isTruthy : Value Host → Bool
  | .null => false
  | .bool value => value
  | .number value => !(value == 0) && !value.isNaN
  | _ => true

/-- Functions and builtins can be called. -/
def isCallable : Value Host → Bool
  | .function _ _ => true
  | .builtin _ _ => true
  | _ => false

/-! ## Vectors -/

/-- The position in a vector that a number stands for, if it is not negative and has no fraction. A
number beyond the machine words stands for the last of them. -/
def position? (index : Float) : Option Nat :=
  if 0 ≤ index ∧ Number.fraction index == 0 then some index.toUInt64.toNat else none

/-- The element of a vector at an index, or null when the index is missing, is no number or stands
for no position in the vector. -/
def index (items : List (Value Host)) : Option (Value Host) → Value Host
  | some (.number index) => ((position? index).bind (items[·]?)).getD .null
  | _ => .null

/-- The vector with one more element at its end. -/
def append (item : Value Host) (items : List (Value Host)) : List (Value Host) := items ++ [item]

/-! ## Nesting -/

mutual

/-- The levels of vectors and lists in a value. -/
def nestingDepth : Value Host → Nat
  | .vector items => deepest items + 1
  | .list items => deepest items + 1
  | _ => 0

/-- The greatest number of levels in one of several values. -/
def deepest : List (Value Host) → Nat
  | [] => 0
  | first :: rest => max (nestingDepth first) (deepest rest)

end

/-- Fails when a vector or list of the given elements would have too many levels. -/
def checkNesting (elements : List (Value Host)) : Except Error Unit :=
  if maxNesting < deepest elements + 1 then .error (.nestingTooDeep maxNesting) else .ok ()

end Value
end Lisplet
