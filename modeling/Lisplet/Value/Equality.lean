import Lisplet.Value.Basic

/-!
# Equality of values

Two values are equal when they have the same kind and the same content. Numbers are compared as
numbers: the two zeros are equal and NaN differs from itself. Functions are
equal when they have the same parameters and the same body. Builtins are compared by their names. A
vector never equals a list.
-/

set_option autoImplicit false

namespace Lisplet.Value

variable {Host : Type}

mutual

/-- Whether two values are equal. -/
def equal : Value Host → Value Host → Bool
  | .null, .null => true
  | .number left, .number right => left == right
  | .bool left, .bool right => left == right
  | .symbol left, .symbol right => left == right
  | .vector left, .vector right => equalAll left right
  | .list left, .list right => equalAll left right
  | .function leftParameters leftBody, .function rightParameters rightBody =>
      leftParameters == rightParameters && leftBody.equal rightBody
  | .builtin left _, .builtin right _ => left == right
  | _, _ => false

/-- Whether two lists of values have the same length and equal members. -/
def equalAll : List (Value Host) → List (Value Host) → Bool
  | [], [] => true
  | left :: lefts, right :: rights => equal left right && equalAll lefts rights
  | _, _ => false

end

/-- There are two values at least, and all equal the first. -/
def allEqual : List (Value Host) → Bool
  | first :: second :: rest => (second :: rest).all (equal · first)
  | _ => false

end Lisplet.Value
