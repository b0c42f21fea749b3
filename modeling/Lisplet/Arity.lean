/-!
# Arities

An arity says which numbers of arguments an operation takes.
-/

set_option autoImplicit false

namespace Lisplet

/-- The numbers of arguments that an operation takes. -/
inductive Arity where
  /-- Exactly this many. -/
  | exactly (count : Nat)
  /-- This many or more. -/
  | atLeast (count : Nat)
  /-- From the first number to the second, both included. -/
  | between (least most : Nat)
  /-- Any number. -/
  | any
  deriving DecidableEq, Repr

namespace Arity

/-- Whether an operation of this arity takes the given number of arguments. -/
def accepts : Arity → Nat → Bool
  | .exactly expected, count => count == expected
  | .atLeast least, count => least ≤ count
  | .between least most, count => least ≤ count && count ≤ most
  | .any, _ => true

/-- How an error message names the arity. -/
def display : Arity → String
  | .exactly count => toString count
  | .atLeast count => "at least " ++ toString count
  | .between least most => toString least ++ " to " ++ toString most
  | .any => "any number of"

/-- The arity with its kind spelled out. -/
def inspect : Arity → String
  | .exactly count => "Exact(" ++ toString count ++ ")"
  | .atLeast count => "AtLeast(" ++ toString count ++ ")"
  | .between least most => "Range(" ++ toString least ++ ", " ++ toString most ++ ")"
  | .any => "Any"

end Arity
end Lisplet
