import Lisplet.Action
import Lisplet.Signature
import Lisplet.Value.Equality

/-!
# The primitive operations

Every primitive has an arity, which is checked before anything else. The arithmetic ones take
numbers and follow IEEE arithmetic: `+` and `*` gather from 0 and from 1, the others from their
first argument, so that a single argument comes back unchanged. `reduce` is the only one that calls
anything.

`Primitive.all` lists the primitives in the order in which an environment registers them.
-/

set_option autoImplicit false

namespace Lisplet

namespace Primitive

variable {Host : Type}

/-- The primitives, in the order of registration. -/
def all : List Primitive :=
  [.add, .multiply, .subtract, .divide, .power, .less, .not, .equal, .arrayOf, .append, .reduce]

/-- The numbers of arguments that a primitive takes. -/
def arity : Primitive → Arity
  | .add => .any
  | .multiply => .any
  | .subtract => .atLeast 1
  | .divide => .atLeast 1
  | .power => .atLeast 1
  | .less => .exactly 2
  | .not => .exactly 1
  | .equal => .any
  | .arrayOf => .any
  | .append => .exactly 2
  | .reduce => .exactly 3

/-- The primitive of a given name. -/
def ofId? (id : String) : Option Primitive := all.find? fun primitive => primitive.id == id

/-- The value that a primitive is. -/
def toValue (primitive : Primitive) : Value Host := .builtin primitive.id (.primitive primitive)

/-- A primitive with its name and its arity spelled out. -/
def inspect (primitive : Primitive) : String :=
  "BuiltinOp \x7b id: " ++ Text.quote primitive.id ++ ", arity: " ++ primitive.arity.inspect ++
    ", .. \x7d"

/-- Numbers gathered from a start by an operation on two of them. -/
def gather (step : Float → Float → Float) (start : Float) (numbers : List Float) :
    Except Error (Value Host) :=
  .ok (.number (numbers.foldl step start))

/-- A vector of the given elements, unless it would have too many levels. -/
def makeVector (items : List (Value Host)) : Except Error (Value Host) :=
  (Value.checkNesting items).map fun _ => .vector items

/-- A vector with one more element. Only the new element can add a level, so only its levels are
counted. -/
def extendVector (item : Value Host) (items : List (Value Host)) : Except Error (Value Host) :=
  (Value.checkNesting [item]).map fun _ => .vector (Value.append item items)

/-- What `reduce` does: the first argument has to be callable and the third a vector. -/
def reduction : List (Value Host) → Action Host
  | [reducer, seed, items] =>
      if reducer.isCallable then
        .withResult items.vector? fun items => .fold reducer seed items
      else .fail (.ofFault (.notReducer reducer.describe))
  | arguments => .fail (.arity (id .reduce) (.exactly 3) arguments.length)

theorem reduction_of_length_ne {arguments : List (Value Host)} (other : arguments.length ≠ 3) :
    reduction arguments = .fail (.arity (id .reduce) (.exactly 3) arguments.length) := by
  unfold reduction
  split
  · exact absurd rfl other
  · rfl

open Signature in
/-- What a primitive does with a number of arguments that it takes. -/
def body : Primitive → List (Value Host) → Action Host
  | .add, arguments => .ofExcept (applyRest .number (gather (· + ·) 0) arguments)
  | .multiply, arguments => .ofExcept (applyRest .number (gather (· * ·) 1) arguments)
  | .subtract, arguments =>
      .ofExcept (applyFirstRest (id .subtract) .number .number (gather (· - ·)) arguments)
  | .divide, arguments =>
      .ofExcept (applyFirstRest (id .divide) .number .number (gather (· / ·)) arguments)
  | .power, arguments =>
      .ofExcept (applyFirstRest (id .power) .number .number (gather Float.pow) arguments)
  | .less, arguments =>
      .ofExcept (applyFixed (id .less) [.number, .number]
        (fun left right => .ok (.bool (left < right))) arguments)
  | .not, arguments =>
      .ofExcept (applyFixed (id .not) [.any]
        (fun value => .ok (.bool !Value.isTruthy value)) arguments)
  | .equal, arguments =>
      .ofExcept (applyRest .any (fun values => .ok (.bool (Value.allEqual values))) arguments)
  | .arrayOf, arguments => .ofExcept (applyRest .any makeVector arguments)
  | .append, arguments =>
      .ofExcept (applyFixed (id .append) [.any, .vector] extendVector arguments)
  | .reduce, arguments => reduction arguments

/-- What a primitive does with any arguments. -/
def perform (primitive : Primitive) (arguments : List (Value Host)) : Action Host :=
  .withResult (primitive.arity.validate primitive.id arguments.length) fun _ =>
    primitive.body arguments

end Primitive

namespace Operation

variable {Host : Type}

/-- The name that `print` is bound to. -/
def printId : String := "print"

/-- What `print` does: it prints its arguments and returns them as a list, unless that list would
have too many levels. -/
def printing (sink : Sink) (arguments : List (Value Host)) : Action Host :=
  .withResult (Value.checkNesting arguments) fun _ =>
    .print sink arguments (.done (.list arguments))

/-- What an operation does, given the environment of the call and its arguments. -/
def perform (handler : Handler Host) (environment : Environment Host) :
    Operation Host → List (Value Host) → Action Host
  | .primitive called, arguments => called.perform arguments
  | .print sink, arguments => printing sink arguments
  | .host called, arguments => handler called environment arguments

end Operation
end Lisplet
