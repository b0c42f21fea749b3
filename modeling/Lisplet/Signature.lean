import Lisplet.Value.Printer

/-!
# Signatures

Most operations are functions on numbers, vectors and values. A signature says what each argument
has to be, and turns such a function into one on lists of values: the number of arguments is checked
first, then the arguments are read from left to right, and the first that is not what it has to be
is the error.

The signature of a function with a fixed number of parameters is a list of kinds (`applyFixed`). A
function of all its arguments, or of a first argument and all the others, has one kind for them
(`applyRest`, `applyFirstRest`); how many it takes is stated apart from it.
-/

set_option autoImplicit false

namespace Lisplet

/-- What an argument has to be. -/
inductive Kind where
  /-- Any value. -/
  | any
  /-- A number. -/
  | number
  /-- A vector. -/
  | vector
  deriving DecidableEq, Repr

namespace Kind

variable {Host : Type}

/-- What a function gets for an argument of a kind. -/
abbrev Carrier (Host : Type) : Kind → Type
  | .any => Value Host
  | .number => Float
  | .vector => List (Value Host)

/-- Reads an argument. -/
def read : (kind : Kind) → Value Host → Except Error (kind.Carrier Host)
  | .any, value => .ok value
  | .number, value => value.number?
  | .vector, value => value.vector?

/-- Reads arguments of one kind, and fails at the first that is of another. -/
def readAll (kind : Kind) : List (Value Host) → Except Error (List (kind.Carrier Host))
  | [] => .ok []
  | first :: rest =>
      match kind.read first with
      | .error error => .error error
      | .ok value =>
          match kind.readAll rest with
          | .error error => .error error
          | .ok values => .ok (value :: values)

end Kind

namespace Signature

variable {Host : Type}

/-- Functions of arguments of the given kinds. -/
abbrev Fixed (Host : Type) : List Kind → Type
  | [] => Except Error (Value Host)
  | kind :: kinds => kind.Carrier Host → Fixed Host kinds

/-- Reads as many arguments as there are kinds and gives them to a function; too few are the given
error. -/
def readFixed (tooFew : Error) :
    (kinds : List Kind) → Fixed Host kinds → List (Value Host) → Except Error (Value Host)
  | [], result, _ => result
  | _ :: _, _, [] => .error tooFew
  | kind :: kinds, function, first :: rest =>
      match kind.read first with
      | .error error => .error error
      | .ok value => readFixed tooFew kinds (function value) rest

/-- A function of a fixed number of arguments, called on a list of values. -/
def applyFixed (name : String) (kinds : List Kind) (function : Fixed Host kinds)
    (arguments : List (Value Host)) : Except Error (Value Host) :=
  let mismatch := .arity name (.exactly kinds.length) arguments.length
  if arguments.length = kinds.length then readFixed mismatch kinds function arguments
  else .error mismatch

/-- A function of any number of arguments of one kind, called on a list of values. -/
def applyRest (rest : Kind) (function : List (rest.Carrier Host) → Except Error (Value Host))
    (arguments : List (Value Host)) : Except Error (Value Host) :=
  (rest.readAll arguments).bind function

/-- A function of a first argument and any number of others of one kind, called on a list of
values. -/
def applyFirstRest (name : String) (first rest : Kind)
    (function : first.Carrier Host → List (rest.Carrier Host) → Except Error (Value Host)) :
    List (Value Host) → Except Error (Value Host)
  | [] => .error (.arity name (.atLeast 1) 0)
  | head :: tail =>
      (first.read head).bind fun value => (rest.readAll tail).bind fun values =>
        function value values

end Signature
end Lisplet
