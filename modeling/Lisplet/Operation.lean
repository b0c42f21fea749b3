/-!
# Operations

An operation is what a builtin value does when it is called. The language has the primitives and
`print`; an embedding program may add operations of its own, which are the members of a type `Host`
of its choosing. Over an empty `Host` there is nothing but the language itself.

This module only names the operations. What the primitives do is the subject of
`Lisplet.Primitive`.
-/

set_option autoImplicit false

namespace Lisplet

/-- The primitive operations of the language. -/
inductive Primitive where
  | add
  | multiply
  | subtract
  | divide
  | power
  | less
  | not
  | equal
  | arrayOf
  | append
  | reduce
  deriving DecidableEq, Repr

/-- The name that a primitive is bound to. -/
def Primitive.id : Primitive → String
  | .add => "+"
  | .multiply => "*"
  | .subtract => "-"
  | .divide => "/"
  | .power => "^"
  | .less => "<"
  | .not => "not"
  | .equal => "="
  | .arrayOf => "arrayOf"
  | .append => "append"
  | .reduce => "reduce"

/-- Where `print` sends its arguments. -/
inductive Sink where
  /-- To the console, one line of text for every call. -/
  | console
  /-- To a log that keeps the values themselves. -/
  | log
  deriving DecidableEq, Repr

/-- What a builtin value does when it is called. -/
inductive Operation (Host : Type) where
  | primitive (primitive : Primitive)
  | print (sink : Sink)
  | host (operation : Host)

end Lisplet
