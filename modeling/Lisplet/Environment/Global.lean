import Lisplet.Primitive

/-!
# The global environment

The environment in which programs start: the two truth values, the primitives and `print`.
-/

set_option autoImplicit false

namespace Lisplet

variable {Host : Type}

/-- The environment with `print` sent to a sink. -/
def Environment.redirect (environment : Environment Host) (sink : Sink) : Environment Host :=
  environment.bindBuiltin Operation.printId (.print sink)

/-- The environment of the language, with `print` sent to a sink. -/
def globalEnvironment (sink : Sink) : Environment Host :=
  let truth := (Environment.empty.bind "true" (.bool true)).bind "false" (.bool false)
  let primitives := Primitive.all.foldl
    (fun environment primitive => environment.bind primitive.id primitive.toValue) truth
  primitives.redirect sink

end Lisplet
