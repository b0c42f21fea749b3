import Lisplet.Host.Embedding
import Lisplet.Program

/-!
# A sample host

A host that adds an operation of every shape to the language: with a fixed number of arguments, with
a rest, without a signature, and with a view of the place of the call. One more operation, `relay`,
calls a value that is fixed beforehand, so that a host can call any value as a form would.
-/

set_option autoImplicit false

namespace Lisplet.Sample

/-- The operations of the sample host. -/
inductive Extra where
  | raw
  | zero
  | double
  | type
  | less
  | at
  | four
  | count
  | scale
  | tail
  | call
  | get
  | relay
  deriving DecidableEq, Repr

/-- The name that an operation is bound to. -/
def Extra.id : Extra → String
  | .raw => "h-raw"
  | .zero => "h-zero"
  | .double => "h-double"
  | .type => "h-type"
  | .less => "h-less"
  | .at => "h-at"
  | .four => "h-four"
  | .count => "h-count"
  | .scale => "h-scale"
  | .tail => "h-tail"
  | .call => "h-call"
  | .get => "h-get"
  | .relay => "call-op"

/-- The operations that the environment of the sample host binds. -/
def Extra.registered : List Extra :=
  [.raw, .zero, .double, .type, .less, .at, .four, .count, .scale, .tail, .call, .get]

/-- A value that is to be called on arguments. -/
structure Request where
  callee : Value Extra
  arguments : List (Value Extra)

/-- A function of a rest, with the numbers of arguments that it takes. -/
def declared (operation : Extra) (arity : Arity)
    (function : List (Value Extra) → Except Error (Value Extra)) (arguments : List (Value Extra)) :
    Action Extra :=
  .withResult (arity.validate operation.id arguments.length) fun _ => .ofExcept (function arguments)

open Signature in
/-- What the operations do; `relay` calls what was requested. -/
def handler (request : Request) : Handler Extra
  | .raw, _, arguments =>
      match arguments with
      | first :: _ => .done first
      | [] => .fail (.ofFault (.stated "h-raw needs an argument"))
  | .zero, _, arguments =>
      .ofExcept (applyFixed (Extra.id .zero) []
        (.ok (Embeds.toValue (42 : Int32))) arguments)
  | .double, _, arguments =>
      .ofExcept (applyFixed (Extra.id .double) [.number]
        (fun number => .ok (.number (number * 2))) arguments)
  | .type, _, arguments =>
      .ofExcept (applyFixed (Extra.id .type) [.any]
        (fun value => .ok (.symbol (Value.typeName value))) arguments)
  | .less, _, arguments =>
      .ofExcept (applyFixed (Extra.id .less) [.number, .number]
        (fun left right => .ok (.bool (left < right))) arguments)
  | .at, _, arguments =>
      .ofExcept (applyFixed (Extra.id .at) [.vector, .any, .any]
        (fun items index otherwise =>
          .ok (match Value.index items (some index) with
            | .null => otherwise
            | found => found)) arguments)
  | .four, _, arguments =>
      .ofExcept (applyFixed (Extra.id .four) [.any, .number, .vector, .any]
        (fun first number items last =>
          .ok (.vector [first, .number number, .vector items, last])) arguments)
  | .count, _, arguments =>
      declared .count (.between 1 3)
        (applyRest .any fun values => .ok (Embeds.toValue (UInt32.ofNat values.length))) arguments
  | .scale, _, arguments =>
      declared .scale .any
        (applyFirstRest (Extra.id .scale) .number .number fun factor numbers =>
          .ok (.vector (numbers.map fun number => .number (number * factor)))) arguments
  | .tail, _, arguments =>
      declared .tail (.atLeast 2)
        (applyFirstRest (Extra.id .tail) .any .any fun _ values => .ok (.vector values)) arguments
  | .call, _, arguments =>
      match arguments with
      | [callee, items] => .withResult items.vector? fun items => .call callee items .done
      | _ => .fail (.arity (Extra.id .call) (.exactly 2) arguments.length)
  | .get, environment, arguments =>
      match arguments with
      | [.symbol name] => .done ((environment.value? name).getD .null)
      | _ => .fail (.ofFault (.stated "h-get needs a symbol"))
  | .relay, _, _ => .call request.callee request.arguments .done

/-- The handler of a host that has requested nothing. -/
def idle : Handler Extra := handler ⟨.null, []⟩

/-- An environment with the operations of the sample host bound. -/
def register (environment : Environment Extra) : Environment Extra :=
  Extra.registered.foldl
    (fun environment extra => environment.bindBuiltin extra.id (.host extra)) environment

/-- Calls a value, as the form with the `relay` operation alone does. -/
def callRequested (limit : Nat) (environment : Environment Extra) (request : Request) :
    Run Extra (Value Extra) :=
  (evaluate ⟨handler request, limit⟩
    (environment.bindBuiltin (Extra.id .relay) (.host .relay))
    (.form [.symbol (Extra.id .relay)])).map Prod.fst

end Lisplet.Sample
