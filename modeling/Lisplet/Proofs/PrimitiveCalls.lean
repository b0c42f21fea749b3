import Lisplet.Environment.Global
import Lisplet.Proofs.Bindings
import Lisplet.Proofs.Forms
import Lisplet.Proofs.Nesting

/-!
# Calls of the primitives

What a call of a primitive on as many arguments as it takes comes to, at any place: the place
matters only to `reduce`, which calls its first argument there.
-/

set_option autoImplicit false

namespace Lisplet

variable {Host : Type}

theorem Value.checkNesting_singleton (item : Value Host) :
    checkNesting [item] =
      if item.nestingDepth < maxNesting then .ok () else .error (.nestingTooDeep maxNesting) := by
  rw [checkNesting_eq, deepest_singleton]

theorem Kind.readAll_any (values : List (Value Host)) : Kind.any.readAll values = .ok values := by
  induction values with
  | nil => rfl
  | cons first rest ih => rw [readAll, ih]; rfl

theorem Action.run_ofExcept (call : Value Host → List (Value Host) → Run Host (Value Host))
    (outcome : Except Error (Value Host)) : (ofExcept outcome).run call = .ofExcept outcome := by
  cases outcome <;> rfl

/-- Whether a value is less than another one. Both have to be numbers; the first that is not one is
the error. -/
def Value.less? (left right : Value Host) : Except Error Bool :=
  left.number?.bind fun left => right.number?.map fun right => decide (left < right)

/-- The global environment binds each primitive to its name. -/
theorem value?_globalEnvironment (sink : Sink) (primitive : Primitive) :
    (globalEnvironment sink : Environment Host).value? primitive.id = some primitive.toValue := by
  cases primitive <;>
    simp [globalEnvironment, Environment.redirect, Environment.bindBuiltin, Environment.value?_bind,
      Primitive.all, Primitive.id, Operation.printId]

namespace Evaluation

variable (setting : Setting Host) (body : Evaluator Host) (environment : Environment Host)

theorem call_not (value : Value Host) :
    call setting body maxChain environment Primitive.not.toValue [value] =
      .ok (.bool !value.isTruthy) := rfl

theorem call_equal (left right : Value Host) :
    call setting body maxChain environment Primitive.equal.toValue [left, right] =
      .ok (.bool (right.equal left)) := by
  show Run.ok (Value.bool (right.equal left && true)) = _
  rw [Bool.and_true]

/-- Any number of arguments are compared with the first of them. -/
theorem call_equalAll (chain : Nat) (arguments : List (Value Host)) :
    call setting body (chain + 1) environment Primitive.equal.toValue arguments =
      .ok (.bool (Value.allEqual arguments)) := by
  show (Action.ofExcept (Except.bind (Kind.any.readAll arguments) _)).run _ = _
  rw [Kind.readAll_any]
  rfl

theorem call_less (left right : Value Host) :
    call setting body maxChain environment Primitive.less.toValue [left, right] =
      .ofExcept ((left.less? right).map .bool) := by
  cases left with
  | number _ => cases right <;> rfl
  | null | bool _ | symbol _ | vector _ | list _ | function _ _ | builtin _ _ => rfl

/-- Any number of arguments are the elements of a vector, if that does not have too many levels. -/
theorem call_arrayOf (chain : Nat) (items : List (Value Host)) :
    call setting body (chain + 1) environment Primitive.arrayOf.toValue items =
      .ofExcept (Primitive.makeVector items) := by
  have read : call setting body (chain + 1) environment Primitive.arrayOf.toValue items =
      (Action.ofExcept ((Kind.any.readAll items).bind Primitive.makeVector)).run
        (call setting body chain environment) := rfl
  rw [read, Kind.readAll_any]
  exact Action.run_ofExcept _ (Primitive.makeVector items)

/-- `append` counts the levels of the new element only. -/
theorem call_appendAt (chain : Nat) (item : Value Host) (items : List (Value Host)) :
    call setting body (chain + 1) environment Primitive.append.toValue [item, .vector items] =
      .ofExcept (Primitive.extendVector item items) := by
  have extended : call setting body (chain + 1) environment Primitive.append.toValue
      [item, .vector items] =
      (Action.ofExcept (Primitive.extendVector item items)).run
        (call setting body chain environment) := rfl
  rw [extended, Action.run_ofExcept]

theorem call_append (item : Value Host) (items : List (Value Host)) :
    call setting body maxChain environment Primitive.append.toValue [item, .vector items] =
      .ofExcept ((Value.checkNesting [item]).map fun _ => .vector (items ++ [item])) :=
  call_appendAt setting body environment (maxChain - 1) item items

/-- A fold with a value that can be called calls it at the place of the call of `reduce`. -/
theorem call_reduce (chain : Nat) {reducer : Value Host} (callable : reducer.isCallable = true)
    (seed : Value Host) (items : List (Value Host)) :
    call setting body (chain + 1) environment Primitive.reduce.toValue
      [reducer, seed, .vector items] =
      (Action.fold reducer seed items).run (call setting body chain environment) := by
  have performed : (Primitive.reduce.perform [reducer, seed, .vector items] : Action Host) =
      Action.fold reducer seed items := if_pos callable
  show (Primitive.reduce.perform [reducer, seed, .vector items]).run _ = _
  rw [performed]

end Evaluation
end Lisplet
