import Lisplet.Environment.Basic

/-!
# Actions

An operation does not run anything by itself. Given its arguments it says what is to happen, as an
action: end with a value or with an error, print values and go on, or call a value and go on with
the result. Actions that go on with one another are sequenced by `Action.bind`, which is associative
(`Action.bind_assoc`) and leaves an action alone that it follows with nothing (`Action.bind_done`).
-/

set_option autoImplicit false

namespace Lisplet

/-- What an operation asks for. -/
inductive Action (Host : Type) where
  /-- The operation ends with a value. -/
  | done (value : Value Host)
  /-- The operation ends with an error. -/
  | fail (error : Error)
  /-- Values are printed, then the action goes on. -/
  | print (sink : Sink) (values : List (Value Host)) (next : Action Host)
  /-- A value is called at the place where the operation was called, then the action goes on with
  the result. -/
  | call (callee : Value Host) (arguments : List (Value Host)) (next : Value Host → Action Host)

/-- What the operations of a host do, given the environment of the call and its arguments. -/
abbrev Handler (Host : Type) := Host → Environment Host → List (Value Host) → Action Host

/-- Without operations of a host there is nothing to do. -/
def noHost : Handler Empty := nofun

namespace Action

variable {Host : Type}

/-- The action that ends at once. -/
def ofExcept : Except Error (Value Host) → Action Host
  | .ok value => .done value
  | .error error => .fail error

/-- The action that goes on with what was computed, or ends with the error. -/
def withResult {α : Type} (result : Except Error α) (next : α → Action Host) : Action Host :=
  match result with
  | .ok value => next value
  | .error error => .fail error

/-- One action after another. -/
def bind (next : Value Host → Action Host) : Action Host → Action Host
  | .done value => next value
  | .fail error => .fail error
  | .print sink values rest => .print sink values (rest.bind next)
  | .call callee arguments rest => .call callee arguments fun value => (rest value).bind next

theorem bind_done (action : Action Host) : action.bind .done = action := by
  induction action with
  | done _ => rfl
  | fail _ => rfl
  | print sink values rest ih => simp [bind, ih]
  | call callee arguments rest ih => simp [bind, ih]

theorem bind_assoc (action : Action Host) (next last : Value Host → Action Host) :
    (action.bind next).bind last = action.bind fun value => (next value).bind last := by
  induction action with
  | done _ => rfl
  | fail _ => rfl
  | print sink values rest ih => simp [bind, ih]
  | call callee arguments rest ih => simp [bind, ih]

/-- A value is called on what has been gathered so far and on each item in turn; the result is what
is gathered next. -/
def fold (reducer : Value Host) : Value Host → List (Value Host) → Action Host
  | gathered, [] => .done gathered
  | gathered, item :: items =>
      .call reducer [gathered, item] fun next => fold reducer next items

/-- Folding over one list after another is folding over both. -/
theorem fold_append (reducer gathered : Value Host) (front back : List (Value Host)) :
    fold reducer gathered (front ++ back) =
      (fold reducer gathered front).bind fun middle => fold reducer middle back := by
  induction front generalizing gathered with
  | nil => rfl
  | cons item items ih => simp [fold, bind, ih]

end Action
end Lisplet
