import Lisplet.Action

/-!
# Runs

A run is what can be seen of a computation: everything that it prints, in order, and whether it ends
with a result or with an error. Runs are sequenced by `Run.bind`: the second one starts with the
result of the first and prints after it, and an error ends both. What was printed before an error
stays.
-/

set_option autoImplicit false

namespace Lisplet

/-- The arguments of one call of `print`, and where they went. -/
structure Printed (Host : Type) where
  sink : Sink
  values : List (Value Host)

/-- What a computation prints, and how it ends. -/
structure Run (Host : Type) (α : Type) where
  printed : List (Printed Host)
  outcome : Except Error α

namespace Run

variable {Host α β γ : Type}

/-- The run that prints nothing and ends with a result. -/
def ok (result : α) : Run Host α := ⟨[], .ok result⟩

/-- The run that prints nothing and ends with an error. -/
def fail (error : Error) : Run Host α := ⟨[], .error error⟩

/-- The run that prints nothing and ends as given. -/
def ofExcept (outcome : Except Error α) : Run Host α := ⟨[], outcome⟩

/-- One run after another. -/
@[inline] def bind (first : Run Host α) (next : α → Run Host β) : Run Host β :=
  match first.outcome with
  | .error error => ⟨first.printed, .error error⟩
  | .ok result =>
      let second := next result
      ⟨first.printed ++ second.printed, second.outcome⟩

/-- A run with its result changed. -/
@[inline] def map (change : α → β) (run : Run Host α) : Run Host β :=
  ⟨run.printed, run.outcome.map change⟩

/-- A run that prints something first. -/
@[inline] def afterPrinting (printed : Printed Host) (run : Run Host α) : Run Host α :=
  ⟨printed :: run.printed, run.outcome⟩

/-- A run with its error changed. -/
@[inline] def mapError (change : Error → Error) (run : Run Host α) : Run Host α :=
  ⟨run.printed, run.outcome.mapError change⟩

@[simp] theorem ok_bind (result : α) (next : α → Run Host β) :
    (ok result).bind next = next result :=
  rfl

@[simp] theorem fail_bind (error : Error) (next : α → Run Host β) :
    (fail error).bind next = fail error := rfl

theorem bind_assoc (first : Run Host α) (next : α → Run Host β) (last : β → Run Host γ) :
    (first.bind next).bind last = first.bind fun result => (next result).bind last := by
  obtain ⟨printed, outcome⟩ := first
  cases outcome with
  | error _ => rfl
  | ok result =>
      simp only [bind]
      cases (next result).outcome <;> simp

end Run

namespace Action

variable {Host : Type}

/-- Carries out an action, given how a value is called. -/
def run (call : Value Host → List (Value Host) → Run Host (Value Host)) :
    Action Host → Run Host (Value Host)
  | .done value => .ok value
  | .fail error => .fail error
  | .print sink values next => (next.run call).afterPrinting ⟨sink, values⟩
  | .call callee arguments next => (call callee arguments).bind fun value => (next value).run call

end Action
end Lisplet
