import Lisplet.Run

/-!
# Laws of runs

How the operations on runs go together. `Run.bind` is associative (`Run.bind_assoc`), and a run that
goes on with its result and nothing else is the same run (`Run.bind_ok`). A change of the result or
of the error of two runs in sequence is a change in each of them (`Run.map_bind`,
`Run.mapError_bind`). How a sequence ends is told by how its parts end (`Run.bind_eq_ok_iff`,
`Run.bind_eq_error_iff`).
-/

set_option autoImplicit false

namespace Lisplet.Run

variable {Host α β γ : Type}

theorem bind_ok (run : Run Host α) : run.bind .ok = run := by
  obtain ⟨printed, outcome⟩ := run
  cases outcome with
  | error _ => rfl
  | ok result => exact congrArg (Run.mk · (.ok result)) (List.append_nil printed)

/-- A run that succeeds is followed by the next one, which prints after it. -/
theorem bind_of_ok {run : Run Host α} {result : α} (succeeds : run.outcome = .ok result)
    (next : α → Run Host β) :
    run.bind next = ⟨run.printed ++ (next result).printed, (next result).outcome⟩ := by
  rw [bind, succeeds]

/-- A run that fails is not followed by anything. -/
theorem bind_of_error {run : Run Host α} {error : Error} (fails : run.outcome = .error error)
    (next : α → Run Host β) : run.bind next = ⟨run.printed, .error error⟩ := by
  rw [bind, fails]

theorem bind_afterPrinting (printed : Printed Host) (run : Run Host α) (next : α → Run Host β) :
    (run.afterPrinting printed).bind next = (run.bind next).afterPrinting printed := by
  obtain ⟨earlier, outcome⟩ := run
  cases outcome <;> rfl

/-- What the first run prints stays, however it goes on. -/
theorem printed_prefix_bind (first : Run Host α) (next : α → Run Host β) :
    first.printed <+: (first.bind next).printed := by
  obtain ⟨printed, outcome⟩ := first
  cases outcome with
  | error _ => exact List.prefix_rfl
  | ok result => exact List.prefix_append printed _

/-! ## Changed results -/

@[simp] theorem map_ok (change : α → β) (result : α) :
    (ok result : Run Host α).map change = .ok (change result) := rfl

theorem map_id (run : Run Host α) : (run.map fun result => result) = run := by
  obtain ⟨printed, outcome⟩ := run
  cases outcome <;> rfl

theorem map_eq_bind (run : Run Host α) (change : α → β) :
    run.map change = run.bind fun result => .ok (change result) := by
  obtain ⟨printed, outcome⟩ := run
  cases outcome with
  | error _ => rfl
  | ok result => exact congrArg (Run.mk · (.ok (change result))) (List.append_nil printed).symm

theorem map_map (run : Run Host α) (change : α → β) (further : β → γ) :
    (run.map change).map further = run.map (further ∘ change) := by
  obtain ⟨printed, outcome⟩ := run
  cases outcome <;> rfl

theorem bind_map (run : Run Host α) (change : α → β) (next : β → Run Host γ) :
    (run.map change).bind next = run.bind fun result => next (change result) := by
  obtain ⟨printed, outcome⟩ := run
  cases outcome <;> rfl

theorem map_bind (run : Run Host α) (next : α → Run Host β) (change : β → γ) :
    (run.bind next).map change = run.bind fun result => (next result).map change := by
  obtain ⟨printed, outcome⟩ := run
  cases outcome <;> rfl

/-! ## Changed errors -/

@[simp] theorem mapError_ok (result : α) (change : Error → Error) :
    (ok result : Run Host α).mapError change = .ok result := rfl

theorem mapError_bind (run : Run Host α) (next : α → Run Host β) (change : Error → Error) :
    (run.bind next).mapError change =
      (run.mapError change).bind fun reached => (next reached).mapError change := by
  obtain ⟨printed, outcome⟩ := run
  cases outcome <;> rfl

theorem mapError_map (run : Run Host α) (further : α → β) (change : Error → Error) :
    (run.map further).mapError change = (run.mapError change).map further := by
  obtain ⟨printed, outcome⟩ := run
  cases outcome <;> rfl

theorem mapError_mapError (run : Run Host α) (first second : Error → Error) :
    (run.mapError first).mapError second = run.mapError (second ∘ first) := by
  obtain ⟨printed, outcome⟩ := run
  cases outcome <;> rfl

/-- Of two forms that errors get, the first one stays. -/
theorem mapError_inForm_inForm (run : Run Host α) (inner outer : Expr) :
    (run.mapError (Error.inForm inner)).mapError (Error.inForm outer) =
      run.mapError (Error.inForm inner) := by
  rw [mapError_mapError]
  exact congrArg (run.mapError ·) (funext (Error.inForm_inForm inner outer))

/-! ## How a run ends -/

section Ends

variable {run : Run Host α} {printed : List (Printed Host)}

theorem map_eq_ok_iff {change : α → β} {result : β} :
    run.map change = ⟨printed, .ok result⟩ ↔
      ∃ reached, run = ⟨printed, .ok reached⟩ ∧ change reached = result := by
  obtain ⟨first, outcome⟩ := run
  constructor
  · intro ends
    cases outcome with
    | error _ => cases ends
    | ok reached =>
        cases ends
        exact ⟨reached, rfl, rfl⟩
  · rintro ⟨reached, ⟨⟩, rfl⟩
    rfl

theorem map_eq_error_iff {change : α → β} {error : Error} :
    run.map change = ⟨printed, .error error⟩ ↔ run = ⟨printed, .error error⟩ := by
  obtain ⟨first, outcome⟩ := run
  constructor
  · intro ends
    cases outcome with
    | error _ =>
        cases ends
        rfl
    | ok _ => cases ends
  · rintro ⟨⟩
    rfl

/-- Two runs in sequence succeed when both do. -/
theorem bind_eq_ok_iff {next : α → Run Host β} {result : β} :
    run.bind next = ⟨printed, .ok result⟩ ↔
      ∃ earlier reached later, run = ⟨earlier, .ok reached⟩ ∧
        next reached = ⟨later, .ok result⟩ ∧ printed = earlier ++ later := by
  obtain ⟨first, outcome⟩ := run
  constructor
  · intro ends
    cases outcome with
    | error _ => cases ends
    | ok reached =>
        obtain ⟨rfl, succeeds⟩ := mk.inj ends
        exact ⟨first, reached, (next reached).printed, rfl, by rw [← succeeds], rfl⟩
  · rintro ⟨_, reached, _, ⟨⟩, succeeds, rfl⟩
    rw [bind_of_ok rfl, succeeds]

/-- They fail when the first one fails, or the second one after the first. -/
theorem bind_eq_error_iff {next : α → Run Host β} {error : Error} :
    run.bind next = ⟨printed, .error error⟩ ↔
      run = ⟨printed, .error error⟩ ∨
        ∃ earlier reached later, run = ⟨earlier, .ok reached⟩ ∧
          next reached = ⟨later, .error error⟩ ∧ printed = earlier ++ later := by
  obtain ⟨first, outcome⟩ := run
  constructor
  · intro ends
    cases outcome with
    | error _ =>
        cases ends
        exact .inl rfl
    | ok reached =>
        obtain ⟨rfl, fails⟩ := mk.inj ends
        exact .inr ⟨first, reached, (next reached).printed, rfl, by rw [← fails], rfl⟩
  · rintro (fails | ⟨_, reached, _, ⟨⟩, fails, rfl⟩)
    · rw [fails]
      rfl
    · rw [bind_of_ok rfl, fails]

end Ends

end Lisplet.Run
