import Lisplet.Proofs.Runs
import Mathlib.Data.List.Induction

/-!
# One call for each item

Calls are made for the items of a list, one after the other, and each may depend on what the calls
before it gave (`Run.inOrder`). The whole succeeds when every call has been made, and fails with the
first call that fails; either way it has printed what the calls have printed, in their order
(`Run.inOrder_eq_ok_iff`, `Run.inOrder_eq_error_iff`).

A fold is such a sequence of calls, of which it keeps no more than what it gathers
(`Action.run_fold`).
-/

set_option autoImplicit false

namespace Lisplet

namespace Run

variable {Host Item α β : Type}

/-! ## Calls in order -/

section InOrder

variable (call : List (Item × α) → Item → Run Host α)

/-- Calls for one item after the other, each given the items and the results of the calls before
it. -/
def inOrder : List (Item × α) → List Item → Run Host (List (Item × α))
  | calls, [] => .ok calls
  | calls, item :: items =>
      (call calls item).bind fun result => inOrder (calls ++ [(item, result)]) items

/-- Calls that have been made and have succeeded, from the first on, and what they have printed. -/
inductive Performed : List (Item × α) → List (Printed Host) → Prop where
  | none : Performed [] []
  | next {calls : List (Item × α)} {printed : List (Printed Host)} {item : Item} {result : α}
      (before : Performed calls printed) (succeeds : (call calls item).outcome = .ok result) :
      Performed (calls ++ [(item, result)]) (printed ++ (call calls item).printed)

variable {call} {calls : List (Item × α)} {printed : List (Printed Host)}

theorem performed_nil_iff : Performed call [] printed ↔ printed = [] := by
  constructor
  · generalize begun : ([] : List (Item × α)) = calls
    rintro (_ | _)
    · rfl
    · exact absurd begun.symm (List.append_ne_nil_of_right_ne_nil _ (List.cons_ne_nil _ _))
  · rintro rfl
    exact .none

/-- The last call comes after the others. -/
theorem performed_concat_iff {item : Item} {result : α} :
    Performed call (calls ++ [(item, result)]) printed ↔
      ∃ earlier later, Performed call calls earlier ∧ call calls item = ⟨later, .ok result⟩ ∧
        printed = earlier ++ later := by
  constructor
  · generalize whole : calls ++ [(item, result)] = all
    rintro (_ | @⟨before, earlier, last, found, performed, succeeds⟩)
    · exact absurd whole (List.append_ne_nil_of_right_ne_nil _ (List.cons_ne_nil _ _))
    · obtain ⟨rfl, same⟩ := List.append_inj' whole rfl
      cases same
      exact ⟨earlier, (call calls item).printed, performed, by rw [← succeeds], rfl⟩
  · rintro ⟨earlier, later, performed, ran, rfl⟩
    have printedLast : later = (call calls item).printed := by rw [ran]
    rw [printedLast]
    exact .next performed (by rw [ran])

variable (call)

/-- One more item is one more call, with the others before it. -/
theorem inOrder_concat (calls : List (Item × α)) (items : List Item) (last : Item) :
    inOrder call calls (items ++ [last]) =
      (inOrder call calls items).bind fun calls =>
        (call calls last).map fun result => calls ++ [(last, result)] := by
  induction items generalizing calls with
  | nil => exact (map_eq_bind (call calls last) _).symm
  | cons item items ih =>
      rw [List.cons_append, inOrder, inOrder, bind_assoc]
      exact congrArg (bind _) (funext fun result => ih _)

variable {call} {items : List Item}

/-- **The calls succeed when one has been performed for each item.** -/
theorem inOrder_eq_ok_iff :
    inOrder call [] items = ⟨printed, .ok calls⟩ ↔
      Performed call calls printed ∧ calls.map Prod.fst = items := by
  induction items using List.reverseRecOn generalizing calls printed with
  | nil =>
      constructor
      · rintro ⟨⟩
        exact ⟨.none, rfl⟩
      · rintro ⟨performed, noItems⟩
        obtain rfl := List.map_eq_nil_iff.mp noItems
        rw [performed_nil_iff.mp performed]
        rfl
  | append_singleton items last ih =>
      rw [inOrder_concat, bind_eq_ok_iff]
      constructor
      · rintro ⟨earlier, before, later, ran, succeeds, rfl⟩
        obtain ⟨performed, rfl⟩ := ih.mp ran
        obtain ⟨result, lastRan, rfl⟩ := map_eq_ok_iff.mp succeeds
        exact ⟨performed_concat_iff.mpr ⟨earlier, later, performed, lastRan, rfl⟩, by simp⟩
      · rintro ⟨whole, named⟩
        obtain ⟨before, tail, rfl, rfl, ends⟩ := List.map_eq_append_iff.mp named
        obtain ⟨⟨_, result⟩, rfl, rfl⟩ := List.map_eq_singleton_iff.mp ends
        obtain ⟨earlier, later, performed, lastRan, rfl⟩ := performed_concat_iff.mp whole
        refine ⟨earlier, before, later, ih.mpr ⟨performed, rfl⟩, ?_, rfl⟩
        exact map_eq_ok_iff.mpr ⟨result, lastRan, rfl⟩

/-- **The calls fail with the first one that fails**, after those before it have been performed. -/
theorem inOrder_eq_error_iff {error : Error} :
    inOrder call [] items = ⟨printed, .error error⟩ ↔
      ∃ calls item rest earlier later, Performed call calls earlier ∧
        call calls item = ⟨later, .error error⟩ ∧ items = calls.map Prod.fst ++ item :: rest ∧
        printed = earlier ++ later := by
  induction items using List.reverseRecOn generalizing printed with
  | nil =>
      constructor
      · rintro ⟨⟩
      · rintro ⟨_, _, _, _, _, -, -, noItems, -⟩
        exact absurd noItems.symm (List.append_ne_nil_of_right_ne_nil _ (List.cons_ne_nil _ _))
  | append_singleton items last ih =>
      rw [inOrder_concat, bind_eq_error_iff, ih]
      constructor
      · rintro (⟨calls, item, rest, earlier, later, performed, fails, rfl, rfl⟩ |
          ⟨earlier, calls, later, ran, fails, rfl⟩)
        · exact ⟨calls, item, rest ++ [last], earlier, later, performed, fails, by simp, rfl⟩
        · obtain ⟨performed, rfl⟩ := inOrder_eq_ok_iff.mp ran
          exact ⟨calls, last, [], earlier, later, performed, map_eq_error_iff.mp fails, rfl, rfl⟩
      · rintro ⟨calls, item, rest, earlier, later, performed, fails, split, rfl⟩
        -- The call that fails is the last one, or one of those before it.
        induction rest using List.reverseRecOn with
        | nil =>
            obtain ⟨rfl, same⟩ := List.append_inj' split rfl
            cases same
            have ran := inOrder_eq_ok_iff.mpr ⟨performed, rfl⟩
            exact .inr ⟨earlier, calls, later, ran, map_eq_error_iff.mpr fails, rfl⟩
        | append_singleton rest final =>
            rw [← List.cons_append, ← List.append_assoc] at split
            obtain ⟨rfl, -⟩ := List.append_inj' split rfl
            exact .inl ⟨calls, item, rest, earlier, later, performed, fails, rfl, rfl⟩

/-- Errors that a change leaves alone in each call it leaves alone in all of them. -/
theorem mapError_inOrder {change : Error → Error}
    (keeps : ∀ calls item, (call calls item).mapError change = call calls item) :
    (inOrder call calls items).mapError change = inOrder call calls items := by
  induction items generalizing calls with
  | nil => rfl
  | cons item items ih => simp only [inOrder, mapError_bind, keeps, ih]

end InOrder

/-! ## Results that are checked -/

section Checked

variable (check : α → Except Error Unit)

/-- A run whose result is checked. -/
def checked (run : Run Host α) : Run Host α :=
  run.bind fun result => .ofExcept ((check result).map fun _ => result)

variable {check} {run : Run Host α} {printed : List (Printed Host)}

theorem checked_eq_ok_iff {result : α} :
    checked check run = ⟨printed, .ok result⟩ ↔ run = ⟨printed, .ok result⟩ ∧
      check result = .ok () := by
  constructor
  · intro ends
    obtain ⟨earlier, reached, later, ran, passed, rfl⟩ := bind_eq_ok_iff.mp ends
    cases verdict : check reached with
    | error _ =>
        rw [verdict] at passed
        cases passed
    | ok _ =>
        rw [verdict] at passed
        cases passed
        exact ⟨by rw [ran, List.append_nil], verdict⟩
  · rintro ⟨rfl, accepted⟩
    rw [checked, bind_of_ok rfl, accepted]
    exact congrArg (mk · (.ok result)) (List.append_nil printed)

theorem checked_eq_error_iff {error : Error} :
    checked check run = ⟨printed, .error error⟩ ↔
      run = ⟨printed, .error error⟩ ∨
        ∃ result, run = ⟨printed, .ok result⟩ ∧ check result = .error error := by
  rw [checked, bind_eq_error_iff]
  refine or_congr_right ⟨?_, ?_⟩
  · rintro ⟨earlier, reached, later, ran, refused, rfl⟩
    cases verdict : check reached with
    | error _ =>
        rw [verdict] at refused
        cases refused
        exact ⟨reached, by rw [ran, List.append_nil], verdict⟩
    | ok _ =>
        rw [verdict] at refused
        cases refused
  · rintro ⟨result, ran, refused⟩
    exact ⟨printed, result, [], ran, by rw [refused]; rfl, (List.append_nil printed).symm⟩

/-- Calls with checked results have been performed when they have been without the checks, and none
of their results is refused. -/
theorem performed_checked_iff {call : List (Item × α) → Item → Run Host α}
    {calls : List (Item × α)} :
    Performed (fun calls item => checked check (call calls item)) calls printed ↔
      Performed call calls printed ∧ ∀ made ∈ calls, check made.2 = .ok () := by
  induction calls using List.reverseRecOn generalizing printed with
  | nil => simp [performed_nil_iff]
  | append_singleton calls last ih =>
      obtain ⟨item, result⟩ := last
      simp only [performed_concat_iff, ih, checked_eq_ok_iff, List.forall_mem_append,
        List.forall_mem_singleton]
      constructor
      · rintro ⟨earlier, later, ⟨performed, accepted⟩, ⟨ran, alsoAccepted⟩, rfl⟩
        exact ⟨⟨earlier, later, performed, ran, rfl⟩, accepted, alsoAccepted⟩
      · rintro ⟨⟨earlier, later, performed, ran, rfl⟩, accepted, alsoAccepted⟩
        exact ⟨earlier, later, ⟨performed, accepted⟩, ⟨ran, alsoAccepted⟩, rfl⟩

end Checked
end Run

/-! ## Folds -/

/-- **A fold makes a call for each item**, and keeps of the calls what it gathers from them. -/
theorem Action.run_fold {Host α : Type}
    {call : Value Host → List (Value Host) → Run Host (Value Host)}
    {reducer : Value Host} {each : List (Value Host × α) → Value Host → Run Host α}
    {gathered : List (Value Host × α) → Value Host} {items : List (Value Host)}
    (step : ∀ calls, ∀ item ∈ items, call reducer [gathered calls, item] =
      (each calls item).map fun result => gathered (calls ++ [(item, result)]))
    (calls : List (Value Host × α)) :
    (fold reducer (gathered calls) items).run call =
      (Run.inOrder each calls items).map gathered := by
  induction items generalizing calls with
  | nil => rfl
  | cons item items ih =>
      have ⟨first, others⟩ := List.forall_mem_cons.mp fun item member calls =>
        step calls item member
      rw [fold, run, first, Run.bind_map, Run.inOrder, Run.map_bind]
      exact congrArg (Run.bind _)
        (funext fun result => ih (fun calls item member => others item member calls) _)

end Lisplet
