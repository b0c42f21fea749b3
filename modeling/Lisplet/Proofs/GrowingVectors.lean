import Lisplet.Proofs.Equivalence

/-!
# Vectors that grow

`append` counts the levels of the element that it adds, and not those of the elements that are there
already. For a vector within the limit this is as good as counting the levels of all of them, and
for no other vector it is (`Value.checkNesting_append_iff`): one with too many levels could be
extended by an atom.

No vector that is made by appending to the vector without elements gets there. Its elements can be
appended one after the other exactly when `arrayOf` makes a vector of all of them at once, and it is
the same vector (`appendInTurn_eq`).
-/

set_option autoImplicit false

namespace Lisplet

variable {Host : Type}

namespace Value

/-- **Counting the levels of the new element is enough for the vectors within the limit**, and for
these only. -/
theorem checkNesting_append_iff {items : List (Value Host)} :
    (vector items).nestingDepth ≤ maxNesting ↔
      ∀ item, checkNesting (append item items) = .ok () ↔ checkNesting [item] = .ok () := by
  have whole (item : Value Host) : checkNesting (append item items) = .ok () ↔
      (vector items).nestingDepth ≤ maxNesting ∧ item.nestingDepth + 1 ≤ maxNesting := by
    rw [checkNesting_eq_ok_iff, ← Nat.max_le, ← nestingDepth_append]
    rfl
  have single (item : Value Host) :
      checkNesting [item] = .ok () ↔ item.nestingDepth + 1 ≤ maxNesting := by
    rw [checkNesting_eq_ok_iff, deepest_singleton]
  constructor
  · intro within item
    rw [whole, single, and_iff_right within]
  · intro enough
    have atom : checkNesting [(null : Value Host)] = .ok () := rfl
    exact ((whole null).mp ((enough null).mpr atom)).1

end Value

namespace Primitive

theorem makeVector_eq (items : List (Value Host)) :
    makeVector items =
      if Value.deepest items < maxNesting then .ok (.vector items)
      else .error (.nestingTooDeep maxNesting) := by
  rw [makeVector, Value.checkNesting_eq]
  split <;> rfl

theorem extendVector_eq (item : Value Host) (items : List (Value Host)) :
    extendVector item items =
      if item.nestingDepth < maxNesting then .ok (.vector (Value.append item items))
      else .error (.nestingTooDeep maxNesting) := by
  rw [extendVector, Value.checkNesting_singleton]
  split <;> rfl

/-- Appending to a vector that could be made gives the vector that is made of all elements, or the
same error. -/
theorem makeVector_append (item : Value Host) (items : List (Value Host)) :
    makeVector (items ++ [item]) =
      (makeVector items).bind fun _ => extendVector item items := by
  have levels : Value.deepest (items ++ [item]) = max (Value.deepest items) item.nestingDepth := by
    rw [Value.deepest_append, Value.deepest_singleton]
  rw [makeVector_eq, makeVector_eq, extendVector_eq, levels]
  by_cases shallow : Value.deepest items < maxNesting
  · rw [if_pos shallow, Except.bind]
    by_cases flat : item.nestingDepth < maxNesting
    · rw [if_pos flat, if_pos (Nat.max_lt.mpr ⟨shallow, flat⟩), Value.append]
    · rw [if_neg flat, if_neg fun both => flat (Nat.max_lt.mp both).2]
  · rw [if_neg shallow, if_neg fun both => shallow (Nat.max_lt.mp both).1]
    rfl

end Primitive

/-- Items appended one after the other to the vector without elements, given how values are
called. -/
def appendInTurn (site : Value Host → List (Value Host) → Run Host (Value Host))
    (items : List (Value Host)) : Run Host (Value Host) :=
  items.foldl
    (fun built item => built.bind fun vector => site Primitive.append.toValue [item, vector])
    (.ok (.vector []))

theorem appendInTurn_concat (site : Value Host → List (Value Host) → Run Host (Value Host))
    (items : List (Value Host)) (item : Value Host) :
    appendInTurn site (items ++ [item]) =
      (appendInTurn site items).bind fun vector =>
        site Primitive.append.toValue [item, vector] := by
  rw [appendInTurn, List.foldl_append]
  rfl

namespace Evaluation

/-- **Appending item by item comes to what making a vector of all items comes to.** The induction is
on the vector that is there so far, so its last step is the last item. -/
theorem appendInTurn_eq (setting : Setting Host) (body : Evaluator Host) (chain : Nat)
    (environment : Environment Host) (items : List (Value Host)) :
    appendInTurn (call setting body (chain + 1) environment) items =
      .ofExcept (Primitive.makeVector items) := by
  induction items using List.reverseRecOn with
  | nil => rfl
  | append_singleton items item ih =>
      rw [appendInTurn_concat, ih, Primitive.makeVector_append]
      cases made : Primitive.makeVector items with
      | error error => rfl
      | ok vector =>
          have same : vector = .vector items := by
            rw [Primitive.makeVector_eq] at made
            split at made
            · exact (Except.ok.inj made).symm
            · cases made
          rw [same]
          exact call_appendAt setting body environment chain item items

end Evaluation

open Evaluation in
/-- **The check that `append` makes is as good as the full one.** At any place, appending an item to
a vector fails for too many levels exactly when the check of all elements of the extended vector
does, whatever the item is, if and only if the vector is within the limit. In all other cases the
vector has the old elements and the item behind them, and as many levels as the old vector or one
more than the item. Appending items one after the other to the vector without elements gives what
`arrayOf` gives for all of them, and if no NaN stands in them, what both give is equal. -/
theorem append_checksEnough (setting : Setting Host) (body : Evaluator Host) (chain : Nat)
    (environment : Environment Host) :
    let site := call setting body (chain + 1) environment
    let appended (item : Value Host) (items : List (Value Host)) :=
      site Primitive.append.toValue [item, .vector items]
    (∀ items : List (Value Host), (Value.vector items).nestingDepth ≤ maxNesting ↔
        ∀ item, appended item items = .fail (.nestingTooDeep maxNesting) ↔
          Value.checkNesting (items ++ [item]) ≠ .ok ()) ∧
      (∀ item items, appended item items ≠ .fail (.nestingTooDeep maxNesting) →
        appended item items = .ok (.vector (items ++ [item])) ∧
          (Value.vector (items ++ [item])).nestingDepth =
            max (Value.vector items).nestingDepth (item.nestingDepth + 1)) ∧
      ∀ items, appendInTurn site items = site Primitive.arrayOf.toValue items ∧
        (Value.anyHoldsNaN items = false → ∀ built made, appendInTurn site items = .ok built →
          site Primitive.arrayOf.toValue items = .ok made → built.equal made = true) := by
  intro site appended
  have extended (item : Value Host) (items : List (Value Host)) :
      appended item items = if item.nestingDepth < maxNesting then .ok (.vector (items ++ [item]))
        else .fail (.nestingTooDeep maxNesting) := by
    show call setting body (chain + 1) environment Primitive.append.toValue
      [item, .vector items] = _
    rw [call_appendAt, Primitive.extendVector_eq]
    split <;> rfl
  have refused (item : Value Host) (items : List (Value Host)) :
      appended item items = .fail (.nestingTooDeep maxNesting) ↔
        Value.checkNesting [item] ≠ .ok () := by
    rw [extended, Value.checkNesting_singleton]
    split
    · exact iff_of_false (by rintro ⟨⟩) (not_not_intro rfl)
    · exact iff_of_true rfl (by rintro ⟨⟩)
  have made (items : List (Value Host)) :
      site Primitive.arrayOf.toValue items = .ofExcept (Primitive.makeVector items) :=
    call_arrayOf setting body environment chain items
  have same (items : List (Value Host)) :
      appendInTurn site items = site Primitive.arrayOf.toValue items :=
    (appendInTurn_eq setting body chain environment items).trans (made items).symm
  refine ⟨fun items => ?_, fun item items succeeds => ?_, fun items => ⟨same items, ?_⟩⟩
  · rw [Value.checkNesting_append_iff]
    refine forall_congr' fun item => ?_
    rw [refused, not_iff_not]
    exact iff_comm
  · have shallow : item.nestingDepth < maxNesting := by
      by_contra deep
      exact succeeds ((extended item items).trans (if_neg deep))
    exact ⟨(extended item items).trans (if_pos shallow), Value.nestingDepth_append item items⟩
  · intro reflexive built vector builds makes
    obtain rfl : built = vector :=
      Except.ok.inj (congrArg Run.outcome (builds.symm.trans ((same items).trans makes)))
    have isVector : built = .vector items := by
      rw [made, Primitive.makeVector_eq] at makes
      split at makes
      · exact (Except.ok.inj (congrArg Run.outcome makes)).symm
      · cases makes
    rw [isVector, Value.equal, Value.equalAll_self, reflexive]
    rfl

/-- A vector with as many levels as a value may have: an element with as many levels as the vector
is refused. A vector with a level more than that is extended by an atom all the same. A vector of
both levels and numbers is made in either way. -/
theorem append_checksEnough_at_limit :
    let site := Evaluation.call ⟨noHost, 100⟩ (Evaluation.evaluate ⟨noHost, 100⟩ 10) (9 + 1) .empty
    let appended (item : Value Empty) (items : List (Value Empty)) :=
      site Primitive.append.toValue [item, .vector items]
    let deep : Value Empty := .wrapped 255 .null
    let deeper : Value Empty := .wrapped 256 .null
    let mixed : List (Value Empty) := [deep, .number 1]
    (Value.vector [deep]).nestingDepth ≤ maxNesting ∧
      (appended deeper [deep] = .fail (.nestingTooDeep maxNesting) ↔
        Value.checkNesting [deep, deeper] ≠ .ok ()) ∧
      appended .null [deeper] ≠ .fail (.nestingTooDeep maxNesting) ∧
      (Value.vector [deeper, .null]).nestingDepth = max (Value.vector [deeper]).nestingDepth 1 ∧
      Value.anyHoldsNaN mixed = false ∧ appendInTurn site mixed = .ok (.vector mixed) ∧
      (Value.vector mixed).equal (.vector mixed) = true := by
  intro site appended deep deeper mixed
  obtain ⟨within, succeeds, made⟩ := append_checksEnough ⟨noHost, 100⟩
    (Evaluation.evaluate ⟨noHost, 100⟩ 10) 9 (.empty : Environment Empty)
  have levels : deep.nestingDepth = 255 := Value.nestingDepth_wrapped 255 .null
  have atLimit : (Value.vector [deep]).nestingDepth = maxNesting := by
    rw [Value.nestingDepth, Value.deepest, Value.deepest, levels]
    rfl
  have extended (items : List (Value Empty)) :
      appended .null items = .ok (.vector (items ++ [.null])) := rfl
  have notRefused : appended .null [deeper] ≠ .fail (.nestingTooDeep maxNesting) := by
    rw [extended]
    rintro ⟨⟩
  have numbers : Value.anyHoldsNaN mixed = false := by decide +kernel
  have makes : site Primitive.arrayOf.toValue mixed = .ok (.vector mixed) := by
    have shallow : Value.deepest mixed < maxNesting := by
      rw [Value.deepest, levels]
      decide
    have called : site Primitive.arrayOf.toValue mixed = .ofExcept (Primitive.makeVector mixed) :=
      Evaluation.call_arrayOf _ _ _ 9 mixed
    rw [called, Primitive.makeVector_eq, if_pos shallow]
    rfl
  have builds : appendInTurn site mixed = .ok (.vector mixed) := (made mixed).1.trans makes
  exact ⟨atLimit.le, (within [deep]).mp atLimit.le deeper, notRefused,
    (succeeds .null [deeper] notRefused).2,
    numbers, builds, (made mixed).2 numbers _ _ builds makes⟩

end Lisplet
