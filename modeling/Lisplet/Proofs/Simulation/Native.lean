import Lisplet.Proofs.Simulation

/-!
# Primitives and `print` side by side

The operations of the language look at their arguments through few functions: the kind and the
description of a value, its truth, the levels of nesting in it, and equality with another value. A
simulation whose related values agree in these, and which relates the vectors and lists of related
elements, is kept by the primitives and by `print` (`Native.asks_perform`). The two calls of `print`
may go to different sinks, if the simulation relates what the two sinks get.

What a typed operation does with related arguments follows from its signature, as for an invariant.
-/

set_option autoImplicit false

namespace Lisplet

variable {Host α β γ δ : Type}

namespace Simulation

variable {simulation : Simulation Host} {result : α → β → Prop} {further : γ → δ → Prop}

/-! ## Computations and actions -/

theorem ends_bind {left : Except Error α} {right : Except Error β} {leftNext : α → Except Error γ}
    {rightNext : β → Except Error δ} (before : simulation.Ends result left right)
    (after : ∀ leftReached rightReached, result leftReached rightReached →
      simulation.Ends further (leftNext leftReached) (rightNext rightReached)) :
    simulation.Ends further (left.bind leftNext) (right.bind rightNext) := by
  cases before with
  | ok related => exact after _ _ related
  | error related => exact .error related

theorem ends_map {left : Except Error α} {right : Except Error β} {leftChange : α → γ}
    {rightChange : β → δ} (before : simulation.Ends result left right)
    (changed : ∀ leftReached rightReached, result leftReached rightReached →
      further (leftChange leftReached) (rightChange rightReached)) :
    simulation.Ends further (left.map leftChange) (right.map rightChange) := by
  cases before with
  | ok related => exact .ok (changed _ _ related)
  | error related => exact .error related

theorem asks_ofExcept {left right : Except Error (Value Host)}
    (ends : simulation.Ends simulation.value left right) :
    simulation.Asks (.ofExcept left) (.ofExcept right) := by
  cases ends with
  | ok related => exact .done related
  | error related => exact .fail related

theorem asks_withResult {left : Except Error α} {right : Except Error β}
    {leftNext : α → Action Host}
    {rightNext : β → Action Host} (ends : simulation.Ends result left right)
    (goesOn : ∀ leftReached rightReached, result leftReached rightReached →
      simulation.Asks (leftNext leftReached) (rightNext rightReached)) :
    simulation.Asks (.withResult left leftNext) (.withResult right rightNext) := by
  cases ends with
  | ok related => exact goesOn _ _ related
  | error related => exact .fail related

/-- Folds over related items with related reducers ask for related calls. -/
theorem asks_fold {leftReducer rightReducer leftGathered rightGathered : Value Host}
    {leftItems rightItems : List (Value Host)}
    (reducer : simulation.value leftReducer rightReducer)
    (gathered : simulation.value leftGathered rightGathered)
    (items : List.Forall₂ simulation.value leftItems rightItems) :
    simulation.Asks (.fold leftReducer leftGathered leftItems)
      (.fold rightReducer rightGathered rightItems) := by
  induction items generalizing leftGathered rightGathered with
  | nil => exact .done gathered
  | cons item _ ih =>
      exact .call reducer (.cons gathered (.cons item .nil)) fun _ _ next => ih next

/-! ## Signatures -/

/-- What a function gets for two arguments of a kind is related. -/
def Carries (simulation : Simulation Host) :
    (kind : Kind) → kind.Carrier Host → kind.Carrier Host → Prop
  | .any, left, right => simulation.value left right
  | .number, left, right => left = right
  | .vector, left, right => List.Forall₂ simulation.value left right

/-- Two functions of a fixed number of arguments give related results for related arguments. -/
def KeepsFixed (simulation : Simulation Host) :
    (kinds : List Kind) → Signature.Fixed Host kinds → Signature.Fixed Host kinds → Prop
  | [], left, right => simulation.Ends simulation.value left right
  | kind :: kinds, left, right => ∀ leftArgument rightArgument,
      simulation.Carries kind leftArgument rightArgument →
        simulation.KeepsFixed kinds (left leftArgument) (right rightArgument)

section Signatures

variable (faithful : simulation.Faithful)
include faithful

theorem ends_read (kind : Kind) {left right : Value Host} (related : simulation.value left right) :
    simulation.Ends (simulation.Carries kind) (kind.read left) (kind.read right) := by
  have failed (fault : String → TypeFault) :
      simulation.error (.ofFault (fault left.describe)) (.ofFault (fault right.describe)) := by
    rw [faithful.describe left right related]
    exact faithful.raised _
  have shape := faithful.shape left right related
  cases kind with
  | any => exact .ok related
  | number =>
      cases shape with
      | vector _ | list _ _ | builtin _ _ _ => exact .error (failed .notNumber)
      | plain isPlain _ =>
          cases left with
          | number value => exact .ok rfl
          | null | bool _ | symbol _ | function _ _ => exact .error (failed .notNumber)
          | vector _ | list _ | builtin _ _ => cases isPlain
  | vector =>
      cases shape with
      | vector items => exact .ok items
      | list _ _ | builtin _ _ _ => exact .error (failed .notVector)
      | plain isPlain _ =>
          cases left with
          | null | number _ | bool _ | symbol _ | function _ _ => exact .error (failed .notVector)
          | vector _ | list _ | builtin _ _ => cases isPlain

theorem ends_readAll (kind : Kind) {left right : List (Value Host)}
    (related : List.Forall₂ simulation.value left right) :
    simulation.Ends (List.Forall₂ (simulation.Carries kind)) (kind.readAll left)
      (kind.readAll right) := by
  induction related with
  | nil => exact .ok .nil
  | @cons left right lefts rights first _ ih =>
      have head := ends_read faithful kind first
      unfold Kind.readAll
      generalize kind.read left = leftRead at head ⊢
      generalize kind.read right = rightRead at head ⊢
      generalize kind.readAll lefts = leftRest at ih ⊢
      generalize kind.readAll rights = rightRest at ih ⊢
      cases head with
      | error related => exact .error related
      | ok argument =>
          cases ih with
          | error related => exact .error related
          | ok arguments => exact .ok (.cons argument arguments)

theorem ends_applyRest {kind : Kind}
    {left right : List (kind.Carrier Host) → Except Error (Value Host)}
    {leftValues rightValues : List (Value Host)}
    (related : List.Forall₂ simulation.value leftValues rightValues)
    (keeps : ∀ leftArguments rightArguments,
      List.Forall₂ (simulation.Carries kind) leftArguments rightArguments →
        simulation.Ends simulation.value (left leftArguments) (right rightArguments)) :
    simulation.Ends simulation.value (Signature.applyRest kind left leftValues)
      (Signature.applyRest kind right rightValues) :=
  ends_bind (ends_readAll faithful kind related) keeps

theorem ends_applyFirstRest {name : String} {first rest : Kind}
    {left right : first.Carrier Host → List (rest.Carrier Host) → Except Error (Value Host)}
    {leftValues rightValues : List (Value Host)}
    (related : List.Forall₂ simulation.value leftValues rightValues)
    (keeps : ∀ leftHead rightHead leftTail rightTail, simulation.Carries first leftHead rightHead →
      List.Forall₂ (simulation.Carries rest) leftTail rightTail →
        simulation.Ends simulation.value (left leftHead leftTail) (right rightHead rightTail)) :
    simulation.Ends simulation.value (Signature.applyFirstRest name first rest left leftValues)
      (Signature.applyFirstRest name first rest right rightValues) := by
  cases related with
  | nil => exact .error (faithful.raised _)
  | cons head tail =>
      refine ends_bind (ends_read faithful first head) fun _ _ heads => ?_
      exact ends_bind (ends_readAll faithful rest tail) fun _ _ tails => keeps _ _ _ _ heads tails

theorem ends_readFixed (tooFew : Error) (kinds : List Kind)
    {left right : Signature.Fixed Host kinds} {leftValues rightValues : List (Value Host)}
    (related : List.Forall₂ simulation.value leftValues rightValues)
    (keeps : simulation.KeepsFixed kinds left right) :
    simulation.Ends simulation.value (Signature.readFixed tooFew kinds left leftValues)
      (Signature.readFixed tooFew kinds right rightValues) := by
  induction kinds generalizing leftValues rightValues with
  | nil => exact keeps
  | cons kind kinds ih =>
      cases related with
      | nil => exact .error (faithful.raised tooFew)
      | @cons left right lefts rights head tail =>
          have read := ends_read faithful kind head
          unfold Signature.readFixed
          generalize kind.read left = leftRead at read ⊢
          generalize kind.read right = rightRead at read ⊢
          cases read with
          | error related => exact .error related
          | ok argument => exact ih tail (keeps _ _ argument)

theorem ends_applyFixed {name : String} {kinds : List Kind}
    {left right : Signature.Fixed Host kinds} {leftValues rightValues : List (Value Host)}
    (related : List.Forall₂ simulation.value leftValues rightValues)
    (keeps : simulation.KeepsFixed kinds left right) :
    simulation.Ends simulation.value (Signature.applyFixed name kinds left leftValues)
      (Signature.applyFixed name kinds right rightValues) := by
  unfold Signature.applyFixed
  rw [related.length_eq]
  dsimp only
  split
  · exact ends_readFixed faithful _ kinds related keeps
  · exact .error (faithful.raised _)

end Signatures

/-! ## Primitives and `print` -/

/-- A simulation that the primitives and `print` keep, and that relates no operation of a host to
anything. -/
structure Native (simulation : Simulation Host) : Prop extends simulation.Faithful where
  nestingDepth : ∀ left right : Value Host, simulation.value left right →
    left.nestingDepth = right.nestingDepth
  equal : ∀ left right otherLeft otherRight : Value Host, simulation.value left right →
    simulation.value otherLeft otherRight → left.equal otherLeft = right.equal otherRight
  vector : ∀ left right, List.Forall₂ simulation.value left right →
    simulation.value (.vector left) (.vector right)
  list : ∀ left right, List.Forall₂ simulation.value left right →
    simulation.value (.list left) (.list right)
  primitive : ∀ id primitive operation,
    simulation.value (.builtin id (.primitive primitive)) (.builtin id operation) →
      operation = .primitive primitive
  print : ∀ id sink operation, simulation.value (.builtin id (.print sink))
    (.builtin id operation) →
    ∃ other, operation = .print other ∧ ∀ left right, List.Forall₂ simulation.value left right →
      simulation.printed ⟨sink, left⟩ ⟨other, right⟩
  host : ∀ id called operation,
    ¬ simulation.value (.builtin id (.host called)) (.builtin id operation)

namespace Native

variable (native : simulation.Native)
include native

theorem checkNesting_eq {left right : List (Value Host)}
    (related : List.Forall₂ simulation.value left right) :
    Value.checkNesting left = Value.checkNesting right := by
  have deepest : Value.deepest left = Value.deepest right := by
    induction related with
    | nil => rfl
    | cons first _ ih => rw [Value.deepest, Value.deepest, native.nestingDepth _ _ first, ih]
  unfold Value.checkNesting
  rw [deepest]

theorem ends_checkNesting {left right : List (Value Host)}
    (related : List.Forall₂ simulation.value left right) :
    simulation.Ends (fun _ _ => True) (Value.checkNesting left) (Value.checkNesting right) := by
  rw [native.checkNesting_eq related]
  cases Value.checkNesting right with
  | ok _ => exact .ok trivial
  | error raised => exact .error (native.raised raised)

theorem allEqual_eq {left right : List (Value Host)}
    (related : List.Forall₂ simulation.value left right) :
    Value.allEqual left = Value.allEqual right := by
  cases related with
  | nil => rfl
  | @cons leftFirst rightFirst _ _ first rest =>
      have same {leftRest rightRest : List (Value Host)}
          (others : List.Forall₂ simulation.value leftRest rightRest) :
          leftRest.all (·.equal leftFirst) = rightRest.all (·.equal rightFirst) := by
        induction others with
        | nil => rfl
        | cons second _ ih =>
            rw [List.all_cons, List.all_cons, ih, native.equal _ _ _ _ second first]
      cases rest with
      | nil => rfl
      | cons second later => exact same (.cons second later)

theorem ends_makeVector {left right : List (Value Host)}
    (related : List.Forall₂ simulation.value left right) :
    simulation.Ends simulation.value (Primitive.makeVector left) (Primitive.makeVector right) :=
  ends_map (native.ends_checkNesting related) fun _ _ _ => native.vector left right related

theorem ends_extendVector {leftItem rightItem : Value Host} {left right : List (Value Host)}
    (item : simulation.value leftItem rightItem)
    (related : List.Forall₂ simulation.value left right) :
    simulation.Ends simulation.value (Primitive.extendVector leftItem left)
      (Primitive.extendVector rightItem right) :=
  ends_map (native.ends_checkNesting (.cons item .nil)) fun _ _ _ =>
    native.vector _ _ (List.rel_append related (.cons item .nil))

theorem asks_reduction {left right : List (Value Host)}
    (related : List.Forall₂ simulation.value left right) :
    simulation.Asks (Primitive.reduction left) (Primitive.reduction right) := by
  by_cases three : left.length = 3
  · obtain ⟨leftReducer, leftSeed, leftItems, rfl⟩ := List.length_eq_three.mp three
    obtain ⟨rightReducer, rightSeed, rightItems, rfl⟩ :=
      List.length_eq_three.mp (related.length_eq.symm.trans three)
    obtain ⟨reducer, seed, items, _⟩ := by simpa only [List.forall₂_cons] using related
    unfold Primitive.reduction
    dsimp only
    rw [(native.shape _ _ reducer).isCallable_eq, native.describe _ _ reducer]
    split
    · exact asks_withResult (ends_read native.toFaithful .vector items) fun _ _ folded =>
        asks_fold reducer seed folded
    · exact .fail (native.raised _)
  · rw [Primitive.reduction_of_length_ne three,
      Primitive.reduction_of_length_ne (related.length_eq ▸ three), related.length_eq]
    exact .fail (native.raised _)

theorem asks_primitive (primitive : Primitive) {left right : List (Value Host)}
    (related : List.Forall₂ simulation.value left right) :
    simulation.Asks (primitive.perform left) (primitive.perform right) := by
  have faithful := native.toFaithful
  have truth (value : Bool) : simulation.value (.bool value) (.bool value) :=
    native.plain _ rfl nofun
  have numbers (step : Float → Float → Float) (start : Float) {lefts rights : List Float}
      (same : List.Forall₂ Eq lefts rights) :
      simulation.Ends simulation.value (Primitive.gather step start lefts)
        (Primitive.gather step start rights) := by
    cases eq_of_forall₂ (fun _ _ => id) same
    exact .ok (native.plain _ rfl nofun)
  have accepted : simulation.Ends (fun _ _ => True)
      (primitive.arity.validate primitive.id left.length)
      (primitive.arity.validate primitive.id right.length) := by
    rw [related.length_eq]
    cases primitive.arity.validate primitive.id right.length with
    | ok _ => exact .ok trivial
    | error raised => exact .error (native.raised raised)
  refine asks_withResult accepted fun _ _ _ => ?_
  cases primitive with
  | add | multiply =>
      exact asks_ofExcept (ends_applyRest faithful related fun _ _ same => numbers _ _ same)
  | subtract | divide | power =>
      refine asks_ofExcept (ends_applyFirstRest faithful related fun first _ _ _ head same => ?_)
      cases head
      exact numbers _ first same
  | less =>
      refine asks_ofExcept (ends_applyFixed faithful related ?_)
      rintro left _ rfl right _ rfl
      exact .ok (truth _)
  | not =>
      refine asks_ofExcept (ends_applyFixed faithful related fun left right same => ?_)
      have negated : Value.isTruthy left = Value.isTruthy right :=
        (native.shape _ _ same).isTruthy_eq
      exact .ok (negated ▸ truth (!Value.isTruthy left))
  | equal =>
      refine asks_ofExcept (ends_applyRest faithful related fun left right same => ?_)
      rw [native.allEqual_eq same]
      exact .ok (truth _)
  | arrayOf =>
      exact asks_ofExcept (ends_applyRest faithful related fun _ _ same =>
        native.ends_makeVector same)
  | append =>
      exact asks_ofExcept (ends_applyFixed faithful related fun _ _ item _ _ items =>
        native.ends_extendVector item items)
  | reduce => exact native.asks_reduction related

theorem asks_printing {leftSink rightSink : Sink} {left right : List (Value Host)}
    (related : List.Forall₂ simulation.value left right)
    (printed : simulation.printed ⟨leftSink, left⟩ ⟨rightSink, right⟩) :
    simulation.Asks (Operation.printing leftSink left) (Operation.printing rightSink right) :=
  asks_withResult (native.ends_checkNesting related) fun _ _ _ =>
    .print printed (.done (native.list left right related))

/-- **The operations of the language do related things**, whatever the environments of the calls. -/
theorem asks_perform {id : String} {leftOperation rightOperation : Operation Host}
    (related : simulation.value (.builtin id leftOperation) (.builtin id rightOperation))
    (leftHandler rightHandler : Handler Host) (leftStart rightStart : Environment Host)
    {left right : List (Value Host)} (arguments : List.Forall₂ simulation.value left right) :
    simulation.Asks (leftOperation.perform leftHandler leftStart left)
      (rightOperation.perform rightHandler rightStart right) := by
  cases leftOperation with
  | primitive called =>
      cases native.primitive id called rightOperation related
      exact native.asks_primitive called arguments
  | print sink =>
      obtain ⟨other, rfl, printed⟩ := native.print id sink rightOperation related
      exact native.asks_printing arguments (printed left right arguments)
  | host called => exact absurd related (native.host id called rightOperation)

end Native
end Simulation
end Lisplet
