import Lisplet.Proofs.Invariant
import Lisplet.Proofs.Symbols
import Mathlib.Data.List.Forall2

/-!
# Two runs side by side

A simulation compares two runs of one expression. It says which values stand for one another, which
environments, which calls of `print` and which errors; which names the expression may mention, so
that the two environments need to agree on those names only; and which errors cut the first run
short, so that it has printed no more than the beginning of what the second run prints.

The second run follows the first (`Simulation.Follows`) when both print alike and end alike, or when
the first is cut short. A simulation is closed under a pair of settings when related environments
look up related values and the same macros, stay related when related values are bound in them, and
when related operations do related things (`Simulation.Closed`). Then every run follows the one
beside it (`Closed.followedBy_evaluate`, `Closed.follows_evaluateProgram`). The second run may also
have more levels than the first, provided that the error for running out of levels is one that cuts
short.

As for an invariant, what one rule of evaluation does is shown for any two evaluators of the parts
that follow each other, and the induction on the levels is made once, at the end.
-/

set_option autoImplicit false

namespace Lisplet

variable {Host α β γ δ : Type}

/-- What is compared between two runs. -/
structure Simulation (Host : Type) where
  /-- The names that may be mentioned. -/
  names : String → Prop
  value : Value Host → Value Host → Prop
  environment : Environment Host → Environment Host → Prop
  printed : Printed Host → Printed Host → Prop
  error : Error → Error → Prop
  /-- The errors of the first run after which nothing is asked of the second. -/
  cut : Error → Prop

/-- Lists related place by place are equal where only equals are related. -/
theorem eq_of_forall₂ {related : α → α → Prop} {left right : List α}
    (equal : ∀ first second, related first second → first = second)
    (pairs : List.Forall₂ related left right) : left = right := by
  have same : List.Forall₂ Eq left right := pairs.imp equal
  rwa [List.forall₂_eq_eq_eq] at same

namespace Simulation

/-! ## Runs -/

/-- Two computations end alike: with related results, or with related errors. -/
inductive Ends (simulation : Simulation Host) (result : α → β → Prop) :
    Except Error α → Except Error β → Prop where
  | ok {left : α} {right : β} (related : result left right) :
      Ends simulation result (.ok left) (.ok right)
  | error {left right : Error} (related : simulation.error left right) :
      Ends simulation result (.error left) (.error right)

/-- The second run prints and ends as the first does, or the first is cut short and has printed the
beginning of what the second prints. -/
inductive Follows (simulation : Simulation Host) (result : α → β → Prop) :
    Run Host α → Run Host β → Prop where
  | alike {left right : List (Printed Host)} {leftOutcome : Except Error α}
      {rightOutcome : Except Error β} (printed : List.Forall₂ simulation.printed left right)
      (ends : simulation.Ends result leftOutcome rightOutcome) :
      Follows simulation result ⟨left, leftOutcome⟩ ⟨right, rightOutcome⟩
  | cut {left front : List (Printed Host)} {raised : Error} (back : List (Printed Host))
      (outcome : Except Error β) (printed : List.Forall₂ simulation.printed left front)
      (short : simulation.cut raised) :
      Follows simulation result ⟨left, .error raised⟩ ⟨front ++ back, outcome⟩

variable {simulation : Simulation Host} {result : α → β → Prop} {further : γ → δ → Prop}

theorem follows_ofExcept {left : Except Error α} {right : Except Error β}
    (ends : simulation.Ends result left right) :
    simulation.Follows result (.ofExcept left) (.ofExcept right) :=
  .alike .nil ends

theorem follows_ok {left : α} {right : β} (related : result left right) :
    simulation.Follows result (.ok left) (.ok right) :=
  follows_ofExcept (.ok related)

theorem follows_fail {left right : Error} (related : simulation.error left right) :
    simulation.Follows result (.fail left : Run Host α) (.fail right : Run Host β) :=
  follows_ofExcept (.error related)

/-- A run that is cut short before it prints is followed by any run. -/
theorem follows_cut {raised : Error} (right : Run Host β) (short : simulation.cut raised) :
    simulation.Follows result (.fail raised : Run Host α) right :=
  .cut right.printed right.outcome .nil short

theorem follows_bind {left : Run Host α} {right : Run Host β} {leftNext : α → Run Host γ}
    {rightNext : β → Run Host δ} (before : simulation.Follows result left right)
    (after : ∀ leftReached rightReached, result leftReached rightReached →
      simulation.Follows further (leftNext leftReached) (rightNext rightReached)) :
    simulation.Follows further (left.bind leftNext) (right.bind rightNext) := by
  cases before with
  | @alike leftPrinted rightPrinted _ _ printed ends =>
      cases ends with
      | error related => exact .alike printed (.error related)
      | @ok leftReached rightReached related =>
          have rest := after leftReached rightReached related
          unfold Run.bind
          dsimp only
          generalize leftNext leftReached = leftRest at rest ⊢
          generalize rightNext rightReached = rightRest at rest ⊢
          cases rest with
          | alike later ends => exact .alike (List.rel_append printed later) ends
          | cut back outcome later short =>
              rw [← List.append_assoc]
              exact .cut back outcome (List.rel_append printed later) short
  | @cut leftPrinted front raised back outcome printed short =>
      cases outcome with
      | error _ => exact .cut back _ printed short
      | ok rightReached =>
          -- The second run goes on; what it prints from here on is behind the part compared.
          show simulation.Follows further ⟨leftPrinted, .error raised⟩
            ⟨front ++ back ++ (rightNext rightReached).printed, (rightNext rightReached).outcome⟩
          rw [List.append_assoc]
          exact .cut _ _ printed short

theorem follows_map {left : Run Host α} {right : Run Host β} {leftChange : α → γ}
    {rightChange : β → δ} (before : simulation.Follows result left right)
    (changed : ∀ leftReached rightReached, result leftReached rightReached →
      further (leftChange leftReached) (rightChange rightReached)) :
    simulation.Follows further (left.map leftChange) (right.map rightChange) := by
  cases before with
  | alike printed ends =>
      cases ends with
      | ok related => exact .alike printed (.ok (changed _ _ related))
      | error related => exact .alike printed (.error related)
  | cut back outcome printed short => exact .cut back _ printed short

theorem follows_mapError {left : Run Host α} {right : Run Host β} {change : Error → Error}
    (before : simulation.Follows result left right)
    (changed : ∀ leftRaised rightRaised, simulation.error leftRaised rightRaised →
      simulation.error (change leftRaised) (change rightRaised))
    (stays : ∀ raised, simulation.cut raised → simulation.cut (change raised)) :
    simulation.Follows result (left.mapError change) (right.mapError change) := by
  cases before with
  | alike printed ends =>
      cases ends with
      | ok related => exact .alike printed (.ok related)
      | error related => exact .alike printed (.error (changed _ _ related))
  | cut back outcome printed short => exact .cut back _ printed (stays _ short)

/-! ## Actions -/

/-- Two actions ask for related things, whatever related values they go on with. -/
inductive Asks (simulation : Simulation Host) : Action Host → Action Host → Prop where
  | done {left right : Value Host} (related : simulation.value left right) :
      Asks simulation (.done left) (.done right)
  | fail {left right : Error} (related : simulation.error left right) :
      Asks simulation (.fail left) (.fail right)
  | print {left right : Printed Host} {leftNext rightNext : Action Host}
      (related : simulation.printed left right) (next : Asks simulation leftNext rightNext) :
      Asks simulation (.print left.sink left.values leftNext)
        (.print right.sink right.values rightNext)
  | call {leftCallee rightCallee : Value Host} {leftArguments rightArguments : List (Value Host)}
      {leftNext rightNext : Value Host → Action Host}
      (callee : simulation.value leftCallee rightCallee)
      (arguments : List.Forall₂ simulation.value leftArguments rightArguments)
      (next : ∀ left right, simulation.value left right →
        Asks simulation (leftNext left) (rightNext right)) :
      Asks simulation (.call leftCallee leftArguments leftNext)
        (.call rightCallee rightArguments rightNext)

/-- An action asks for what it asks for, where only a value itself stands for a value. -/
theorem asks_refl (related : ∀ value, simulation.value value value)
    (equal : ∀ left right, simulation.value left right → left = right)
    (printed : ∀ call, simulation.printed call call)
    (raised : ∀ raised, simulation.error raised raised)
    (action : Action Host) : simulation.Asks action action := by
  induction action with
  | done value => exact .done (related value)
  | fail error => exact .fail (raised error)
  | print sink values next ih => exact .print (printed ⟨sink, values⟩) ih
  | call callee arguments next ih =>
      refine .call (related callee) (List.forall₂_same.mpr fun argument _ => related argument) ?_
      intro left right same
      cases equal left right same
      exact ih left

/-- One way of calling values is followed by another when every call is, of related values on
related arguments. -/
def FollowedInCalls (simulation : Simulation Host)
    (left right : Value Host → List (Value Host) → Run Host (Value Host)) : Prop :=
  ∀ leftCallee rightCallee leftArguments rightArguments, simulation.value leftCallee rightCallee →
    List.Forall₂ simulation.value leftArguments rightArguments →
      simulation.Follows simulation.value (left leftCallee leftArguments)
        (right rightCallee rightArguments)

/-- Carrying out two such actions, the second run follows the first when it does in the calls. -/
theorem Asks.run {leftCall rightCall : Value Host → List (Value Host) → Run Host (Value Host)}
    (calls : simulation.FollowedInCalls leftCall rightCall)
    {left right : Action Host} (asks : simulation.Asks left right) :
    simulation.Follows simulation.value (left.run leftCall) (right.run rightCall) := by
  induction asks with
  | done related => exact follows_ok related
  | fail related => exact follows_fail related
  | @print leftPrinted rightPrinted leftNext rightNext related next ih =>
      unfold Action.run Run.afterPrinting
      generalize leftNext.run leftCall = leftRest at ih ⊢
      generalize rightNext.run rightCall = rightRest at ih ⊢
      cases ih with
      | alike later ends => exact .alike (.cons related later) ends
      | cut back outcome later short => exact .cut back outcome (.cons related later) short
  | call callee arguments next ih =>
      exact follows_bind (calls _ _ _ _ callee arguments) fun left right related =>
        ih left right related

/-! ## Closed simulations -/

/-- Two values have the same shape when they are the same plain value, which mentions none but the
names, or two vectors of related elements, two lists, or two builtins of one name. -/
inductive Shape (simulation : Simulation Host) : Value Host → Value Host → Prop where
  | plain {value : Value Host} (isPlain : value.isPlain = true)
      (mentions : value.MentionsOnly simulation.names) : Shape simulation value value
  | vector {left right : List (Value Host)} (items : List.Forall₂ simulation.value left right) :
      Shape simulation (.vector left) (.vector right)
  | list (left right : List (Value Host)) : Shape simulation (.list left) (.list right)
  | builtin (id : String) (left right : Operation Host) :
      Shape simulation (.builtin id left) (.builtin id right)

/-- Every plain value stands for itself, only values that look the same stand for one another, and
an error may always stay what it is. -/
structure Faithful (simulation : Simulation Host) : Prop where
  plain : ∀ value : Value Host, value.isPlain = true → value.MentionsOnly simulation.names →
    simulation.value value value
  shape : ∀ left right, simulation.value left right → simulation.Shape left right
  describe : ∀ left right : Value Host, simulation.value left right → left.describe = right.describe
  raised : ∀ raised, simulation.error raised raised

theorem Faithful.value_null (faithful : simulation.Faithful) : simulation.value .null .null :=
  faithful.plain .null rfl nofun

/-- A simulation that evaluation under two settings keeps. -/
structure Closed (simulation : Simulation Host) (left right : Setting Host) : Prop
    extends simulation.Faithful where
  lookup : ∀ leftStart rightStart name, simulation.environment leftStart rightStart →
    simulation.names name → simulation.value (leftStart.lookup name) (rightStart.lookup name)
  bind : ∀ leftStart rightStart name leftValue rightValue,
    simulation.environment leftStart rightStart → simulation.names name →
      simulation.value leftValue rightValue →
        simulation.environment (leftStart.bind name leftValue) (rightStart.bind name rightValue)
  bindMacro : ∀ leftStart rightStart name definition, simulation.environment leftStart rightStart →
    simulation.names name → definition.MentionsOnly simulation.names →
      simulation.environment (leftStart.bindMacro name definition)
        (rightStart.bindMacro name definition)
  /-- The macros of `macro` and `def` are never looked up: the special forms come first. -/
  macroNamed : ∀ leftStart rightStart name, simulation.environment leftStart rightStart →
    simulation.names name → name ≠ Binder.macroForm.keyword → name ≠ Binder.defForm.keyword →
      leftStart.macroNamed? name = rightStart.macroNamed? name ∧
        ∀ definition, leftStart.macroNamed? name = some definition →
          definition.MentionsOnly simulation.names
  perform : ∀ id leftOperation rightOperation leftStart rightStart leftArguments rightArguments,
    simulation.value (.builtin id leftOperation) (.builtin id rightOperation) →
      simulation.environment leftStart rightStart →
        List.Forall₂ simulation.value leftArguments rightArguments →
          simulation.Asks (leftOperation.perform left.handler leftStart leftArguments)
            (rightOperation.perform right.handler rightStart rightArguments)
  inForm : ∀ form leftRaised rightRaised, simulation.error leftRaised rightRaised →
    simulation.error (leftRaised.inForm form) (rightRaised.inForm form)
  cutInForm : ∀ form raised, simulation.cut raised → simulation.cut (raised.inForm form)
  exceeded : simulation.error (.depthExceeded left.limit) (.depthExceeded right.limit) ∨
    simulation.cut (.depthExceeded left.limit)

/-- The second run has enough levels left beside the first: as many, or more where running out of
them cuts the first run short. -/
def Enough (simulation : Simulation Host) (setting : Setting Host) (levels more : Nat) : Prop :=
  levels = more ∨ levels ≤ more ∧ simulation.cut (.depthExceeded setting.limit)

theorem Enough.le {setting : Setting Host} {levels more : Nat}
    (enough : simulation.Enough setting levels more) : levels ≤ more := by
  rcases enough with same | ⟨fewer, _⟩
  · exact Nat.le_of_eq same
  · exact fewer

/-- Where the second run has enough levels left, it has enough further inside. -/
theorem Enough.sub {setting : Setting Host} {levels more : Nat}
    (enough : simulation.Enough setting levels more) (depth : Nat) :
    simulation.Enough setting (levels - depth) (more - depth) := by
  rcases enough with same | ⟨fewer, short⟩
  · exact .inl (congrArg (· - depth) same)
  · exact .inr ⟨Nat.sub_le_sub_right fewer depth, short⟩

/-- The results of an expression are related: the values and the environments after it. -/
def Reached (simulation : Simulation Host) (left right : Value Host × Environment Host) : Prop :=
  simulation.value left.1 right.1 ∧ simulation.environment left.2 right.2

/-- One evaluator is followed by another when every run is, in related environments and on
expressions that mention none but the names. -/
def FollowedBy (simulation : Simulation Host) (left right : Evaluator Host) : Prop :=
  ∀ leftStart rightStart expr, simulation.environment leftStart rightStart →
    expr.MentionsOnly simulation.names →
      simulation.Follows simulation.Reached (left leftStart expr) (right rightStart expr)

/-! ### Values of one shape -/

/-- The last of several values is related to the last of as many related values. -/
theorem value_getLastD {leftValue rightValue : Value Host}
    {leftValues rightValues : List (Value Host)} (default : simulation.value leftValue rightValue)
    (related : List.Forall₂ simulation.value leftValues rightValues) :
    simulation.value (leftValues.getLastD leftValue) (rightValues.getLastD rightValue) := by
  induction related generalizing leftValue rightValue with
  | nil => exact default
  | cons first _ ih =>
      rw [List.getLastD_cons, List.getLastD_cons]
      exact ih first

/-- Values at the same place of related lists are related, and so are the two defaults behind their
ends. -/
theorem value_getD {leftValue rightValue : Value Host} {leftValues rightValues : List (Value Host)}
    (default : simulation.value leftValue rightValue)
    (related : List.Forall₂ simulation.value leftValues rightValues) (place : Nat) :
    simulation.value (leftValues[place]?.getD leftValue) (rightValues[place]?.getD rightValue) := by
  induction related generalizing place with
  | nil => exact default
  | cons first _ ih =>
      cases place with
      | zero => exact first
      | succ place => exact ih place

namespace Shape

variable {left right : Value Host}

/-- A value has its own shape. -/
theorem refl {value : Value Host} (mentions : value.MentionsOnly simulation.names)
    (element : ∀ items, value = .vector items → ∀ item ∈ items, simulation.value item item) :
    simulation.Shape value value := by
  cases value with
  | vector items => exact .vector (List.forall₂_same.mpr (element items rfl))
  | list items => exact .list items items
  | builtin id operation => exact .builtin id operation operation
  | null | number _ | bool _ | symbol _ | function _ _ => exact .plain rfl mentions

theorem isTruthy_eq (shape : simulation.Shape left right) : left.isTruthy = right.isTruthy := by
  cases shape <;> rfl

theorem isCallable_eq (shape : simulation.Shape left right) :
    left.isCallable = right.isCallable := by
  cases shape <;> rfl

/-- Indices of the same shape pick related elements, or are both no index. -/
theorem value_index {leftItems rightItems : List (Value Host)} (null : simulation.value .null .null)
    (shape : simulation.Shape left right)
    (items : List.Forall₂ simulation.value leftItems rightItems) :
    simulation.value (Value.index leftItems (some left)) (Value.index rightItems (some right)) := by
  cases shape with
  | vector _ | list _ _ | builtin _ _ _ => exact null
  | plain isPlain _ =>
      cases left with
      | null | bool _ | symbol _ | function _ _ => exact null
      | vector _ | list _ | builtin _ _ => cases isPlain
      | number index =>
          unfold Value.index
          dsimp only
          cases Value.position? index with
          | none => exact null
          | some position =>
              exact value_getD null items position

end Shape

open Evaluation

/-- The elements of a form hand related environments on from one to the next. -/
theorem follows_evaluateAll {left right : Evaluator Host} (inner : simulation.FollowedBy left right)
    {leftStart rightStart : Environment Host} (elements : List Expr)
    (start : simulation.environment leftStart rightStart)
    (mentions : ∀ element ∈ elements, element.MentionsOnly simulation.names) :
    simulation.Follows (fun leftReached rightReached =>
        List.Forall₂ simulation.value leftReached.1 rightReached.1 ∧
          simulation.environment leftReached.2 rightReached.2)
      (evaluateAll left leftStart elements) (evaluateAll right rightStart elements) := by
  induction elements generalizing leftStart rightStart with
  | nil => exact follows_ok ⟨.nil, start⟩
  | cons first rest ih =>
      have ⟨head, tail⟩ := List.forall_mem_cons.mp mentions
      refine follows_bind (inner leftStart rightStart first start head) fun _ _ reached => ?_
      refine follows_bind (ih reached.2 tail) fun _ _ later => ?_
      exact follows_ok ⟨.cons reached.1 later.1, later.2⟩

section Rules

variable {left right : Setting Host} (closed : simulation.Closed left right)
include closed

theorem Closed.follows_exceeded {result : α → β → Prop} :
    simulation.Follows result (Evaluation.exceeded left) (Evaluation.exceeded right) := by
  rcases closed.exceeded with related | short
  · exact follows_fail related
  · exact follows_cut _ short

theorem Closed.environment_bindAll {leftStart rightStart : Environment Host} (names : List String)
    {leftValues rightValues : List (Value Host)}
    (start : simulation.environment leftStart rightStart)
    (mentioned : ∀ name ∈ names, simulation.names name)
    (related : List.Forall₂ simulation.value leftValues rightValues) :
    simulation.environment (leftStart.bindAll names leftValues)
      (rightStart.bindAll names rightValues) := by
  induction names generalizing leftStart rightStart leftValues rightValues with
  | nil => exact start
  | cons name names ih =>
      have ⟨head, tail⟩ := List.forall_mem_cons.mp mentioned
      cases related with
      | nil => exact start
      | cons first rest => exact ih (closed.bind _ _ name _ _ start head first) tail rest

/-! ### Calls -/

theorem Closed.follows_call_function {leftBody rightBody : Evaluator Host}
    (bodies : simulation.FollowedBy leftBody rightBody) (chain : Nat)
    {leftStart rightStart : Environment Host} {parameters : List String} {expression : Expr}
    {leftArguments rightArguments : List (Value Host)}
    (start : simulation.environment leftStart rightStart)
    (mentions : (Value.function parameters expression : Value Host).MentionsOnly simulation.names)
    (arguments : List.Forall₂ simulation.value leftArguments rightArguments) :
    simulation.Follows simulation.value
      (Evaluation.call left leftBody chain leftStart (.function parameters expression)
        leftArguments)
      (Evaluation.call right rightBody chain rightStart (.function parameters expression)
        rightArguments) := by
  have ⟨names, body⟩ := Value.mentionsOnly_function.mp mentions
  rw [call_function, call_function, arguments.length_eq]
  split
  · have inside := closed.environment_bindAll parameters start names arguments
    exact follows_map (bodies _ _ expression inside body) fun _ _ reached => reached.1
  · exact follows_fail (closed.raised _)

/-- A call follows a call of a related value when the evaluation of bodies does. The induction is on
the number of builtins that may still call one another. -/
theorem Closed.follows_call {leftBody rightBody : Evaluator Host}
    (bodies : simulation.FollowedBy leftBody rightBody) (chain : Nat)
    {leftStart rightStart : Environment Host} {leftCallee rightCallee : Value Host}
    {leftArguments rightArguments : List (Value Host)}
    (start : simulation.environment leftStart rightStart)
    (callee : simulation.value leftCallee rightCallee)
    (arguments : List.Forall₂ simulation.value leftArguments rightArguments) :
    simulation.Follows simulation.value
      (Evaluation.call left leftBody chain leftStart leftCallee leftArguments)
      (Evaluation.call right rightBody chain rightStart rightCallee rightArguments) := by
  induction chain using Nat.strongRecOn
    generalizing leftCallee rightCallee leftArguments rightArguments with
  | ind chain ih =>
      have shape := closed.shape _ _ callee
      cases callable : leftCallee.isCallable with
      | false =>
          have notCallable := shape.isCallable_eq.symm.trans callable
          rw [call_of_not_isCallable _ _ _ _ _ callable,
            call_of_not_isCallable _ _ _ _ _ notCallable, closed.describe _ _ callee]
          exact follows_fail (closed.raised _)
      | true =>
          cases shape with
          | vector _ | list _ _ => cases callable
          | plain isPlain mentions =>
              cases leftCallee with
              | function parameters expression =>
                  exact closed.follows_call_function bodies chain start mentions arguments
              | null | number _ | bool _ | symbol _ | vector _ | list _ => cases callable
              | builtin _ _ => cases isPlain
          | builtin id leftOperation rightOperation =>
              cases chain with
              | zero => exact closed.follows_exceeded
              | succ further =>
                  have asks := closed.perform id _ _ _ _ _ _ callee start arguments
                  rw [call_builtin, call_builtin]
                  exact asks.run fun _ _ _ _ related passed =>
                    ih further (Nat.lt_succ_self further) related passed

theorem Closed.follows_apply
    {leftCall rightCall : Value Host → List (Value Host) → Run Host (Value Host)}
    (calls : simulation.FollowedInCalls leftCall rightCall)
    {leftValues rightValues : List (Value Host)}
    (related : List.Forall₂ simulation.value leftValues rightValues) :
    simulation.Follows simulation.value (Evaluation.apply leftCall leftValues)
      (Evaluation.apply rightCall rightValues) := by
  cases related with
  | nil => exact follows_ok closed.value_null
  | @cons leftCallee rightCallee leftArguments rightArguments callee arguments =>
      have shape := closed.shape _ _ callee
      have passed (leftOther : ∀ items, leftCallee ≠ .vector items)
          (rightOther : ∀ items, rightCallee ≠ .vector items) :
          simulation.Follows simulation.value
            (Evaluation.apply leftCall (leftCallee :: leftArguments))
            (Evaluation.apply rightCall (rightCallee :: rightArguments)) := by
        rw [apply_of_ne_vector _ _ leftOther, apply_of_ne_vector _ _ rightOther,
          shape.isCallable_eq]
        split
        · exact calls _ _ _ _ callee arguments
        · exact follows_ok (value_getLastD callee arguments)
      cases shape with
      | list _ _ | builtin _ _ _ => exact passed nofun nofun
      | plain isPlain _ =>
          have other : ∀ items, leftCallee ≠ .vector items := by
            rintro items rfl
            cases isPlain
          exact passed other other
      | vector items =>
          refine follows_ok ?_
          cases arguments with
          | nil => exact closed.value_null
          | cons first _ => exact (closed.shape _ _ first).value_index closed.value_null items

/-! ### Special forms -/

theorem Closed.ends_defineMacro {leftStart rightStart : Environment Host} {arguments : List Expr}
    (start : simulation.environment leftStart rightStart)
    (mentions : ∀ argument ∈ arguments, argument.MentionsOnly simulation.names) :
    simulation.Ends simulation.Reached (defineMacro leftStart arguments)
      (defineMacro rightStart arguments) := by
  unfold defineMacro
  split
  · rename_i nameExpr namesExpr template
    cases bound : bindingName .macroForm nameExpr with
    | error raised => exact .error (closed.raised raised)
    | ok name =>
        cases listed : parameters .macroForm namesExpr with
        | error raised => exact .error (closed.raised raised)
        | ok names =>
            have named := mentions nameExpr (by simp) name (mem_symbols_of_bindingName bound)
            have listedNames := names_of_parameters (mentions namesExpr (by simp)) listed
            have within : (⟨names, template⟩ : Macro).MentionsOnly simulation.names :=
              ⟨listedNames, mentions template (by simp)⟩
            exact .ok ⟨closed.value_null, closed.bindMacro _ _ name _ start named within⟩
  · exact .error (closed.raised _)

theorem Closed.ends_makeFunction {leftStart rightStart : Environment Host} {arguments : List Expr}
    (start : simulation.environment leftStart rightStart)
    (mentions : ∀ argument ∈ arguments, argument.MentionsOnly simulation.names) :
    simulation.Ends simulation.Reached (makeFunction leftStart arguments)
      (makeFunction rightStart arguments) := by
  unfold makeFunction
  split
  · rename_i namesExpr body
    cases listed : parameters .fnForm namesExpr with
    | error raised => exact .error (closed.raised raised)
    | ok names =>
        have listedNames := names_of_parameters (mentions namesExpr (by simp)) listed
        have within : (.function names body : Value Host).MentionsOnly simulation.names :=
          Value.mentionsOnly_function.mpr ⟨listedNames, mentions body (by simp)⟩
        exact .ok ⟨closed.plain _ rfl within, start⟩
  · exact .error (closed.raised _)

theorem Closed.follows_define {leftInner rightInner : Evaluator Host}
    (inner : simulation.FollowedBy leftInner rightInner) {leftStart rightStart : Environment Host}
    {arguments : List Expr} (start : simulation.environment leftStart rightStart)
    (mentions : ∀ argument ∈ arguments, argument.MentionsOnly simulation.names) :
    simulation.Follows simulation.Reached (define leftInner leftStart arguments)
      (define rightInner rightStart arguments) := by
  unfold define
  split
  · rename_i nameExpr value
    cases bound : bindingName .defForm nameExpr with
    | error raised => exact follows_fail (closed.raised raised)
    | ok name =>
        have named := mentions nameExpr (by simp) name (mem_symbols_of_bindingName bound)
        have valued := inner _ _ value start (mentions value (by simp))
        exact follows_map valued fun _ _ reached =>
          ⟨closed.value_null, closed.bind _ _ name _ _ start named reached.1⟩
  · exact follows_fail (closed.raised _)

theorem Closed.follows_choose {leftInner rightInner : Evaluator Host}
    (inner : simulation.FollowedBy leftInner rightInner) {leftStart rightStart : Environment Host}
    {arguments : List Expr} (start : simulation.environment leftStart rightStart)
    (mentions : ∀ argument ∈ arguments, argument.MentionsOnly simulation.names) :
    simulation.Follows simulation.Reached (choose leftInner leftStart arguments)
      (choose rightInner rightStart arguments) := by
  unfold choose
  split
  · rename_i test consequent
    refine follows_bind (inner _ _ test start (mentions test (by simp))) fun _ _ reached => ?_
    dsimp only
    rw [(closed.shape _ _ reached.1).isTruthy_eq]
    split
    · exact inner _ _ consequent start (mentions consequent (by simp))
    · exact follows_ok ⟨closed.value_null, start⟩
  · rename_i test consequent alternative
    refine follows_bind (inner _ _ test start (mentions test (by simp))) fun _ _ reached => ?_
    dsimp only
    rw [(closed.shape _ _ reached.1).isTruthy_eq]
    split
    · exact inner _ _ consequent start (mentions consequent (by simp))
    · exact inner _ _ alternative start (mentions alternative (by simp))
  · exact follows_fail (closed.raised _)

/-! ### Forms and expressions -/

theorem Closed.follows_sequence {leftInside rightInside : Inside Host}
    (inner : simulation.FollowedBy leftInside.expression rightInside.expression)
    (bodies : simulation.FollowedBy leftInside.body rightInside.body)
    {leftStart rightStart : Environment Host} {elements : List Expr}
    (start : simulation.environment leftStart rightStart)
    (mentions : ∀ element ∈ elements, element.MentionsOnly simulation.names) :
    simulation.Follows simulation.Reached (sequence left leftInside leftStart elements)
      (sequence right rightInside rightStart elements) := by
  refine follows_bind (follows_evaluateAll inner elements start mentions) fun _ _ reached => ?_
  have applied := closed.follows_apply (fun _ _ _ _ callee arguments =>
    closed.follows_call bodies maxChain reached.2 callee arguments) reached.1
  exact follows_bind applied fun _ _ related => follows_ok ⟨related, reached.2⟩

theorem Closed.follows_form {leftInside rightInside : Inside Host}
    (inner : simulation.FollowedBy leftInside.expression rightInside.expression)
    (bodies : simulation.FollowedBy leftInside.body rightInside.body)
    {leftStart rightStart : Environment Host} {elements : List Expr}
    (start : simulation.environment leftStart rightStart)
    (mentions : ∀ element ∈ elements, element.MentionsOnly simulation.names) :
    simulation.Follows simulation.Reached (form left leftInside leftStart elements)
      (form right rightInside rightStart elements) := by
  have sequenced := closed.follows_sequence inner bodies start mentions
  unfold form
  split
  · rename_i head arguments
    have ⟨headMentions, passed⟩ := List.forall_mem_cons.mp mentions
    have named := Expr.mentionsOnly_symbol.mp headMentions
    split
    · exact follows_ofExcept (closed.ends_defineMacro start passed)
    split
    · exact closed.follows_define inner start passed
    rename_i notMacro notDef
    have ⟨same, templates⟩ := closed.macroNamed _ _ head start named notMacro notDef
    rw [← same]
    split
    · rename_i definition found
      split
      · exact follows_fail (closed.raised _)
      · rename_i expansion expanded
        have mentioned :=
          Macro.mentionsOnly_of_expand expanded (templates definition found).2 passed
        exact inner _ _ expansion start mentioned
    split
    · exact follows_ofExcept (closed.ends_makeFunction start passed)
    split
    · exact closed.follows_choose inner start passed
    · exact sequenced
  · exact sequenced

theorem Closed.followedBy_expression {leftInside rightInside : Inside Host}
    (inner : simulation.FollowedBy leftInside.expression rightInside.expression)
    (bodies : simulation.FollowedBy leftInside.body rightInside.body) :
    simulation.FollowedBy (expression left leftInside) (expression right rightInside) := by
  intro leftStart rightStart expr start mentions
  cases expr with
  | number value => exact follows_ok ⟨closed.plain _ rfl nofun, start⟩
  | bool value => exact follows_ok ⟨closed.plain _ rfl nofun, start⟩
  | symbol name =>
      have looked := closed.lookup _ _ name start (Expr.mentionsOnly_symbol.mp mentions)
      exact follows_ok ⟨looked, start⟩
  | form elements =>
      have within := Expr.mentionsOnly_form.mp mentions
      exact follows_mapError (closed.follows_form inner bodies start within)
        (closed.inForm (.form elements)) (closed.cutInForm (.form elements))

/-- **The second run follows the first** where it has enough levels left. The induction reaches two
levels down, to the bodies of functions. -/
theorem Closed.followedBy_evaluate {levels more : Nat}
    (enough : simulation.Enough left levels more) :
    simulation.FollowedBy (Evaluation.evaluate left levels) (Evaluation.evaluate right more) := by
  induction levels using Nat.strongRecOn generalizing more with
  | ind levels ih =>
      intro leftStart rightStart expr start mentions
      cases levels with
      | zero =>
          rcases enough with rfl | ⟨_, short⟩
          · exact closed.follows_exceeded
          · exact follows_cut _ short
      | succ levels =>
          cases more with
          | zero => exact absurd enough.le (Nat.not_succ_le_zero levels)
          | succ more =>
              rw [evaluate_succ, evaluate_succ]
              have inner := ih levels (Nat.lt_succ_self levels) (enough.sub 1)
              have bodies := ih (levels - 1) (by omega) (enough.sub 2)
              exact closed.followedBy_expression inner bodies _ _ expr start mentions

/-- A program is evaluated as the elements of a form are. -/
theorem Closed.follows_evaluateProgram {leftStart rightStart : Environment Host}
    {program : List Expr} (enough : simulation.Enough left left.limit right.limit)
    (start : simulation.environment leftStart rightStart)
    (mentions : ∀ element ∈ program, element.MentionsOnly simulation.names) :
    simulation.Follows simulation.Reached (evaluateProgram left leftStart program)
      (evaluateProgram right rightStart program) := by
  unfold evaluateProgram
  split
  · rename_i noLevel
    rcases enough with same | ⟨_, short⟩
    · rw [← same, noLevel]
      exact closed.follows_exceeded
    · exact follows_cut _ short
  · rename_i levels leftLimit
    rw [leftLimit] at enough
    split
    · rename_i noLevel
      exact absurd (noLevel ▸ enough.le) (Nat.not_succ_le_zero levels)
    · rename_i more rightLimit
      rw [rightLimit] at enough
      exact closed.follows_form (closed.followedBy_evaluate (enough.sub 1))
        (closed.followedBy_evaluate (enough.sub 2)) start mentions

end Rules

/-! ## Comparison by equality -/

/-- Everything is compared by equality except the errors. -/
def equality (error : Error → Error → Prop) (cut : Error → Prop) : Simulation Host where
  names _ := True
  value := Eq
  environment := Eq
  printed := Eq
  error := error
  cut := cut

/-- Another limit on the depth leaves the rules of evaluation as they are, whatever is said about
the errors for running out of levels. -/
theorem closed_equality {error : Error → Error → Prop} {cut : Error → Prop} {handler : Handler Host}
    {limit other : Nat} (raised : ∀ raised, error raised raised)
    (inForm : ∀ (form : Expr) (left right : Error), error left right →
      error (left.inForm form) (right.inForm form))
    (cutInForm : ∀ (form : Expr) (raised : Error), cut raised → cut (raised.inForm form))
    (exceeded : error (.depthExceeded limit) (.depthExceeded other) ∨ cut (.depthExceeded limit)) :
    (equality error cut).Closed ⟨handler, limit⟩ ⟨handler, other⟩ where
  plain _ _ _ := rfl
  shape := by
    rintro value _ rfl
    exact .refl (fun _ _ => trivial) fun _ _ _ _ => rfl
  describe _ _ same := congrArg Value.describe same
  raised := raised
  lookup := by
    rintro environment _ name rfl _
    rfl
  bind := by
    rintro environment _ name value _ rfl _ rfl
    rfl
  bindMacro := by
    rintro environment _ name definition rfl _ _
    rfl
  macroNamed := by
    rintro environment _ name rfl _ _ _
    exact ⟨rfl, fun definition _ => ⟨fun _ _ => trivial, fun _ _ => trivial⟩⟩
  perform := by
    rintro builtin operation _ environment _ arguments _ same rfl passed
    cases same
    cases eq_of_forall₂ (fun _ _ => id) passed
    exact asks_refl (fun _ => rfl) (fun _ _ => id) (fun _ => rfl) raised _
  inForm := inForm
  cutInForm := cutInForm
  exceeded := exceeded

end Simulation
end Lisplet
