import Lisplet.Proofs.PrimitiveCalls

/-!
# What the primitives refuse

A call of a primitive can go wrong in three ways, and they are looked at in this order:
* the primitive does not take that many arguments;
* an argument is not what the primitive takes at its position (`Primitive.Fits`), and of several
  such arguments the leftmost one counts;
* an argument that becomes an element of a vector has as many levels as a value may have, so that
  the vector would have too many (`Primitive.enclosed`).

In all other cases the call succeeds (`primitive_refuses`). Only `reduce` is different: it has two
checks, and then calls its first argument.

Arguments are read one after the other, whatever the signature. So the second point is seen for the
reading of one argument before others (`Ends.read`), from which every signature is put together.
-/

set_option autoImplicit false

namespace Lisplet

variable {Host : Type}

/-! ## Arguments of a kind -/

/-- What is wrong with an argument that has to be of a kind. -/
def Kind.fault? : Kind → Value Host → Option TypeFault
  | .any, _ => none
  | .number, .number _ => none
  | .vector, .vector _ => none
  | .number, other => some (.notNumber other.describe)
  | .vector, other => some (.notVector other.describe)

namespace Kind

variable {kind : Kind} {value : Value Host}

theorem read_eq_error {fault : TypeFault} (misfit : kind.fault? value = some fault) :
    kind.read value = .error (.ofFault fault) := by
  cases kind with
  | any => cases misfit
  | number => cases value <;> cases misfit <;> rfl
  | vector => cases value <;> cases misfit <;> rfl

theorem exists_read (fits : kind.fault? value = none) :
    ∃ content, kind.read value = .ok content := by
  cases kind with
  | any => exact ⟨value, rfl⟩
  | number =>
      cases value with
      | number number => exact ⟨number, rfl⟩
      | null | bool _ | symbol _ | vector _ | list _ | function _ _ | builtin _ _ => cases fits
  | vector =>
      cases value with
      | vector items => exact ⟨items, rfl⟩
      | null | number _ | bool _ | symbol _ | list _ | function _ _ | builtin _ _ => cases fits

theorem eq_vector_of_read {items : List (Value Host)} (read : Kind.vector.read value = .ok items) :
    value = .vector items := by
  cases value with
  | vector _ => cases read; rfl
  | null | number _ | bool _ | symbol _ | list _ | function _ _ | builtin _ _ => cases read

end Kind

/-! ## Reading arguments from left to right -/

/-- Each argument is of the kind of its position. -/
def FitsAll (parameter : Nat → Kind) (arguments : List (Value Host)) : Prop :=
  ∀ position argument, arguments[position]? = some argument →
    (parameter position).fault? argument = none

theorem fitsAll_nil (parameter : Nat → Kind) : FitsAll parameter ([] : List (Value Host)) :=
  fun _ _ found => nomatch found

theorem fitsAll_cons_iff {parameter : Nat → Kind} {first : Value Host} {rest : List (Value Host)} :
    FitsAll parameter (first :: rest) ↔
      (parameter 0).fault? first = none ∧
        FitsAll (fun position => parameter (position + 1)) rest := by
  constructor
  · exact fun fits => ⟨fits 0 first rfl, fun position argument => fits (position + 1) argument⟩
  · rintro ⟨head, tail⟩ position argument found
    cases position with
    | zero =>
        obtain rfl := Option.some.inj found
        exact head
    | succ position => exact tail position argument found

/-- What an operation comes to whose arguments have to be of the kinds of their positions: if one of
them is not, the leftmost such argument is the error, and otherwise the outcome is as stated. -/
structure Ends (parameter : Nat → Kind) (arguments : List (Value Host))
    (stated : Except Error (Value Host) → Prop) (outcome : Except Error (Value Host)) : Prop where
  misfit : ¬ FitsAll parameter arguments → ∃ front argument rest fault,
    arguments = front ++ argument :: rest ∧ FitsAll parameter front ∧
      (parameter front.length).fault? argument = some fault ∧ outcome = .error (.ofFault fault)
  fits : FitsAll parameter arguments → stated outcome

namespace Ends

variable {parameter : Nat → Kind} {stated : Except Error (Value Host) → Prop}

theorem nil {outcome : Except Error (Value Host)} (settled : stated outcome) :
    Ends parameter [] stated outcome where
  misfit misfit := absurd (fitsAll_nil parameter) misfit
  fits _ := settled

/-- One argument is read before the others: if it is not of its kind, nothing else matters. -/
theorem read {first : Value Host} {rest : List (Value Host)}
    {next : (parameter 0).Carrier Host → Except Error (Value Host)}
    (later : ∀ content, (parameter 0).read first = .ok content →
      Ends (fun position => parameter (position + 1)) rest stated (next content)) :
    Ends parameter (first :: rest) stated (((parameter 0).read first).bind next) := by
  cases here : (parameter 0).fault? first with
  | some fault =>
      constructor
      · intro _
        refine ⟨[], first, rest, fault, rfl, fitsAll_nil parameter, here, ?_⟩
        rw [Kind.read_eq_error here]
        rfl
      · intro fits
        rw [(fitsAll_cons_iff.mp fits).1] at here
        cases here
  | none =>
      obtain ⟨content, read⟩ := Kind.exists_read here
      have ends := later content read
      rw [read]
      constructor
      · intro misfit
        have misfitsLater : ¬ FitsAll (fun position => parameter (position + 1)) rest :=
          fun fits => misfit (fitsAll_cons_iff.mpr ⟨here, fits⟩)
        obtain ⟨front, argument, behind, fault, rfl, fits, wrong, fails⟩ := ends.misfit misfitsLater
        exact ⟨first :: front, argument, behind, fault, rfl, fitsAll_cons_iff.mpr ⟨here, fits⟩,
          wrong, fails⟩
      · exact fun fits => ends.fits (fitsAll_cons_iff.mp fits).2

/-- All arguments are read, each of them of the same kind. -/
theorem readAll {kind : Kind} {arguments : List (Value Host)}
    {function : List (kind.Carrier Host) → Except Error (Value Host)}
    (settled : ∀ contents, kind.readAll arguments = .ok contents → stated (function contents)) :
    Ends (fun _ => kind) arguments stated ((kind.readAll arguments).bind function) := by
  induction arguments generalizing function with
  | nil => exact nil (settled [] rfl)
  | cons first rest ih =>
      have stepwise : (kind.readAll (first :: rest)).bind function =
          (kind.read first).bind fun content =>
            (kind.readAll rest).bind fun contents => function (content :: contents) := by
        rw [Kind.readAll]
        cases kind.read first with
        | error _ => rfl
        | ok _ => cases kind.readAll rest <;> rfl
      rw [stepwise]
      refine read fun content head => ih fun contents tail => settled (content :: contents) ?_
      rw [Kind.readAll, head, tail]

end Ends

theorem Signature.readFixed_cons (tooFew : Error) (kind : Kind) (kinds : List Kind)
    (function : Fixed Host (kind :: kinds)) (first : Value Host) (rest : List (Value Host)) :
    readFixed tooFew (kind :: kinds) function (first :: rest) =
      (kind.read first).bind fun content => readFixed tooFew kinds (function content) rest := by
  rw [readFixed]
  cases kind.read first <;> rfl

/-! ## What each primitive takes and builds -/

namespace Primitive

/-- The kind of the argument at a position. -/
def parameter : Primitive → Nat → Kind
  | .add, _ => .number
  | .multiply, _ => .number
  | .subtract, _ => .number
  | .divide, _ => .number
  | .power, _ => .number
  | .less, _ => .number
  | .append, 1 => .vector
  | _, _ => .any

/-- Each argument is what the primitive takes at its position. -/
def Fits (primitive : Primitive) (arguments : List (Value Host)) : Prop :=
  FitsAll primitive.parameter arguments

/-- The arguments that become elements of a vector. -/
def enclosed : Primitive → List (Value Host) → List (Value Host)
  | .arrayOf, arguments => arguments
  | .append, arguments => arguments.take 1
  | _, _ => []

/-- The vector built of the arguments. -/
def built? : Primitive → List (Value Host) → Option (Value Host)
  | .arrayOf, arguments => some (.vector arguments)
  | .append, [item, .vector items] => some (.vector (Value.append item items))
  | _, _ => none

/-- What comes of arguments that fit: an error if one that becomes an element has too many levels
for that, and otherwise a value, which is the vector built of the arguments if there is one. -/
def Settles (primitive : Primitive) (arguments : List (Value Host))
    (outcome : Except Error (Value Host)) :
    Prop :=
  if maxNesting ≤ Value.deepest (primitive.enclosed arguments) then
    outcome = .error (.nestingTooDeep maxNesting)
  else ∃ value, outcome = .ok value ∧ ∀ built ∈ primitive.built? arguments, value = built

/-- Where no vector is built, there is a value. -/
theorem settles_of_ok {primitive : Primitive} {arguments : List (Value Host)} (value : Value Host)
    (noneEnclosed : primitive.enclosed arguments = [])
    (noneBuilt : primitive.built? arguments = none) :
    primitive.Settles arguments (.ok value) := by
  have shallow : ¬ maxNesting ≤ Value.deepest ([] : List (Value Host)) := Nat.not_succ_le_zero _
  rw [Settles, noneEnclosed, noneBuilt, if_neg shallow]
  exact ⟨value, rfl, fun _ member => absurd member (Option.not_mem_none _)⟩

/-- Where a vector is built, its new elements are checked. -/
theorem settles_of_checked {primitive : Primitive} {arguments : List (Value Host)}
    {built : Value Host} (isBuilt : primitive.built? arguments = some built) :
    primitive.Settles arguments
      ((Value.checkNesting (primitive.enclosed arguments)).map fun _ => built) := by
  rw [Settles]
  by_cases deep : maxNesting ≤ Value.deepest (primitive.enclosed arguments)
  · rw [if_pos deep, Value.checkNesting, if_pos (Nat.lt_succ_of_le deep)]
    rfl
  · rw [if_neg deep, Value.checkNesting_eq_ok_iff.mpr (Nat.lt_of_not_le deep), isBuilt]
    exact ⟨built, rfl, fun _ same => Option.some.inj same⟩

theorem perform_of_refused {primitive : Primitive} {arguments : List (Value Host)}
    (refused : primitive.arity.accepts arguments.length = false) :
    primitive.perform arguments = .fail (.arity primitive.id primitive.arity arguments.length) := by
  rw [perform, Arity.validate, refused]
  rfl

theorem perform_of_accepted {primitive : Primitive} {arguments : List (Value Host)}
    (accepted : primitive.arity.accepts arguments.length = true) :
    primitive.perform arguments = primitive.body arguments := by
  rw [perform, Arity.validate, accepted]
  rfl

/-- **What a primitive other than `reduce` does with as many arguments as it takes**, one signature
after the other. -/
theorem body_ends {primitive : Primitive} (other : primitive ≠ .reduce)
    {arguments : List (Value Host)} (accepted : primitive.arity.accepts arguments.length = true) :
    ∃ outcome, primitive.body arguments = .ofExcept outcome ∧
      Ends primitive.parameter arguments (primitive.Settles arguments) outcome := by
  cases primitive with
  | add | multiply =>
      refine ⟨_, rfl, ?_⟩
      show Ends (fun _ => .number) _ _ _
      exact .readAll fun _ _ => settles_of_ok _ rfl rfl
  | subtract | divide | power =>
      cases arguments with
      | nil => cases accepted
      | cons first rest =>
          refine ⟨_, rfl, ?_⟩
          show Ends (fun _ => .number) _ _ _
          exact .read fun _ _ => .readAll fun _ _ => settles_of_ok _ rfl rfl
  | less =>
      obtain ⟨left, right, rfl⟩ := List.length_eq_two.mp (beq_iff_eq.mp accepted)
      refine ⟨_, rfl, ?_⟩
      show Ends (fun _ => .number) _ _ (Signature.readFixed _ [.number, .number] _ [left, right])
      rw [Signature.readFixed_cons]
      refine .read fun _ _ => ?_
      rw [Signature.readFixed_cons]
      exact .read fun _ _ => .nil (settles_of_ok _ rfl rfl)
  | not =>
      obtain ⟨value, rfl⟩ := List.length_eq_one_iff.mp (beq_iff_eq.mp accepted)
      exact ⟨_, rfl, .read fun _ _ => .nil (settles_of_ok _ rfl rfl)⟩
  | equal =>
      refine ⟨_, rfl, ?_⟩
      show Ends (fun _ => .any) _ _ _
      exact .readAll fun _ _ => settles_of_ok _ rfl rfl
  | arrayOf =>
      refine ⟨_, rfl, ?_⟩
      show Ends (fun _ => .any) _ _ _
      refine .readAll fun contents read => ?_
      obtain rfl := Except.ok.inj ((Kind.readAll_any arguments).symm.trans read)
      exact settles_of_checked rfl
  | append =>
      obtain ⟨item, vector, rfl⟩ := List.length_eq_two.mp (beq_iff_eq.mp accepted)
      refine ⟨_, rfl, ?_⟩
      show Ends _ _ _ (Signature.readFixed _ [.any, .vector] extendVector [item, vector])
      rw [Signature.readFixed_cons]
      refine .read fun content read => ?_
      obtain rfl := Except.ok.inj read
      rw [Signature.readFixed_cons]
      refine .read fun items read => ?_
      obtain rfl := Kind.eq_vector_of_read read
      exact .nil (settles_of_checked rfl)
  | reduce => exact absurd rfl other

/-- Arguments in the number that a primitive takes are not refused for their number. -/
theorem ne_arity_of_ends {primitive : Primitive} {arguments : List (Value Host)}
    {outcome : Except Error (Value Host)}
    (ends : Ends primitive.parameter arguments (primitive.Settles arguments) outcome) (id : String)
    (arity : Arity) (count : Nat) : outcome ≠ .error (.arity id arity count) := by
  rintro rfl
  by_cases fits : primitive.Fits arguments
  · have settled := ends.fits fits
    rw [Settles] at settled
    split at settled
    · cases settled
    · obtain ⟨value, same, _⟩ := settled
      cases same
  · obtain ⟨_, _, _, _, _, _, _, same⟩ := ends.misfit fits
    cases same

/-- Of arguments that have no more levels than a value may have, one that becomes an element has as
many exactly when the vector has more. -/
theorem deepest_enclosed_iff {primitive : Primitive} {arguments : List (Value Host)}
    (accepted : primitive.arity.accepts arguments.length = true) (fits : primitive.Fits arguments)
    (within : ∀ argument ∈ arguments, argument.nestingDepth ≤ maxNesting) :
    maxNesting ≤ Value.deepest (primitive.enclosed arguments) ↔
      ∃ built, primitive.built? arguments = some built ∧ maxNesting < built.nestingDepth := by
  cases primitive with
  | add | multiply | subtract | divide | power | less | not | equal | reduce =>
      exact ⟨fun deep => absurd deep (Nat.not_succ_le_zero _), by rintro ⟨built, ⟨⟩, _⟩⟩
  | arrayOf =>
      constructor
      · exact fun deep => ⟨_, rfl, Nat.lt_succ_of_le deep⟩
      · rintro ⟨_, ⟨⟩, deep⟩
        exact Nat.le_of_lt_succ deep
  | append =>
      obtain ⟨item, vector, rfl⟩ := List.length_eq_two.mp (beq_iff_eq.mp accepted)
      obtain ⟨items, read⟩ := Kind.exists_read (fits 1 vector rfl)
      obtain rfl := Kind.eq_vector_of_read read
      have old : Value.deepest items + 1 ≤ maxNesting := within (.vector items) (by simp)
      have levels : (Value.vector (Value.append item items)).nestingDepth =
          max (Value.deepest items) (Value.deepest [item]) + 1 :=
        congrArg (· + 1) (Value.deepest_append items [item])
      constructor
      · intro deep
        refine ⟨_, rfl, ?_⟩
        rw [levels]
        exact Nat.lt_succ_of_le (deep.trans (Nat.le_max_right _ _))
      · rintro ⟨_, ⟨⟩, deep⟩
        rw [levels] at deep
        show maxNesting ≤ Value.deepest [item]
        omega

/-! ## `reduce` -/

/-- The first argument has to be callable, and then the third one a vector; only then anything is
called. -/
theorem perform_reduce (reducer seed items : Value Host) :
    perform .reduce [reducer, seed, items] =
      if reducer.isCallable then
        .withResult (Kind.vector.read items) fun elements => .fold reducer seed elements
      else .fail (.ofFault (.notReducer reducer.describe)) := rfl

end Primitive

/-- **What the calls of the primitives come to**, at any place: the number of arguments is looked at
first, then what each of them is, from left to right, and then the levels of those that become
elements of a vector. -/
theorem primitive_refuses (setting : Setting Host) (body : Evaluator Host) (chain : Nat)
    (environment : Environment Host) (primitive : Primitive) (arguments : List (Value Host)) :
    let called := Evaluation.call setting body (chain + 1) environment primitive.toValue arguments
    (primitive.arity.accepts arguments.length = false →
      called = .fail (.arity primitive.id primitive.arity arguments.length)) ∧
    (primitive.arity.accepts arguments.length = true → primitive ≠ .reduce →
      (∀ id arity count, called ≠ .fail (.arity id arity count)) ∧
      (¬ primitive.Fits arguments → ∃ front argument rest fault,
        arguments = front ++ argument :: rest ∧
        primitive.Fits front ∧ (primitive.parameter front.length).fault? argument = some fault ∧
          called = .fail (.ofFault fault)) ∧
      (primitive.Fits arguments →
        if maxNesting ≤ Value.deepest (primitive.enclosed arguments) then
          called = .fail (.nestingTooDeep maxNesting)
        else ∃ value, called = .ok value ∧ ∀ built ∈ primitive.built? arguments, value = built) ∧
      (primitive.Fits arguments → (∀ argument ∈ arguments, argument.nestingDepth ≤ maxNesting) →
        (maxNesting ≤ Value.deepest (primitive.enclosed arguments) ↔
          ∃ built, primitive.built? arguments = some built ∧ maxNesting < built.nestingDepth))) ∧
    ∀ reducer seed items, primitive = .reduce → arguments = [reducer, seed, items] →
      (reducer.isCallable = false →
        primitive.perform arguments = .fail (.ofFault (.notReducer reducer.describe)) ∧
          called = .fail (.ofFault (.notReducer reducer.describe))) ∧
      (reducer.isCallable = true → ∀ fault, Kind.vector.fault? items = some fault →
        primitive.perform arguments = .fail (.ofFault fault) ∧ called = .fail (.ofFault fault)) ∧
      (reducer.isCallable = true → ∀ elements, items = .vector elements →
        called = (Action.fold reducer seed elements).run
          (Evaluation.call setting body chain environment)) := by
  intro called
  have performed : called =
      (primitive.perform arguments).run (Evaluation.call setting body chain environment) := rfl
  refine ⟨fun refused => ?_, fun accepted other => ?_, ?_⟩
  · rw [performed, Primitive.perform_of_refused refused]
    rfl
  · obtain ⟨outcome, does, ends⟩ := Primitive.body_ends other accepted
    rw [Primitive.perform_of_accepted accepted, does, Action.run_ofExcept] at performed
    rw [performed]
    refine ⟨fun id arity count same => ?_, fun misfit => ?_, fun fits => ?_,
      Primitive.deepest_enclosed_iff accepted⟩
    · exact Primitive.ne_arity_of_ends ends id arity count (congrArg Run.outcome same)
    · obtain ⟨front, argument, rest, fault, split, before, wrong, rfl⟩ := ends.misfit misfit
      exact ⟨front, argument, rest, fault, split, before, wrong, rfl⟩
    · have settled := ends.fits fits
      rw [Primitive.Settles] at settled
      split at settled
      · rename_i deep
        rw [if_pos deep, settled]
        rfl
      · rename_i shallow
        obtain ⟨value, rfl, isBuilt⟩ := settled
        rw [if_neg shallow]
        exact ⟨value, rfl, isBuilt⟩
  · rintro reducer seed items rfl rfl
    rw [performed, Primitive.perform_reduce]
    refine ⟨fun notCallable => ?_, fun callable fault wrong => ?_, fun callable elements same => ?_⟩
    · rw [notCallable]
      exact ⟨rfl, rfl⟩
    · rw [callable, Kind.read_eq_error wrong]
      exact ⟨rfl, rfl⟩
    · rw [callable, same]
      rfl

/-- Three arguments where two are taken; a symbol before a vector where numbers are taken; one level
too many; and a fold with neither a function nor a vector. -/
theorem primitive_refuses_each :
    let called (primitive : Primitive) (arguments : List (Value Empty)) :=
      Evaluation.call ⟨noHost, 100⟩ (Evaluation.evaluate ⟨noHost, 100⟩ 10)
        (9 + 1) .empty primitive.toValue
        arguments
    let mixed : List (Value Empty) := [.number 1, .symbol "x", .vector []]
    let deep : List (Value Empty) := [.wrapped maxNesting .null, .vector []]
    (Primitive.less.arity.accepts 3 = false ∧
        called .less [.null, .null, .null] = .fail (.arity "<" (.exactly 2) 3)) ∧
      (Primitive.add.arity.accepts 3 = true ∧ ¬ Primitive.add.Fits mixed ∧
        called .add mixed = .fail (.ofFault (.notNumber "symbol x"))) ∧
      (Primitive.append.arity.accepts 2 = true ∧ Primitive.append.Fits deep ∧
        called .append deep = .fail (.nestingTooDeep maxNesting)) ∧
      (Value.null : Value Empty).isCallable = false ∧
        called .reduce [.null, .null, .null] = .fail (.ofFault (.notReducer "null null")) := by
  intro called mixed deep
  have each (primitive : Primitive) (arguments : List (Value Empty)) :=
    primitive_refuses ⟨noHost, 100⟩ (Evaluation.evaluate ⟨noHost, 100⟩ 10) 9 .empty primitive
      arguments
  refine ⟨⟨rfl, (each .less [.null, .null, .null]).1 rfl⟩, ⟨rfl, ?_⟩, ⟨rfl, ?_⟩, rfl, ?_⟩
  · have misfit : ¬ Primitive.add.Fits mixed := by
      intro fits
      cases fits 1 (.symbol "x") rfl
    have described : (Value.symbol "x" : Value Empty).describe = "symbol x" := by decide +kernel
    obtain ⟨front, argument, rest, fault, same, fits, wrong, fails⟩ :=
      ((each .add mixed).2.1 rfl (by decide)).2.1 misfit
    refine ⟨misfit, ?_⟩
    match front with
    | [] =>
        obtain ⟨rfl, _⟩ := List.cons.inj same
        cases wrong
    | [first] =>
        obtain ⟨_, same⟩ := List.cons.inj same
        obtain ⟨rfl, _⟩ := List.cons.inj same
        cases wrong
        rw [← described]
        exact fails
    | _ :: second :: front =>
        obtain ⟨_, same⟩ := List.cons.inj same
        obtain ⟨rfl, _⟩ := List.cons.inj same
        cases fits 1 (.symbol "x") rfl
  · have fits (item : Value Empty) : Primitive.append.Fits [item, .vector []] :=
      fitsAll_cons_iff.mpr ⟨rfl, fitsAll_cons_iff.mpr ⟨rfl, fitsAll_nil _⟩⟩
    have refused (item : Value Empty) (levels : item.nestingDepth = maxNesting) :
        called .append [item, .vector []] = .fail (.nestingTooDeep maxNesting) := by
      have deepest : maxNesting ≤ Value.deepest (Primitive.append.enclosed [item, .vector []]) :=
        levels.ge.trans (Nat.le_max_left _ _)
      have fails := ((each .append [item, .vector []]).2.1 rfl (by decide)).2.2.1 (fits item)
      rw [if_pos deepest] at fails
      exact fails
    exact ⟨fits _, refused _ (Value.nestingDepth_wrapped maxNesting .null)⟩
  · have described : (Value.null : Value Empty).describe = "null null" := by decide +kernel
    rw [← described]
    exact (((each .reduce [.null, .null, .null]).2.2 .null .null .null rfl rfl).1 rfl).2

end Lisplet
