import Lisplet.Proofs.Invariant

/-!
# Invariants of the language without a host

Where every builtin is a primitive or `print`, an invariant is closed under evaluation when it is
closed under the few ways in which those make a vector or a list: a vector of given elements, a
vector with one more element, and the list of what was printed (`Native.closed`). Each of the three
is checked for its nesting first, and the invariant may use that check. Operations of a host may be
admitted too, as far as they keep the invariant (`Basic.closed`).

What a typed operation keeps follows from its signature: it is enough that the function behind the
signature keeps the invariant on the arguments that it gets.
-/

set_option autoImplicit false

namespace Lisplet

variable {Host α β : Type}

/-! ## Values without operations of a host -/

namespace Value

mutual

/-- No builtin in the value, at any depth, is an operation of a host. -/
def isNative : Value Host → Bool
  | .vector items => allNative items
  | .list items => allNative items
  | .builtin _ (.host _) => false
  | _ => true

/-- The same for all of several values. -/
def allNative : List (Value Host) → Bool
  | [] => true
  | first :: rest => isNative first && allNative rest

end

theorem allNative_iff (items : List (Value Host)) :
    allNative items = true ↔ ∀ item ∈ items, item.isNative = true := by
  induction items with
  | nil => simp [allNative]
  | cons first rest ih => simp [allNative, ih]

theorem isNative_of_isPlain {value : Value Host} (plain : value.isPlain = true) :
    value.isNative = true := by
  cases value with
  | null | bool _ | symbol _ | number _ | function _ _ => rfl
  | vector _ | list _ | builtin _ _ => cases plain

end Value

namespace Invariant

variable {invariant : Invariant Host}

/-! ## Signatures -/

/-- What a function gets for an argument of a kind is admitted. -/
def Carries (invariant : Invariant Host) : (kind : Kind) → kind.Carrier Host → Prop
  | .any, value => invariant.value value
  | .number, _ => True
  | .vector, items => invariant.value (.vector items)

/-- A function of a fixed number of arguments gives admitted results for admitted arguments. -/
def KeepsFixed (invariant : Invariant Host) :
    (kinds : List Kind) → Signature.Fixed Host kinds → Prop
  | [], outcome => invariant.Ends invariant.value outcome
  | kind :: kinds, function =>
      ∀ argument, invariant.Carries kind argument → invariant.KeepsFixed kinds (function argument)

section Signatures

variable (raised : ∀ raised : Error, raised.isRaisable = true → invariant.error raised)
include raised

theorem ends_read (kind : Kind) {value : Value Host} (admitted : invariant.value value) :
    invariant.Ends (invariant.Carries kind) (kind.read value) := by
  cases kind with
  | any => exact admitted
  | number =>
      cases value with
      | number number => exact trivial
      | null | bool _ | symbol _ | vector _ | list _ | function _ _ | builtin _ _ =>
          exact raised _ rfl
  | vector =>
      cases value with
      | vector items => exact admitted
      | null | bool _ | symbol _ | number _ | list _ | function _ _ | builtin _ _ =>
          exact raised _ rfl

theorem ends_readAll (kind : Kind) {values : List (Value Host)}
    (admitted : ∀ value ∈ values, invariant.value value) :
    invariant.Ends (fun arguments => ∀ argument ∈ arguments, invariant.Carries kind argument)
      (kind.readAll values) := by
  induction values with
  | nil => exact fun argument member => absurd member List.not_mem_nil
  | cons first rest ih =>
      have head := ends_read raised kind (admitted first List.mem_cons_self)
      have tail := ih fun value member => admitted value (List.mem_cons_of_mem first member)
      unfold Kind.readAll
      cases read : kind.read first with
      | error failure =>
          rw [read] at head
          exact head
      | ok argument =>
          rw [read] at head
          cases readRest : kind.readAll rest with
          | error failure =>
              rw [readRest] at tail
              exact tail
          | ok arguments =>
              rw [readRest] at tail
              exact List.forall_mem_cons.mpr ⟨head, tail⟩

theorem ends_applyRest {kind : Kind}
    {function : List (kind.Carrier Host) → Except Error (Value Host)} {values : List (Value Host)}
    (admitted : ∀ value ∈ values, invariant.value value)
    (keeps : ∀ arguments, (∀ argument ∈ arguments, invariant.Carries kind argument) →
      invariant.Ends invariant.value (function arguments)) :
    invariant.Ends invariant.value (Signature.applyRest kind function values) :=
  ends_bind (ends_readAll raised kind admitted) keeps

theorem ends_applyFirstRest {name : String} {first rest : Kind}
    {function : first.Carrier Host → List (rest.Carrier Host) → Except Error (Value Host)}
    {values : List (Value Host)} (admitted : ∀ value ∈ values, invariant.value value)
    (keeps : ∀ head tail, invariant.Carries first head →
      (∀ argument ∈ tail, invariant.Carries rest argument) →
        invariant.Ends invariant.value (function head tail)) :
    invariant.Ends invariant.value (Signature.applyFirstRest name first rest function values) := by
  cases values with
  | nil => exact raised _ rfl
  | cons value values =>
      refine ends_bind (ends_read raised first (admitted value List.mem_cons_self))
        fun head carried => ?_
      refine ends_bind (ends_readAll raised rest fun later member =>
        admitted later (List.mem_cons_of_mem value member)) fun tail others => ?_
      exact keeps head tail carried others

theorem ends_readFixed {tooFew : Error} (admittedTooFew : invariant.error tooFew)
    (kinds : List Kind) {function : Signature.Fixed Host kinds} {values : List (Value Host)}
    (admitted : ∀ value ∈ values, invariant.value value)
    (keeps : invariant.KeepsFixed kinds function) :
    invariant.Ends invariant.value (Signature.readFixed tooFew kinds function values) := by
  induction kinds generalizing values with
  | nil => exact keeps
  | cons kind kinds ih =>
      cases values with
      | nil => exact admittedTooFew
      | cons value values =>
          have head := ends_read raised kind (admitted value List.mem_cons_self)
          unfold Signature.readFixed
          cases read : kind.read value with
          | error failure =>
              rw [read] at head
              exact head
          | ok argument =>
              rw [read] at head
              exact ih (fun later member => admitted later (List.mem_cons_of_mem value member))
                (keeps argument head)

theorem ends_applyFixed {name : String} {kinds : List Kind} {function : Signature.Fixed Host kinds}
    {values : List (Value Host)} (admitted : ∀ value ∈ values, invariant.value value)
    (keeps : invariant.KeepsFixed kinds function) :
    invariant.Ends invariant.value (Signature.applyFixed name kinds function values) := by
  unfold Signature.applyFixed
  split
  · exact ends_readFixed raised (raised _ rfl) kinds admitted keeps
  · exact raised _ rfl

end Signatures

/-! ## Primitives and `print` -/

/-- An invariant that the primitives and `print` keep. -/
structure Basic (invariant : Invariant Host) : Prop where
  plain : ∀ value, value.isPlain = true → invariant.value value
  element : ∀ items, invariant.value (.vector items) → ∀ item ∈ items, invariant.value item
  vector : ∀ items, Value.checkNesting items = .ok () → (∀ item ∈ items, invariant.value item) →
    invariant.value (.vector items)
  append : ∀ item items, Value.checkNesting [item] = .ok () → invariant.value item →
    invariant.value (.vector items) → invariant.value (.vector (Value.append item items))
  list : ∀ items, Value.checkNesting items = .ok () → (∀ item ∈ items, invariant.value item) →
    invariant.value (.list items)
  printed : ∀ sink values, Value.checkNesting values = .ok () →
    (∀ value ∈ values, invariant.value value) → invariant.printed ⟨sink, values⟩
  lookup : ∀ environment name, invariant.environment environment →
    invariant.value (environment.lookup name)
  bind : ∀ environment name value, invariant.environment environment → invariant.value value →
    invariant.environment (environment.bind name value)
  bindMacro : ∀ environment name definition, invariant.environment environment →
    invariant.environment (environment.bindMacro name definition)
  raised : ∀ raised, raised.isRaisable = true → invariant.error raised
  inForm : ∀ elements raised, invariant.error raised →
    invariant.error (raised.inForm (.form elements))

/-- An invariant that the primitives and `print` keep, and that admits no operation of a host. -/
structure Native (invariant : Invariant Host) : Prop extends invariant.Basic where
  host : ∀ id operation, ¬ invariant.value (.builtin id (.host operation))

namespace Basic

variable (basic : invariant.Basic)
include basic

theorem ends_checkNesting (values : List (Value Host)) :
    invariant.Ends (fun _ => Value.checkNesting values = .ok ()) (Value.checkNesting values) := by
  cases checked : Value.checkNesting values with
  | ok _ => exact rfl
  | error failure =>
      unfold Value.checkNesting at checked
      split at checked
      · cases checked
        exact basic.raised _ rfl
      · cases checked

theorem ends_makeVector {items : List (Value Host)}
    (admitted : ∀ item ∈ items, invariant.value item) :
    invariant.Ends invariant.value (Primitive.makeVector items) :=
  ends_map (basic.ends_checkNesting items) fun _ checked => basic.vector items checked admitted

theorem ends_extendVector {item : Value Host} {items : List (Value Host)}
    (admitted : invariant.value item) (extended : invariant.value (.vector items)) :
    invariant.Ends invariant.value (Primitive.extendVector item items) :=
  ends_map (basic.ends_checkNesting [item]) fun _ checked =>
    basic.append item items checked admitted extended

theorem keeps_printing (sink : Sink) {arguments : List (Value Host)}
    (passed : ∀ argument ∈ arguments, invariant.value argument) :
    invariant.Keeps (Operation.printing sink arguments) :=
  keeps_withResult (basic.ends_checkNesting arguments) fun _ checked =>
    ⟨basic.printed sink arguments checked passed, basic.list arguments checked passed⟩

theorem keeps_reduction {arguments : List (Value Host)}
    (passed : ∀ argument ∈ arguments, invariant.value argument) :
    invariant.Keeps (Primitive.reduction arguments) := by
  unfold Primitive.reduction
  split
  · rename_i reducer seed items
    have reducing := passed reducer (by simp)
    have start := passed seed (by simp)
    have folded := ends_read basic.raised .vector (passed items (by simp))
    split
    · rename_i callable
      exact keeps_withResult folded fun items admitted =>
        keeps_fold callable reducing start (basic.element items admitted)
    · exact basic.raised _ rfl
  · exact basic.raised _ rfl

theorem keeps_primitive (primitive : Primitive) {arguments : List (Value Host)}
    (passed : ∀ argument ∈ arguments, invariant.value argument) :
    invariant.Keeps (primitive.perform arguments) := by
  have numbers : ∀ step start (values : List Float),
      invariant.Ends invariant.value (Primitive.gather step start values) := fun _ _ _ =>
    basic.plain _ rfl
  have accepted : invariant.Ends (fun _ => True)
      (primitive.arity.validate primitive.id arguments.length) := by
    unfold Arity.validate
    split
    · exact trivial
    · exact basic.raised _ rfl
  refine keeps_withResult accepted fun _ _ => ?_
  cases primitive with
  | add | multiply =>
      exact keeps_ofExcept (ends_applyRest basic.raised passed fun values _ => numbers _ _ values)
  | subtract | divide | power =>
      exact keeps_ofExcept (ends_applyFirstRest basic.raised passed fun first values _ _ =>
        numbers _ first values)
  | less =>
      exact keeps_ofExcept (ends_applyFixed basic.raised passed fun left _ right _ =>
        basic.plain _ rfl)
  | not =>
      exact keeps_ofExcept (ends_applyFixed basic.raised passed fun value _ => basic.plain _ rfl)
  | equal =>
      exact keeps_ofExcept (ends_applyRest basic.raised passed fun values _ => basic.plain _ rfl)
  | arrayOf =>
      exact keeps_ofExcept (ends_applyRest basic.raised passed fun values admitted =>
        basic.ends_makeVector admitted)
  | append =>
      exact keeps_ofExcept (ends_applyFixed basic.raised passed fun item admitted items extended =>
        basic.ends_extendVector admitted extended)
  | reduce => exact basic.keeps_reduction passed

/-- Such an invariant is closed when the operations of the host keep it that it admits. -/
theorem closed (setting : Setting Host)
    (host : ∀ id operation environment arguments, invariant.value (.builtin id (.host operation)) →
      invariant.environment environment → (∀ argument ∈ arguments, invariant.value argument) →
        invariant.Keeps (setting.handler operation environment arguments)) :
    invariant.Closed setting where
  plain := basic.plain
  element := basic.element
  lookup := basic.lookup
  bind := basic.bind
  bindMacro := basic.bindMacro
  raised := basic.raised
  inForm := basic.inForm
  perform := by
    intro id operation environment arguments called start passed
    cases operation with
    | primitive primitive => exact basic.keeps_primitive primitive passed
    | print sink => exact basic.keeps_printing sink passed
    | host operation => exact host id operation environment arguments called start passed

end Basic

/-- **The language without a host keeps such an invariant**, under every setting. -/
theorem Native.closed (native : invariant.Native) (setting : Setting Host) :
    invariant.Closed setting :=
  native.toBasic.closed setting fun id operation _ _ called _ _ =>
    absurd called (native.host id operation)

/-! ## Native values -/

/-- Nothing is asked but that every builtin is one of the language, and that errors are admitted. -/
def language (error : Error → Prop) : Invariant Host where
  value value := value.isNative = true
  environment environment := environment.Binds fun value => value.isNative = true
  printed _ := True
  error := error

theorem native_language {error : Error → Prop}
    (raised : ∀ raised, raised.isRaisable = true → error raised)
    (inForm : ∀ elements raised, error raised → error (raised.inForm (.form elements))) :
    (language error : Invariant Host).Native where
  plain _ plain := Value.isNative_of_isPlain plain
  element items := (Value.allNative_iff items).mp
  vector items _ := (Value.allNative_iff items).mpr
  list items _ := (Value.allNative_iff items).mpr
  append := by
    intro item items _ added extended
    refine (Value.allNative_iff _).mpr fun element member => ?_
    rcases List.mem_append.mp member with among | last
    · exact (Value.allNative_iff items).mp extended element among
    · exact List.mem_singleton.mp last ▸ added
  printed _ _ _ _ := trivial
  host _ _ := Bool.noConfusion
  lookup _ name binds := binds.lookup (fun _ => rfl) name
  bind _ name _ binds admitted := binds.bind name admitted
  bindMacro _ _ _ binds := binds
  raised := raised
  inForm := inForm

end Invariant
end Lisplet
