import Lisplet.Proofs.Bindings
import Lisplet.Proofs.Printing
import Lisplet.Proofs.Simulation.Native

/-!
# Where `print` goes

The console and a log get the same from a program. The values that a program comes across when
`print` goes to one of them are those that it comes across when `print` goes to the other, but for
the sink in the builtins among them (`Value.redirect`), and nothing in the language tells two sinks
apart: not the kind of a value, its text, its levels of nesting or its truth, and not equality,
which compares builtins by their names. So the runs are alike step by step
(`Simulation.closed_redirection`), and end alike (`runProgram_sinks_agree`).
-/

set_option autoImplicit false

namespace Lisplet

variable {Host : Type}

/-! ## Values with another sink -/

/-- The operation with what it prints sent to a sink. -/
def Operation.redirect (sink : Sink) : Operation Host → Operation Host
  | .print _ => .print sink
  | other => other

namespace Value

mutual

/-- The value with what its builtins print sent to a sink. -/
def redirect (sink : Sink) : Value Host → Value Host
  | .vector items => .vector (redirectAll sink items)
  | .list items => .list (redirectAll sink items)
  | .builtin id operation => .builtin id (operation.redirect sink)
  | .null => .null
  | .number value => .number value
  | .bool value => .bool value
  | .symbol name => .symbol name
  | .function parameters body => .function parameters body

/-- Several values with what their builtins print sent to a sink. -/
def redirectAll (sink : Sink) : List (Value Host) → List (Value Host)
  | [] => []
  | first :: rest => redirect sink first :: redirectAll sink rest

end

theorem redirectAll_eq_map (sink : Sink) (items : List (Value Host)) :
    redirectAll sink items = items.map (redirect sink) := by
  induction items with
  | nil => rfl
  | cons first rest ih => rw [redirectAll, ih, List.map_cons]

theorem redirect_of_isPlain (sink : Sink) {value : Value Host} (plain : value.isPlain = true) :
    value.redirect sink = value := by
  cases value with
  | null | number _ | bool _ | symbol _ | function _ _ => rfl
  | vector _ | list _ | builtin _ _ => cases plain

mutual

/-- A value looks the same whatever the sink. -/
theorem text_redirect (sink : Sink) : ∀ value : Value Host, (value.redirect sink).text = value.text
  | .vector items => by rw [redirect, text, text, textAll_redirectAll sink items]
  | .list items => by rw [redirect, text, text, textAll_redirectAll sink items]
  | .builtin _ _ => rfl
  | .null | .number _ | .bool _ | .symbol _ | .function _ _ => rfl

theorem textAll_redirectAll (sink : Sink) :
    ∀ items : List (Value Host), textAll (redirectAll sink items) = textAll items
  | [] => rfl
  | [last] => text_redirect sink last
  | first :: second :: rest => by
      show text (redirect sink first) ++ ' ' :: textAll (redirectAll sink (second :: rest)) =
        text first ++ ' ' :: textAll (second :: rest)
      rw [text_redirect sink first, textAll_redirectAll sink (second :: rest)]

end

mutual

theorem nestingDepth_redirect (sink : Sink) :
    ∀ value : Value Host, (value.redirect sink).nestingDepth = value.nestingDepth
  | .vector items => by rw [redirect, nestingDepth, nestingDepth, deepest_redirectAll sink items]
  | .list items => by rw [redirect, nestingDepth, nestingDepth, deepest_redirectAll sink items]
  | .builtin _ _ => rfl
  | .null | .number _ | .bool _ | .symbol _ | .function _ _ => rfl

theorem deepest_redirectAll (sink : Sink) :
    ∀ items : List (Value Host), deepest (redirectAll sink items) = deepest items
  | [] => rfl
  | first :: rest => by
      rw [redirectAll, deepest, deepest, nestingDepth_redirect sink first,
        deepest_redirectAll sink rest]

end

mutual

/-- Values are equal or not whatever the sinks. -/
theorem equal_redirect (first second : Sink) :
    ∀ left right : Value Host, (left.redirect first).equal (right.redirect second) =
      left.equal right
  | .vector left, right => by
      cases right with
      | vector right =>
          rw [redirect, redirect, equal, equal, equalAll_redirectAll first second left right]
      | null | number _ | bool _ | symbol _ | list _ | function _ _ | builtin _ _ => rfl
  | .list left, right => by
      cases right with
      | list right =>
          rw [redirect, redirect, equal, equal, equalAll_redirectAll first second left right]
      | null | number _ | bool _ | symbol _ | vector _ | function _ _ | builtin _ _ => rfl
  | .builtin _ _, right | .null, right | .number _, right | .bool _, right | .symbol _, right
  | .function _ _, right => by cases right <;> rfl

theorem equalAll_redirectAll (first second : Sink) : ∀ left right : List (Value Host),
    equalAll (redirectAll first left) (redirectAll second right) = equalAll left right
  | [], right => by cases right <;> rfl
  | left :: lefts, right => by
      cases right with
      | nil => rfl
      | cons right rights =>
          rw [redirectAll, redirectAll, equalAll, equalAll, equal_redirect first second left right,
            equalAll_redirectAll first second lefts rights]

end

theorem display_redirect (sink : Sink) (value : Value Host) :
    (value.redirect sink).display = value.display :=
  congrArg String.ofList (text_redirect sink value)

theorem describe_redirect (sink : Sink) (value : Value Host) :
    (value.redirect sink).describe = value.describe := by
  have kind : (value.redirect sink).typeName = value.typeName := by cases value <;> rfl
  rw [describe, describe, kind, display_redirect]

/-! ## Values that differ in the sink -/

/-- A value of the language in which every `print` goes to the first sink, and the same value with
the second sink in its place. -/
structure Redirected (first second : Sink) (left right : Value Host) : Prop where
  native : left.isNative = true
  source : left.redirect first = left
  target : left.redirect second = right

variable {first second : Sink}

theorem redirected_of_isPlain {value : Value Host} (plain : value.isPlain = true) :
    Redirected first second value value :=
  ⟨isNative_of_isPlain plain, redirect_of_isPlain first plain, redirect_of_isPlain second plain⟩

/-- Values differ in the sink one by one when they do as a whole. -/
theorem forall₂_redirected_iff {left right : List (Value Host)} :
    List.Forall₂ (Redirected first second) left right ↔
      allNative left = true ∧ redirectAll first left = left ∧ redirectAll second left = right := by
  induction left generalizing right with
  | nil => simp [allNative, redirectAll, eq_comm]
  | cons value left ih =>
      rw [List.forall₂_cons_left_iff, allNative, redirectAll, redirectAll, Bool.and_eq_true,
        List.cons.injEq]
      constructor
      · rintro ⟨other, others, ⟨native, source, target⟩, rest, rfl⟩
        obtain ⟨natives, sources, targets⟩ := ih.mp rest
        exact ⟨⟨native, natives⟩, ⟨source, sources⟩, by rw [target, targets]⟩
      · rintro ⟨⟨native, natives⟩, ⟨source, sources⟩, rfl⟩
        exact ⟨_, _, ⟨native, source, rfl⟩, ih.mpr ⟨natives, sources, rfl⟩, rfl⟩

theorem redirected_vector {left right : List (Value Host)}
    (items : List.Forall₂ (Redirected first second) left right) :
    Redirected first second (.vector left) (.vector right) := by
  obtain ⟨native, source, target⟩ := forall₂_redirected_iff.mp items
  exact ⟨native, congrArg vector source, congrArg vector target⟩

theorem redirected_list {left right : List (Value Host)}
    (items : List.Forall₂ (Redirected first second) left right) :
    Redirected first second (.list left) (.list right) := by
  obtain ⟨native, source, target⟩ := forall₂_redirected_iff.mp items
  exact ⟨native, congrArg list source, congrArg list target⟩

theorem map_redirect {left right : List (Value Host)}
    (items : List.Forall₂ (Redirected first second) left right) :
    left.map (redirect second) = right :=
  (redirectAll_eq_map second left).symm.trans (forall₂_redirected_iff.mp items).2.2

end Value

/-! ## Environments that differ in the sink -/

namespace Environment

/-- Two environments bind the same macros, and values that differ in the sink. -/
def Redirected (first second : Sink) (left right : Environment Host) : Prop :=
  ∀ name, Option.Rel (Value.Redirected first second) (left.value? name) (right.value? name) ∧
    left.macroNamed? name = right.macroNamed? name

variable {first second : Sink} {left right : Environment Host}

theorem redirected_empty : Redirected first second (empty : Environment Host) empty :=
  fun _ => ⟨.none, rfl⟩

theorem Redirected.bind (redirected : Redirected first second left right) (name : String)
    {leftValue rightValue : Value Host}
    (related : Value.Redirected first second leftValue rightValue) :
    Redirected first second (left.bind name leftValue) (right.bind name rightValue) := by
  intro other
  refine ⟨?_, (redirected other).2⟩
  rw [value?_bind, value?_bind]
  split
  · exact .some related
  · exact (redirected other).1

theorem Redirected.bindMacro (redirected : Redirected first second left right) (name : String)
    (definition : Macro) :
    Redirected first second (left.bindMacro name definition) (right.bindMacro name definition) := by
  intro other
  refine ⟨(redirected other).1, ?_⟩
  rw [macroNamed?_bindMacro, macroNamed?_bindMacro, (redirected other).2]

theorem Redirected.lookup (redirected : Redirected first second left right) (name : String) :
    Value.Redirected first second (left.lookup name) (right.lookup name) := by
  unfold Environment.lookup
  have values := (redirected name).1
  generalize left.value? name = leftFound at values ⊢
  generalize right.value? name = rightFound at values ⊢
  cases values with
  | none => exact Value.redirected_of_isPlain rfl
  | some related => exact related

/-- The global environments differ in the sink: without `print` they are one environment, which
binds nothing that has a sink in it. -/
theorem redirected_globalEnvironment :
    Redirected first second (globalEnvironment first : Environment Host)
      (globalEnvironment second) := by
  let sinkless (environment : Environment Host) := Redirected first second environment environment
  have truths : sinkless ((empty.bind "true" (.bool true)).bind "false" (.bool false)) :=
    (redirected_empty.bind "true" ⟨rfl, rfl, rfl⟩).bind "false" ⟨rfl, rfl, rfl⟩
  have primitives : sinkless (Primitive.all.foldl
      (fun environment primitive => environment.bind primitive.id primitive.toValue) _) :=
    List.foldlRecOn (motive := sinkless) Primitive.all _ truths fun _ redirected primitive _ =>
      redirected.bind primitive.id ⟨rfl, rfl, rfl⟩
  exact primitives.bind Operation.printId ⟨rfl, rfl, rfl⟩

end Environment

/-! ## Runs with another sink -/

namespace Simulation

/-- Everything is the same, but for the sink in values and in calls of `print`. -/
def redirection (first second : Sink) : Simulation Host where
  names _ := True
  value := Value.Redirected first second
  environment := Environment.Redirected first second
  printed left right := left.sink = first ∧ right.sink = second ∧
    List.Forall₂ (Value.Redirected first second) left.values right.values
  error := Eq
  cut _ := False

variable (first second : Sink)

/-- The operations of the language do not tell two sinks apart. -/
theorem native_redirection : (redirection first second : Simulation Host).Native where
  plain _ plain _ := Value.redirected_of_isPlain plain
  raised _ := rfl
  shape := by
    rintro left _ ⟨native, source, rfl⟩
    cases left with
    | vector items =>
        exact .vector (Value.forall₂_redirected_iff.mpr ⟨native, Value.vector.inj source, rfl⟩)
    | list items => exact .list _ _
    | builtin id operation => exact .builtin id _ _
    | null | number _ | bool _ | symbol _ | function _ _ => exact .plain rfl fun _ _ => trivial
  describe left _ related := related.target ▸ (Value.describe_redirect second left).symm
  nestingDepth left _ related := related.target ▸ (Value.nestingDepth_redirect second left).symm
  equal left right otherLeft otherRight related others := by
    rw [← related.target, ← others.target, Value.equal_redirect]
  vector _ _ := Value.redirected_vector
  list _ _ := Value.redirected_list
  primitive id primitive operation related := by
    cases related.target
    rfl
  print id sink operation related := by
    cases related.source
    cases related.target
    exact ⟨second, rfl, fun _ _ arguments => ⟨rfl, rfl, arguments⟩⟩
  host id called operation related := Bool.noConfusion related.native

/-- Evaluation does not tell two sinks apart, whatever the operations of a host. -/
theorem closed_redirection (leftHandler rightHandler : Handler Host) (limit : Nat) :
    (redirection first second).Closed ⟨leftHandler, limit⟩ ⟨rightHandler, limit⟩ where
  toFaithful := (native_redirection first second).toFaithful
  lookup _ _ name redirected _ := redirected.lookup name
  bind _ _ name _ _ redirected _ related := redirected.bind name related
  bindMacro _ _ name definition redirected _ _ := redirected.bindMacro name definition
  macroNamed _ _ name redirected _ _ _ :=
    ⟨(redirected name).2, fun _ _ => ⟨fun _ _ => trivial, fun _ _ => trivial⟩⟩
  perform _ _ _ left right _ _ related _ arguments :=
    (native_redirection first second).asks_perform related leftHandler rightHandler left right
      arguments
  inForm form _ _ same := congrArg (Error.inForm form) same
  cutInForm _ _ short := short
  exceeded := .inl rfl

end Simulation

/-- Two runs make the same calls of `print`, with values that differ in the sink only, and end with
the same value, but for the sink, or with the same error. -/
structure Run.Redirected (first second : Sink) (calls : List (List (Value Host)))
    (left right : Run Host (Value Host)) : Prop where
  leftPrinted : left.printed = calls.map fun arguments => ⟨first, arguments⟩
  rightPrinted : right.printed =
    calls.map fun arguments => ⟨second, arguments.map (Value.redirect second)⟩
  outcome : right.outcome = left.outcome.map (Value.redirect second)

namespace Simulation

variable {first second : Sink}

theorem printed_redirection {left right : List (Printed Host)}
    (printed : List.Forall₂ (redirection first second).printed left right) :
    left = (left.map Printed.values).map (fun arguments => ⟨first, arguments⟩) ∧
      right = (left.map Printed.values).map
        fun arguments => ⟨second, arguments.map (Value.redirect second)⟩ := by
  induction printed with
  | nil => exact ⟨rfl, rfl⟩
  | @cons one other _ _ related _ ih =>
      obtain ⟨source, target, arguments⟩ := related
      refine ⟨congrArg₂ List.cons (congrArg (Printed.mk · one.values) source) ih.1,
        congrArg₂ List.cons ?_ ih.2⟩
      show other = ⟨second, one.values.map (Value.redirect second)⟩
      rw [Value.map_redirect arguments]
      exact congrArg (Printed.mk · other.values) target

theorem Follows.redirected {left right : Run Host (Value Host)}
    (follows : (redirection first second).Follows (Value.Redirected first second) left right) :
    Run.Redirected first second (left.printed.map Printed.values) left right := by
  cases follows with
  | cut _ _ _ short => exact short.elim
  | alike printed ends =>
      refine ⟨(printed_redirection printed).1, (printed_redirection printed).2, ?_⟩
      cases ends with
      | error same => exact congrArg Except.error same.symm
      | ok related => exact congrArg Except.ok related.target.symm

end Simulation

/-- **A program does the same wherever `print` goes.** -/
theorem runProgram_redirected (first second : Sink) (handler : Handler Host) (limits : Limits)
    (source : String) :
    let run := runProgram handler limits (globalEnvironment first) source
    Run.Redirected first second (run.printed.map Printed.values) run
      (runProgram handler limits (globalEnvironment second) source) := by
  intro run
  refine Simulation.Follows.redirected ?_
  show (Simulation.redirection first second).Follows _ (runProgram _ _ _ _) (runProgram _ _ _ _)
  unfold runProgram
  split
  · exact Simulation.follows_fail rfl
  · rename_i program _
    have closed := Simulation.closed_redirection first second handler handler limits.evaluation
    have mentions : ∀ element ∈ Prelude.program ++ program, element.MentionsOnly fun _ => True :=
      fun _ _ _ _ => trivial
    have follows :=
      closed.follows_evaluateProgram (.inl rfl) Environment.redirected_globalEnvironment
      mentions
    exact Simulation.follows_map follows fun _ _ reached => reached.1

/-! ## The console and a log -/

/-- **The console and a log get the same, and evaluation takes no notice.** A program ends with the
same value, but for the sink in the builtins in it, or with the same error. The console shows the
calls of `print` line by line, and a log has the arguments of the same calls behind what it held
before. No refused call is among them, and what is printed stays when the program goes on and
fails. -/
theorem runProgram_sinks_agree (handler : Handler Host) (limits : Limits) (source : String) :
    let global : Environment Host := globalEnvironment .console
    let console := runProgram handler limits global source
    let recorded := runProgram handler limits (global.redirect .log) source
    let calls := console.printed.map Printed.values
    recorded.outcome = console.outcome.map (Value.redirect .log) ∧
      Printed.consoleText console.printed = String.join (calls.map fun arguments =>
        String.intercalate " " (arguments.map Value.display) ++ "\n") ∧
      Printed.consoleText recorded.printed = "" ∧
      (∀ session : Session Host, session.observe console = (console.outcome, session) ∧
        session.observe recorded = (console.outcome.map (Value.redirect .log),
          { session with log :=
            session.log ++ (calls.map (List.map (Value.redirect .log))).flatten })) ∧
      (∀ arguments ∈ calls, Value.deepest arguments < maxNesting) ∧
      (∀ (setting : Setting Host) body further environment sink arguments,
        Evaluation.call setting body (further + 1) environment
            (.builtin Operation.printId (.print sink)) arguments =
          if Value.deepest arguments < maxNesting then ⟨[⟨sink, arguments⟩], .ok (.list arguments)⟩
          else .fail (.nestingTooDeep maxNesting)) ∧
      ∀ program further longer, parseProgram limits.reading source = .ok program →
        parseProgram limits.reading longer = .ok (program ++ further) →
          console.printed <+: (runProgram handler limits global longer).printed := by
  intro global console recorded calls
  have installed : global.redirect .log = globalEnvironment .log := Environment.bind_bind _ _ _ _
  have alike : Run.Redirected .console .log calls console recorded := by
    show Run.Redirected _ _ _ _ (runProgram handler limits (global.redirect .log) source)
    rw [installed]
    exact runProgram_redirected .console .log handler limits source
  have listed : recorded.printed =
      (calls.map (List.map (Value.redirect .log))).map fun arguments => ⟨.log, arguments⟩ := by
    rw [List.map_map]
    exact alike.rightPrinted
  refine ⟨alike.outcome, ?_, ?_, fun session => ⟨?_, ?_⟩, ?_, Evaluation.call_print,
    fun _ _ _ => runProgram_printed_prefix handler limits global⟩
  · rw [alike.leftPrinted, Printed.consoleText_console]
  · rw [listed, Printed.consoleText_log]
  · rw [session.observe_eq, alike.leftPrinted, Printed.logged_console, List.append_nil]
  · rw [session.observe_eq, alike.outcome, listed, Printed.logged_log]
  · exact List.forall_mem_map.mpr (runProgram_accepted handler limits .console source)

/-- A program that prints and then fails: the console keeps the line and a log the value, and the
beginning of the program prints no less. -/
theorem runProgram_sinks_agree_failing :
    let run (sink : Sink) := runProgram noHost ⟨4, 9⟩ ((globalEnvironment .console).redirect sink)
    let failure := Error.arity "def" (.exactly 2) 0
    (run .console "(print true) (def)").outcome = .error failure ∧
      (run .log "(print true) (def)").outcome = .error failure ∧
      Printed.consoleText (run .console "(print true) (def)").printed = "true\n" ∧
      (∀ session : Session Empty,
        session.observe (run .log "(print true) (def)") =
          (.error failure, { session with log := session.log ++ [.bool true] })) ∧
      (run .console "(print true)").printed <+: (run .console "(print true) (def)").printed := by
  intro run failure
  let printing := Expr.form [.symbol "print", .symbol "true"]
  have read : parseProgram 4 "(print true)" = .ok [printing] :=
    Source.parseProgram_eq_of_readAll (by decide +kernel)
  have readFailing : parseProgram 4 "(print true) (def)" =
      .ok ([printing] ++ [.form [.symbol "def"]]) :=
    Source.parseProgram_eq_of_readAll (by decide +kernel)
  have shownAt : (globalEnvironment .console : Environment Empty).redirect .console =
      globalEnvironment .console := Environment.bind_bind _ _ _ _
  have fails : runProgram noHost ⟨4, 9⟩ (globalEnvironment .console) "(print true) (def)" =
      ⟨[⟨.console, [.bool true]⟩], .error failure⟩ := by
    rw [runProgram_eq_map noHost 4 8 _ readFailing, Prelude.program_eq]
    rfl
  obtain ⟨outcome, shown, -, logged, -, -, -⟩ :=
    runProgram_sinks_agree noHost ⟨4, 9⟩ "(print true) (def)"
  obtain ⟨-, -, -, -, -, -, stays⟩ := runProgram_sinks_agree noHost ⟨4, 9⟩ "(print true)"
  rw [fails] at outcome shown logged
  dsimp only [run]
  rw [shownAt]
  refine ⟨congrArg Run.outcome fails, outcome, ?_, fun session => (logged session).2,
    stays _ _ _ read readFailing⟩
  rw [fails]
  exact shown

end Lisplet
