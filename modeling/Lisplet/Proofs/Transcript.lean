import Lisplet.Proofs.Prelude
import Lisplet.Repl

/-!
# Lines that leave no trace

The loop writes a block of text for each line and hands an environment on to the next. A line that
fails hands on the environment that it got, whatever its expressions have defined before the one
that failed, and so does a line of blanks. So the lines after it are answered as if it had not been
there: without it, the transcript lacks its block and is otherwise the same (`transcript_forgets`).
-/

set_option autoImplicit false

namespace Lisplet.Repl

/-! ## Conversations -/

/-- The blocks that are written for lines, as far as one of them ends the loop, and the environment
after the lines, unless one of them does. -/
structure Conversation where
  blocks : List String
  last : Option (Environment Empty)

namespace Conversation

/-- Everything that the loop writes in a conversation that ends with it: the farewell is written at
the end of the lines if none of them has asked for it. -/
def text (conversation : Conversation) : String :=
  String.join conversation.blocks ++
    match conversation.last with
    | none => ""
    | some _ => Repl.text [farewell]

/-- Blocks that were written before. -/
def following (blocks : List String) (conversation : Conversation) : Conversation :=
  { conversation with blocks := blocks ++ conversation.blocks }

theorem text_following (blocks : List String) (conversation : Conversation) :
    (conversation.following blocks).text = String.join blocks ++ conversation.text := by
  rw [text, following, String.join_append, String.append_assoc]
  rfl

end Conversation

/-- How lines are answered, from an environment on. -/
def converse (environment : Environment Empty) : List String → Conversation
  | [] => ⟨[], some environment⟩
  | line :: lines =>
      match respond environment line with
      | (written, none) => ⟨[written], none⟩
      | (written, some next) => (converse next lines).following [written]

theorem responses_eq (environment : Environment Empty) (lines : List String) :
    responses environment lines = (converse environment lines).text := by
  induction lines generalizing environment with
  | nil => rfl
  | cons line lines ih =>
      rw [responses, converse]
      cases respond environment line with
      | mk written continued =>
          cases continued with
          | none => simp [Conversation.text]
          | some next =>
              dsimp only
              rw [ih, Conversation.text_following, String.join_cons, String.join_nil,
                String.append_empty]

/-- Lines after which the loop goes on: the lines that follow are answered from the environment that
they leave. -/
theorem converse_append {environment next : Environment Empty} {before : List String}
    (goesOn : (converse environment before).last = some next) (after : List String) :
    converse environment (before ++ after) =
      (converse next after).following (converse environment before).blocks := by
  induction before generalizing environment with
  | nil =>
      cases goesOn
      rfl
  | cons line lines ih =>
      rw [converse] at goesOn
      rw [List.cons_append, converse, converse]
      cases answered : respond environment line with
      | mk written continued =>
          rw [answered] at goesOn
          cases continued with
          | none => cases goesOn
          | some middle =>
              dsimp only
              rw [ih goesOn]
              rfl

/-- A line that ends the loop is the last that is answered. -/
theorem converse_append_of_ended {environment : Environment Empty} {before : List String}
    (ended : (converse environment before).last = none) (after : List String) :
    converse environment (before ++ after) = converse environment before := by
  induction before generalizing environment with
  | nil => cases ended
  | cons line lines ih =>
      rw [converse] at ended
      rw [List.cons_append, converse, converse]
      cases answered : respond environment line with
      | mk written continued =>
          rw [answered] at ended
          cases continued with
          | none => rfl
          | some middle =>
              dsimp only
              rw [ih ended]

/-! ## Lines that fail and lines of blanks -/

/-- A line without the blanks around it. -/
def trimmed (line : String) : String := String.ofList (Text.trim line.toList)

/-- A line that is neither blank nor a command. -/
def IsProgram (line : String) : Prop :=
  trimmed line ∉ ["", ":help", ":env", ":quit", ":exit"]

/-- A line that defines nothing for the lines after it, and the block that it writes: what a failing
line prints before it fails and then its error, and nothing for a line of blanks. -/
inductive Vanishes (environment : Environment Empty) (line : String) : String → Prop where
  | failing {error : Error} (isProgram : IsProgram line)
      (fails : (evaluateSource setting environment (trimmed line)).outcome = .error error) :
      Vanishes environment line
        (Printed.consoleText (evaluateSource setting environment (trimmed line)).printed ++
          text ["Error: " ++ error.message])
  | blank (empty : trimmed line = "") : Vanishes environment line ""

/-- Such a line hands on the environment that it got. -/
theorem Vanishes.respond_eq {environment : Environment Empty} {line block : String}
    (vanishes : Vanishes environment line block) :
    respond environment line = (block, some environment) := by
  cases vanishes with
  | blank empty => exact if_pos empty
  | failing isProgram fails =>
      have other (command : String) (member : command ∈ ["", ":help", ":env", ":quit", ":exit"]) :
          trimmed line ≠ command := fun same => isProgram (same ▸ member)
      have goesOn : ¬ (trimmed line = ":quit" ∨ trimmed line = ":exit") := fun ends =>
        ends.elim (other ":quit" (by simp)) (other ":exit" (by simp))
      have answered : respond environment line =
          ((evaluateLine environment (trimmed line)).1,
            some (evaluateLine environment (trimmed line)).2) := by
        rw [respond]
        dsimp only
        exact (if_neg (other "" (by simp))).trans ((if_neg (other ":help" (by simp))).trans
          ((if_neg (other ":env" (by simp))).trans (if_neg goesOn)))
      rw [answered, evaluateLine, fails]

/-- **A line that fails leaves no trace but its block, and a line of blanks leaves none.** Where the
loop is still going on when it comes to the line, each of the lines after it writes the same block
with the line and without it, and the transcript without the line is the transcript with it, less
the block of the line. Where the loop has ended before, the transcript does not depend on the line
at all. -/
theorem transcript_forgets (before after : List String) (line : String) :
    let front := converse startEnvironment before
    (∀ environment block, front.last = some environment → Vanishes environment line block →
      let back := converse environment after
      converse startEnvironment (before ++ line :: after) =
          (back.following [block]).following front.blocks ∧
        converse startEnvironment (before ++ after) = back.following front.blocks ∧
        transcript (before ++ line :: after) =
          text banner ++ String.join front.blocks ++ block ++ back.text ∧
        transcript (before ++ after) = text banner ++ String.join front.blocks ++ back.text) ∧
      (front.last = none →
        transcript (before ++ line :: after) = transcript (before ++ after)) := by
  intro front
  constructor
  · intro environment block goesOn vanishes back
    have withLine : converse startEnvironment (before ++ line :: after) =
        (back.following [block]).following front.blocks := by
      rw [converse_append goesOn, converse, vanishes.respond_eq]
    have without : converse startEnvironment (before ++ after) = back.following front.blocks :=
      converse_append goesOn after
    refine ⟨withLine, without, ?_, ?_⟩
    · rw [transcript, responses_eq, withLine, Conversation.text_following,
        Conversation.text_following, String.join_cons, String.join_nil, String.append_empty]
      simp only [String.append_assoc]
    · rw [transcript, responses_eq, without, Conversation.text_following, String.append_assoc]
  · intro ended
    rw [transcript, transcript, responses_eq, responses_eq, converse_append_of_ended ended,
      converse_append_of_ended ended]

/-- A line that defines a name and then fails, before a line that lists all names. -/
theorem transcript_forgets_defining :
    let line := "(def a b) (def (a) b)"
    let error := Error.type (.nameNotSymbol .defForm (Expr.form [.symbol "a"]).display)
      (some (Expr.form [.symbol "def", .form [.symbol "a"], .symbol "b"]).display)
    let block := text ["Error: " ++ error.message]
    let listed := (converse startEnvironment [":env"]).text
    Vanishes startEnvironment line block ∧
      transcript [line, ":env"] = text banner ++ block ++ listed ∧
      transcript [":env"] = text banner ++ listed := by
  intro line error block listed
  have read : parseProgram defaultReadLimit line =
      .ok [.form [.symbol "def", .symbol "a", .symbol "b"],
        .form [.symbol "def", .form [.symbol "a"], .symbol "b"]] :=
    Source.parseProgram_eq_of_readAll (by decide +kernel)
  have isProgram : IsProgram line := by
    unfold IsProgram trimmed
    decide +kernel
  have whole : trimmed line = line := by
    unfold trimmed
    decide +kernel
  have run : evaluateSource setting startEnvironment (trimmed line) = .fail error := by
    rw [whole, evaluateSource, read]
    rfl
  have vanishes : Vanishes startEnvironment line block := by
    have failing := Vanishes.failing isProgram (congrArg Run.outcome run)
    rw [run] at failing
    exact failing
  obtain ⟨_, _, withLine, without⟩ :=
    (transcript_forgets [] [":env"] line).1 startEnvironment block rfl vanishes
  rw [converse, String.join_nil, String.append_empty] at withLine without
  exact ⟨vanishes, withLine, without⟩

end Lisplet.Repl
