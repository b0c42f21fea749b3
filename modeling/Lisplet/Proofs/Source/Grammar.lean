import Lisplet.Proofs.Source.Tokenization
import Lisplet.Source.Program

/-!
# The grammar of programs

`Spelled room expressions found` says that tokens spell a list of expressions, each of them inside
fewer than `room` groups. It is a grammar: a run of digits that is not too great spells a number, a
word spells a symbol, and brackets of one kind around the spelling of some expressions spell their
group.

Reading by recursive descent accepts this grammar and finds the expressions that it gives
(`parseProgram_eq_ok_iff`). One direction says what a reader that succeeds has read
(`readMany_sound`), the other that the reader reads every spelling to its end (`readMany_complete`).
-/

set_option autoImplicit false

namespace Lisplet.Source

/-! ## Spelling expressions -/

/-- The tokens of a list of expressions, none of them inside `room` groups or more. -/
inductive Spelled : Nat → List Expr → List Token → Prop where
  | done {room : Nat} : Spelled room [] []
  | digits {room : Nat} {run : List Char} {expressions : List Expr} {found : List Token} :
      digitsValue run ≤ maxNumber → Spelled (room + 1) expressions found →
        Spelled (room + 1) (.number (Int64.ofNat (digitsValue run)) :: expressions)
          (.digits run :: found)
  | word {room : Nat} {run : List Char} {expressions : List Expr} {found : List Token} :
      Spelled (room + 1) expressions found →
        Spelled (room + 1) (.symbol (String.ofList run) :: expressions) (.word run :: found)
  /-- The elements of a group have one group more around them. -/
  | group {room : Nat} {bracket : Bracket} {elements expressions : List Expr}
      {inside found : List Token} :
      Spelled room elements inside → Spelled (room + 1) expressions found →
        Spelled (room + 1) (bracket.group elements :: expressions)
          (.opening bracket :: (inside ++ .closing bracket :: found))

namespace Spelled

theorem append {room : Nat} {left right : List Expr} {first second : List Token}
    (spelled : Spelled room left first) (later : Spelled room right second) :
    Spelled room (left ++ right) (first ++ second) := by
  induction spelled with
  | done => exact later
  | digits fits _ ih => exact .digits fits (ih later)
  | word _ ih => exact .word (ih later)
  | group inside _ _ ih =>
      rw [List.cons_append, List.cons_append, List.append_assoc, List.cons_append]
      exact .group inside (ih later)

end Spelled

/-! ## What the reader does with each token -/

section Reader

variable (bound room : Nat) (start : List Char) (rest : List Lexeme)

theorem readNumber_eq_some_iff {run : List Char} {expression : Expr} :
    readNumber run = some expression ↔
      digitsValue run ≤ maxNumber ∧ expression = .number (Int64.ofNat (digitsValue run)) := by
  rw [readNumber]
  split
  · rename_i fits
    rw [Option.some.injEq, eq_comm, and_iff_right fits]
  · rename_i tooGreat
    exact ⟨nofun, fun found => absurd found.1 tooGreat⟩

theorem readExpr_digits (run : List Char) :
    readExpr bound (room + 1) (⟨.digits run, start⟩ :: rest) = (readNumber run).map (·, rest) :=
  rfl

theorem readExpr_digits_of_fits {run : List Char} (fits : digitsValue run ≤ maxNumber) :
    readExpr bound (room + 1) (⟨.digits run, start⟩ :: rest) =
      some (.number (Int64.ofNat (digitsValue run)), rest) := by
  rw [readExpr_digits, readNumber_eq_some_iff.mpr ⟨fits, rfl⟩, Option.map_some]

theorem readExpr_word (run : List Char) :
    readExpr bound (room + 1) (⟨.word run, start⟩ :: rest) =
      some (.symbol (String.ofList run), rest) :=
  rfl

/-- No expression starts with a closing bracket. -/
theorem readExpr_closing (bracket : Bracket) :
    readExpr bound room (⟨.closing bracket, start⟩ :: rest) = none := by
  cases room with
  | zero => rfl
  | succ room => rfl

theorem readExpr_nil : readExpr bound room [] = none := by
  cases room with
  | zero => rfl
  | succ room => rfl

theorem readExpr_opening (bracket : Bracket) :
    readExpr bound (room + 1) (⟨.opening bracket, start⟩ :: rest) =
      match readMany (readExpr bound room) bound rest with
      | (elements, ⟨.closing closer, _⟩ :: after) =>
          if closer = bracket then some (bracket.group elements, after) else none
      | _ => none :=
  rfl

/-- A group is read when the bracket after its elements closes it. -/
theorem readExpr_opening_eq_some_iff {bracket : Bracket} {expression : Expr} {after : List Lexeme} :
    readExpr bound (room + 1) (⟨.opening bracket, start⟩ :: rest) = some (expression, after) ↔
      ∃ elements last, readMany (readExpr bound room) bound rest =
          (elements, ⟨.closing bracket, last⟩ :: after) ∧
        expression = bracket.group elements := by
  rw [readExpr_opening]
  constructor
  · intro found
    split at found
    · rename_i elements closer last others read
      split at found
      · rename_i same
        subst same
        obtain ⟨rfl, rfl⟩ := Prod.mk.inj (Option.some.inj found)
        exact ⟨elements, last, read, rfl⟩
      · cases found
    · cases found
  · rintro ⟨elements, last, read, rfl⟩
    simp [read]

theorem readMany_of_none {read : List Lexeme → Option (Expr × List Lexeme)} {input : List Lexeme}
    (stops : read input = none) : readMany read bound input = ([], input) := by
  cases bound with
  | zero => rfl
  | succ bound => simp [readMany, stops]

theorem readMany_of_some {read : List Lexeme → Option (Expr × List Lexeme)} {input : List Lexeme}
    {expression : Expr} {expressions : List Expr} {after : List Lexeme}
    (first : read input = some (expression, rest))
    (others : readMany read bound rest = (expressions, after)) :
    readMany read (bound + 1) input = (expression :: expressions, after) := by
  simp [readMany, first, others]

end Reader

/-! ## What a reader that succeeds has read -/

/-- What a reader takes off the front of its input spells the expression that it returns. -/
def ReadsSpelled (room : Nat) (read : List Lexeme → Option (Expr × List Lexeme)) : Prop :=
  ∀ input expression rest, read input = some (expression, rest) →
    ∃ front, input = front ++ rest ∧ Spelled room [expression] (front.map Lexeme.token)

theorem readMany_sound {read : List Lexeme → Option (Expr × List Lexeme)} {room : Nat}
    (sound : ReadsSpelled room read) (bound : Nat) (input : List Lexeme) :
    ∃ front, input = front ++ (readMany read bound input).2 ∧
      Spelled room (readMany read bound input).1 (front.map Lexeme.token) := by
  induction bound generalizing input with
  | zero => exact ⟨[], rfl, .done⟩
  | succ bound ih =>
      rw [readMany]
      cases result : read input with
      | none => exact ⟨[], rfl, .done⟩
      | some next =>
          obtain ⟨expression, rest⟩ := next
          obtain ⟨front, taken, spelled⟩ := sound input expression rest result
          obtain ⟨others, left, more⟩ := ih rest
          refine ⟨front ++ others, ?_, ?_⟩
          · rw [taken, List.append_assoc, ← left]
          · rw [List.map_append]
            exact spelled.append more

/-- Reading by recursive descent takes what the grammar allows. The induction is on the room, as the
elements of a group are read with less of it. -/
theorem readExpr_sound (bound room : Nat) : ReadsSpelled room (readExpr bound room) := by
  induction room with
  | zero =>
      intro input expression rest result
      cases result
  | succ room ih =>
      intro input expression rest result
      cases input with
      | nil => cases result
      | cons lexeme input =>
          obtain ⟨token, start⟩ := lexeme
          cases token with
          | digits run =>
              rw [readExpr_digits] at result
              obtain ⟨number, read, same⟩ := Option.map_eq_some_iff.mp result
              obtain ⟨rfl, rfl⟩ := Prod.mk.inj same
              obtain ⟨fits, rfl⟩ := readNumber_eq_some_iff.mp read
              exact ⟨[⟨.digits run, start⟩], rfl, .digits fits .done⟩
          | word run =>
              rw [readExpr_word] at result
              obtain ⟨rfl, rfl⟩ := Prod.mk.inj (Option.some.inj result)
              exact ⟨[⟨.word run, start⟩], rfl, .word .done⟩
          | closing bracket =>
              rw [readExpr_closing] at result
              cases result
          | opening bracket =>
              obtain ⟨elements, last, read, rfl⟩ := (readExpr_opening_eq_some_iff _ _ _ _).mp result
              obtain ⟨inside, taken, spelled⟩ := readMany_sound ih bound input
              rw [read] at taken spelled
              refine ⟨⟨.opening bracket, start⟩ :: (inside ++ [⟨.closing bracket, last⟩]), ?_, ?_⟩
              · rw [taken, List.cons_append, List.append_assoc, List.singleton_append]
              · rw [List.map_cons, List.map_append]
                exact .group spelled .done

/-! ## Every spelling is read -/

/-- Nothing is left, or a closing bracket comes next. -/
def Halts : List Lexeme → Prop
  | [] => True
  | lexeme :: _ => ∃ bracket, lexeme.token = .closing bracket

theorem Halts.readExpr {rest : List Lexeme} (halts : Halts rest) (bound room : Nat) :
    readExpr bound room rest = none := by
  cases rest with
  | nil => exact readExpr_nil bound room
  | cons lexeme rest =>
      obtain ⟨token, start⟩ := lexeme
      obtain ⟨bracket, rfl⟩ := halts
      exact readExpr_closing bound room start rest bracket

/-- A spelling is read to its end when the reader may read as many expressions as it has tokens. The
induction is on the spelling; the elements of a group halt at the bracket that closes it. -/
theorem readMany_complete {room : Nat} {expressions : List Expr} {found : List Token}
    (spelled : Spelled room expressions found) {front rest : List Lexeme}
    (same : front.map Lexeme.token = found) (halts : Halts rest) {bound count : Nat}
    (enough : front.length ≤ bound) (many : front.length ≤ count) :
    readMany (readExpr bound room) count (front ++ rest) = (expressions, rest) := by
  induction spelled generalizing front rest count with
  | done =>
      obtain rfl := List.map_eq_nil_iff.mp same
      exact readMany_of_none count (halts.readExpr bound _)
  | digits fits _ ih =>
      obtain ⟨⟨_, start⟩, others, rfl, rfl, later⟩ := List.map_eq_cons_iff.mp same
      obtain ⟨count, rfl⟩ := Nat.exists_eq_add_one.mpr (Nat.lt_of_lt_of_le (Nat.succ_pos _) many)
      exact readMany_of_some _ _ (readExpr_digits_of_fits bound _ start (others ++ rest) fits)
        (ih later halts (Nat.le_of_succ_le enough) (Nat.le_of_succ_le_succ many))
  | word _ ih =>
      obtain ⟨⟨_, start⟩, others, rfl, rfl, later⟩ := List.map_eq_cons_iff.mp same
      obtain ⟨count, rfl⟩ := Nat.exists_eq_add_one.mpr (Nat.lt_of_lt_of_le (Nat.succ_pos _) many)
      exact readMany_of_some _ _ (readExpr_word bound _ start (others ++ rest) _)
        (ih later halts (Nat.le_of_succ_le enough) (Nat.le_of_succ_le_succ many))
  | @group room bracket elements expressions within found _ _ inner outer =>
      obtain ⟨⟨_, start⟩, others, rfl, rfl, later⟩ := List.map_eq_cons_iff.mp same
      obtain ⟨inside, closed, rfl, taken, ends⟩ := List.map_eq_append_iff.mp later
      obtain ⟨⟨_, last⟩, after, rfl, rfl, beyond⟩ := List.map_eq_cons_iff.mp ends
      obtain ⟨count, rfl⟩ := Nat.exists_eq_add_one.mpr (Nat.lt_of_lt_of_le (Nat.succ_pos _) many)
      simp only [List.length_cons, List.length_append] at enough many
      have closes : Halts (⟨.closing bracket, last⟩ :: (after ++ rest)) := ⟨bracket, rfl⟩
      have enclosed : inside.length ≤ bound := by omega
      have read := (readExpr_opening_eq_some_iff bound room start _).mpr
        ⟨elements, last, inner taken closes enclosed enclosed, rfl⟩
      rw [List.cons_append, List.append_assoc, List.cons_append]
      exact readMany_of_some _ _ read (outer beyond halts (by omega) (by omega))

/-! ## Reading whole programs -/

theorem readAll_eq_iff {limit : Nat} {input : List Lexeme} {expressions : List Expr} :
    readAll limit input = (expressions, []) ↔
      Spelled limit expressions (input.map Lexeme.token) := by
  constructor
  · intro read
    obtain ⟨front, taken, spelled⟩ :=
      readMany_sound (readExpr_sound input.length limit) input.length input
    rw [readAll] at read
    rw [read, List.append_nil] at taken
    rw [read, ← taken] at spelled
    exact spelled
  · intro spelled
    have halts : Halts [] := trivial
    have read := readMany_complete spelled rfl halts (Nat.le_refl _) (Nat.le_refl _)
    rw [List.append_nil] at read
    exact read

theorem program_eq_ok_iff {limit : Nat} {text : List Char} {expressions : List Expr} :
    program limit text = .ok expressions ↔ Spelled limit expressions (tokens text) := by
  rw [tokens, ← readAll_eq_iff, program]
  constructor
  · intro read
    split at read
    · rename_i found all
      rw [all, Except.ok.inj read]
    · cases read
  · intro read
    rw [read]

end Lisplet.Source

namespace Lisplet

open Source

/-- **A program is accepted exactly when its tokens are spelled by the grammar**, and the
expressions are those that the grammar gives. -/
theorem parseProgram_eq_ok_iff {limit : Nat} {text : String} {expressions : List Expr} :
    parseProgram limit text = .ok expressions ↔ Spelled limit expressions (tokens text.toList) := by
  rw [← program_eq_ok_iff, parseProgram]
  cases program limit text.toList with
  | ok found => exact ⟨fun same => congrArg _ (Except.ok.inj same),
      fun same => congrArg _ (Except.ok.inj same)⟩
  | error error => exact ⟨nofun, nofun⟩

end Lisplet
