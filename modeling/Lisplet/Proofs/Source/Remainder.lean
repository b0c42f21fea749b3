import Lisplet.Proofs.Source.Diagnosis

/-!
# How far reading gets

A text that is no program is read as far as it goes: `parse` returns the expressions at its start
and the text from the first expression on that cannot be read. The expressions are those of the
longest front of the tokens that spells any, so that no front of what is left spells an expression
(`readAll_eq_iff_stuck`).

A text is cut there between two tokens, and the cut changes neither of the two parts: the first is
read to its end, and nothing is read of the second. What is read does not depend on what is left,
either. In place of the rest any other text can stand behind a blank, and its expressions are read
after those of the first part (`parse_decomposes`).
-/

set_option autoImplicit false

namespace Lisplet.Source

open Text

variable {limit : Nat} {input rest : List Lexeme} {expressions : List Expr}

/-! ## The longest front that is spelled -/

/-- No front of the tokens spells expressions, but the one that is empty. -/
def Stuck (limit : Nat) (input : List Lexeme) : Prop :=
  ∀ front rest expressions, input = front ++ rest →
    Spelled limit expressions (front.map Lexeme.token) → front = []

/-- Where the reader finds no expression, none is spelled. -/
theorem stuck_of_readExpr {bound : Nat} (stopped : readExpr bound limit input = none)
    (enough : input.length ≤ bound) : Stuck limit input := by
  rintro front rest expressions rfl spelled
  cases expressions with
  | nil =>
      generalize same : front.map Lexeme.token = found at spelled
      cases spelled
      exact List.map_eq_nil_iff.mp same
  | cons expression expressions =>
      rw [List.length_append] at enough
      obtain ⟨after, read⟩ := exists_readExpr spelled (Nat.le_of_add_right_le enough) rest
      cases stopped.symm.trans read

/-- Tokens behind a spelling spell the rest of what both spell together. -/
theorem Spelled.exists_of_append {front more : List Token} {all : List Expr}
    (spelled : Spelled limit expressions front) (whole : Spelled limit all (front ++ more)) :
    ∃ later, Spelled limit later more ∧ all = expressions ++ later := by
  obtain ⟨middle, early, late⟩ := leads_append_iff.mp (leads_nil_nil_iff.mpr ⟨all, whole⟩)
  have closed := leads_nil_nil_iff.mpr ⟨expressions, spelled⟩
  obtain rfl := Option.some.inj (closed.brackets.symm.trans early.brackets)
  obtain ⟨later, behind⟩ := leads_nil_nil_iff.mp late
  exact ⟨later, behind, whole.unique (spelled.append behind)⟩

/-- What reading has read and what it has left: a spelling, behind which no expression is
spelled. -/
theorem exists_spelled_of_readAll (read : readAll limit input = (expressions, rest)) :
    ∃ front, input = front ++ rest ∧ Spelled limit expressions (front.map Lexeme.token) ∧
      Stuck limit rest := by
  have sound := readExpr_sound input.length limit
  have stopped : readExpr input.length limit (readAll limit input).2 = none :=
    read_readMany sound (Nat.le_refl _)
  obtain ⟨front, taken, spelled⟩ := readMany_sound sound input.length input
  rw [← readAll, read] at taken spelled
  rw [read] at stopped
  have within : rest.length ≤ input.length := by
    rw [taken, List.length_append]
    exact Nat.le_add_left _ _
  exact ⟨front, taken, spelled, stuck_of_readExpr stopped within⟩

/-- Of two fronts that are spelled, the one behind which nothing is spelled has the other in
front. -/
theorem Stuck.exists_longer {front longer others : List Lexeme} {all : List Expr}
    (stuck : Stuck limit others) (spelled : Spelled limit expressions (front.map Lexeme.token))
    (whole : Spelled limit all (longer.map Lexeme.token))
    (same : front ++ rest = longer ++ others) :
    ∃ more, longer = front ++ more ∧ rest = more ++ others := by
  rcases List.append_eq_append_iff.mp same with ⟨more, longer, left⟩ | ⟨more, rfl, left⟩
  · exact ⟨more, longer, left⟩
  · rw [List.map_append] at spelled
    obtain ⟨later, behind, _⟩ := whole.exists_of_append spelled
    obtain rfl := stuck more rest later left behind
    exact ⟨[], by simp, left.symm⟩

/-- **Reading takes the longest front that spells expressions.** -/
theorem readAll_eq_iff_stuck :
    readAll limit input = (expressions, rest) ↔
      ∃ front, input = front ++ rest ∧ Spelled limit expressions (front.map Lexeme.token) ∧
        Stuck limit rest := by
  refine ⟨exists_spelled_of_readAll, ?_⟩
  rintro ⟨front, rfl, spelled, stuck⟩
  cases read : readAll limit (front ++ rest) with
  | mk found left =>
      obtain ⟨longer, taken, whole, atEnd⟩ := exists_spelled_of_readAll read
      obtain ⟨more, rfl, split⟩ := atEnd.exists_longer spelled whole taken
      have both := whole
      rw [List.map_append] at both
      obtain ⟨later, behind, _⟩ := spelled.exists_of_append both
      obtain rfl := stuck more left later split behind
      rw [List.append_nil] at whole
      rw [whole.unique spelled, split, List.nil_append]

/-! ## Where the text is cut -/

theorem lexemes_remainder {text : List Char} {front rest : List Lexeme}
    (split : lexemes text = front ++ rest) : lexemes (remainder rest) = rest := by
  cases rest with
  | nil => exact lexemes_of_dropBlanks_nil dropBlanks_nil
  | cons lexeme rest => exact lexemes_start split

/-- In front of one of its tokens a text can be cut: what is before has the tokens before it, and
what is left starts with no blank. -/
theorem exists_consumed {text : List Char} {front rest : List Lexeme}
    (split : lexemes text = front ++ rest) :
    ∃ consumed, text = consumed ++ remainder rest ∧ tokens consumed = front.map Lexeme.token ∧
      Stops isBlank (remainder rest) := by
  cases rest with
  | nil =>
      rw [List.append_nil] at split
      exact ⟨text, (List.append_nil text).symm, congrArg (List.map Lexeme.token) split, nofun⟩
  | cons lexeme rest =>
      obtain ⟨before, first, others, whole, visible, rfl, behind⟩ := exists_text_before split
      have alone := behind [] nofun
      rw [List.append_nil, tokens_nil, List.append_nil] at alone
      refine ⟨before, whole, alone, ?_⟩
      rw [remainder, readLexeme_start]
      exact stops_cons visible

theorem readText_eq {text : List Char} (read : readAll limit (lexemes text) = (expressions, rest)) :
    readText limit text = (expressions, remainder rest) := by
  rw [readText, read]

/-- A text is what is read of it and what is left: the one spells the expressions, the other starts
with none and with no blank. -/
theorem exists_spelled_of_readText (limit : Nat) (text : List Char) :
    ∃ consumed, text = consumed ++ (readText limit text).2 ∧
      Spelled limit (readText limit text).1 (tokens consumed) ∧
      Stops isBlank (readText limit text).2 ∧
      readText limit (readText limit text).2 = ([], (readText limit text).2) := by
  cases read : readAll limit (lexemes text) with
  | mk expressions rest =>
      obtain ⟨front, split, spelled, stuck⟩ := readAll_eq_iff_stuck.mp read
      obtain ⟨consumed, whole, before, visible⟩ := exists_consumed split
      have nothing : readAll limit (lexemes (remainder rest)) = ([], rest) := by
        rw [lexemes_remainder split]
        exact readAll_eq_iff_stuck.mpr ⟨[], rfl, .done, stuck⟩
      rw [readText_eq read]
      exact ⟨consumed, whole, before ▸ spelled, visible, readText_eq nothing⟩

theorem readText_of_spelled {text : List Char} (spelled : Spelled limit expressions (tokens text)) :
    readText limit text = (expressions, []) :=
  readText_eq (readAll_eq_iff.mpr spelled)

theorem stops_blanks {blanks : List Char} (present : blanks ≠ [])
    (blank : ∀ character ∈ blanks, isBlank character = true) (text : List Char) :
    Stops isWordCharacter (blanks ++ text) := by
  obtain ⟨first, others, rfl⟩ := List.exists_cons_of_ne_nil present
  refine stops_cons (Bool.eq_false_iff.mpr fun word => ?_)
  exact Bool.eq_false_iff.mp (isBlank_of_isWordCharacter word) (blank first List.mem_cons_self)

/-- Behind expressions and a blank, a text is read as it is alone. -/
theorem readText_append {text blanks : List Char}
    (spelled : Spelled limit expressions (tokens text))
    (present : blanks ≠ []) (blank : ∀ character ∈ blanks, isBlank character = true)
    (more : List Char) :
    readText limit (text ++ (blanks ++ more)) =
      (expressions ++ (readText limit more).1, (readText limit more).2) := by
  cases read : readAll limit (lexemes more) with
  | mk others rest =>
      obtain ⟨front, split, behind, stuck⟩ := readAll_eq_iff_stuck.mp read
      have found : lexemes (text ++ (blanks ++ more)) =
          (lexemes text).map (Lexeme.followedBy (blanks ++ more)) ++ front ++ rest := by
        rw [lexemes_append text (stops_blanks present blank more), lexemes_blanks blank, split,
          List.append_assoc]
      rw [readText_eq read]
      refine readText_eq (readAll_eq_iff_stuck.mpr ⟨_, found, ?_, stuck⟩)
      rw [List.map_append, List.map_map]
      exact spelled.append behind

end Lisplet.Source

namespace Lisplet

open Source Text

theorem parse_ofList (limit : Nat) (text : List Char) :
    parse limit (String.ofList text) =
      ((readText limit text).1, String.ofList (readText limit text).2) := by
  rw [parse, String.toList_ofList]

/-- **A text is cut where it can no longer be read.** What is left starts with no blank. Of the text
before it the same expressions are read and nothing is left, of the rest nothing is read, and in
place of the rest every text can stand behind a blank: its expressions are read after the others,
and what is left of it is left. -/
theorem parse_decomposes (limit : Nat) (text : String) :
    ∃ consumed : String, text = consumed ++ (parse limit text).2 ∧
      Stops isBlank (parse limit text).2.toList ∧
      parse limit consumed = ((parse limit text).1, "") ∧
      parse limit (parse limit text).2 = ([], (parse limit text).2) ∧
      ∀ blanks more : String, blanks ≠ "" →
        (∀ character ∈ blanks.toList, isBlank character = true) →
        parse limit (consumed ++ blanks ++ more) =
          ((parse limit text).1 ++ (parse limit more).1, (parse limit more).2) := by
  obtain ⟨consumed, whole, spelled, visible, nothing⟩ :=
    exists_spelled_of_readText limit text.toList
  have read : parse limit text =
      ((readText limit text.toList).1, String.ofList (readText limit text.toList).2) := rfl
  rw [read]
  dsimp only
  refine ⟨String.ofList consumed, ?_, ?_, ?_, ?_, fun blanks more present blank => ?_⟩
  · rw [← String.ofList_append, ← whole, String.ofList_toList]
  · rw [String.toList_ofList]
    exact visible
  · rw [parse_ofList, readText_of_spelled spelled]
  · rw [parse_ofList, nothing]
  · have present : blanks.toList ≠ [] := fun empty => present (String.toList_eq_nil_iff.mp empty)
    have behind := readText_append spelled present blank more.toList
    have joined : String.ofList consumed ++ blanks ++ more =
        String.ofList (consumed ++ (blanks.toList ++ more.toList)) := by
      simp only [String.ofList_append, String.ofList_toList, String.append_assoc]
    rw [joined, parse_ofList, behind]
    rfl

/-- A group that is closed by the wrong bracket is left, and one that is not closed takes its
place. -/
theorem parse_decomposes_mismatched :
    let text := "a 1 (b] c"
    let expressions := [Expr.symbol "a", .number 1]
    parse 3 text = (expressions, "(b] c") ∧ parse 3 "d [" = ([.symbol "d"], "[") ∧
      "\n" ≠ "" ∧ (∀ character ∈ "\n".toList, isBlank character = true) ∧
      ∃ consumed : String, text = consumed ++ "(b] c" ∧
        parse 3 consumed = (expressions, "") ∧ parse 3 "(b] c" = ([], "(b] c") ∧
        parse 3 (consumed ++ "\n" ++ "d [") = (expressions ++ [.symbol "d"], "[") := by
  intro text expressions
  have read : parse 3 text = (expressions, "(b] c") := by decide +kernel
  have readMore : parse 3 "d [" = ([.symbol "d"], "[") := by decide +kernel
  have present : "\n" ≠ "" := by decide
  have single : "\n".toList = ['\n'] := by decide
  have blank : ∀ character ∈ "\n".toList, isBlank character = true := by
    rw [single]
    exact List.forall_mem_singleton.mpr rfl
  obtain ⟨consumed, whole, _, alone, nothing, behind⟩ := parse_decomposes 3 text
  have followed := behind "\n" "d [" present blank
  rw [read] at whole alone nothing followed
  rw [readMore] at followed
  exact ⟨read, readMore, present, blank, consumed, whole, alone, nothing, followed⟩

end Lisplet
