import Lisplet.Proofs.Source.Tokenization
import Lisplet.Source.Snippet

/-!
# Where a lexeme stands

A lexeme carries the text from its first character on. That text is an end of the whole text, and
what stands before it has just the tokens before the lexeme (`exists_text_before`); what follows may
even be replaced by another text, as long as that starts in the same way. So a text can be cut in
front of each of its tokens, and the cut is found again from its offset in bytes (`atByte_offset`).
-/

set_option autoImplicit false

namespace Lisplet.Source

open Text

/-! ## Where a lexeme stands in its text -/

/-- A text starts with the same character as another one, if it has any. -/
def StartsLike (after rest : List Char) : Prop :=
  ∀ character ∈ after.head?, character ∈ rest.head?

theorem StartsLike.stops {test : Char → Bool} {after rest : List Char}
    (like : StartsLike after rest) (stops : Stops test rest) : Stops test after :=
  fun character member => stops character (like character member)

theorem StartsLike.behind {after rest : List Char} (like : StartsLike after rest)
    (before : List Char) : StartsLike (before ++ after) (before ++ rest) := by
  cases before with
  | nil => exact like
  | cons first before => exact fun character member => member

/-- A lexeme takes some text off the front, which is the text of its token whatever goes on behind
it in the same way. -/
theorem exists_readLexeme (first : Char) (rest : List Char) (visible : isBlank first = false) :
    ∃ taken, first :: rest = taken ++ (readLexeme first rest).2 ∧
      ∀ after, StartsLike after (readLexeme first rest).2 →
        tokens (taken ++ after) = (readLexeme first rest).1.token :: tokens after := by
  unfold readLexeme
  split
  · rename_i token bracket
    exact ⟨[first], rfl, fun after _ => tokens_bracket after bracket⟩
  · rename_i noBracket
    split
    · rename_i digit
      refine ⟨first :: rest.takeWhile Char.isDigit, ?_, fun after like => ?_⟩
      · rw [List.cons_append, List.takeWhile_append_dropWhile]
      · have digits : ∀ character ∈ first :: rest.takeWhile Char.isDigit,
            character.isDigit = true :=
          List.forall_mem_cons.mpr ⟨digit, mem_takeWhile Char.isDigit rest⟩
        exact tokens_digits (List.cons_ne_nil _ _) digits (like.stops (stops_dropWhile _ rest))
    · rename_i noDigit
      refine ⟨first :: rest.takeWhile isWordCharacter, ?_, fun after like => ?_⟩
      · rw [List.cons_append, List.takeWhile_append_dropWhile]
      · have start : isWordCharacter first = true := by simp [isWordCharacter, visible, noBracket]
        have word : ∀ character ∈ first :: rest.takeWhile isWordCharacter,
            isWordCharacter character = true :=
          List.forall_mem_cons.mpr ⟨start, mem_takeWhile isWordCharacter rest⟩
        exact tokens_word (List.cons_ne_nil _ _) (stops_cons (Bool.eq_false_iff.mpr noDigit)) word
          (like.stops (stops_dropWhile _ rest))

theorem lexemes_blanks {blanks : List Char} (blank : ∀ character ∈ blanks, isBlank character = true)
    (text : List Char) : lexemes (blanks ++ text) = lexemes text := by
  induction blanks with
  | nil => rfl
  | cons first blanks ih =>
      obtain ⟨here, later⟩ := List.forall_mem_cons.mp blank
      rw [List.cons_append, lexemes_blank _ here, ih later]

theorem tokens_blanks {blanks : List Char} (blank : ∀ character ∈ blanks, isBlank character = true)
    (text : List Char) : tokens (blanks ++ text) = tokens text :=
  congrArg (List.map Lexeme.token) (lexemes_blanks blank text)

theorem readLexeme_start (first : Char) (rest : List Char) :
    (readLexeme first rest).1.start = first :: rest := by
  unfold readLexeme
  split
  · rfl
  · split <;> rfl

theorem bracketToken?_eq_closing_iff {character : Char} {bracket : Bracket} :
    bracketToken? character = some (.closing bracket) ↔ character = bracket.closer := by
  constructor
  · intro closes
    unfold bracketToken? at closes
    split at closes
    all_goals cases closes
    all_goals rfl
  · rintro rfl
    exact bracketToken?_closer bracket

/-- A lexeme is a closing bracket when its first character is one. -/
theorem readLexeme_token_eq_closing_iff {first : Char} {rest : List Char} {bracket : Bracket} :
    (readLexeme first rest).1.token = .closing bracket ↔ first = bracket.closer := by
  rw [← bracketToken?_eq_closing_iff]
  unfold readLexeme
  split
  · rename_i token same
    rw [same, Option.some.injEq]
  · rename_i none
    rw [none]
    split <;> exact ⟨nofun, nofun⟩

/-- A lexeme that is a run of digits takes all the digits that there are. -/
theorem exists_readLexeme_digits {first : Char} {rest run : List Char}
    (digits : (readLexeme first rest).1.token = .digits run) :
    ∃ after, first :: rest = run ++ after ∧ run ≠ [] ∧
      (∀ character ∈ run, character.isDigit = true) ∧ Stops Char.isDigit after := by
  unfold readLexeme at digits
  split at digits
  · rename_i token bracket
    obtain rfl : token = .digits run := digits
    unfold bracketToken? at bracket
    split at bracket <;> cases bracket
  · split at digits
    · rename_i digit
      obtain rfl := Token.digits.inj digits
      refine ⟨rest.dropWhile Char.isDigit, ?_, List.cons_ne_nil _ _, ?_, stops_dropWhile _ rest⟩
      · rw [List.cons_append, List.takeWhile_append_dropWhile]
      · exact List.forall_mem_cons.mpr ⟨digit, mem_takeWhile Char.isDigit rest⟩
    · cases digits

/-- The first lexeme of a text stands behind blanks. -/
theorem exists_lexemes_cons {text : List Char} {lexeme : Lexeme} {rest : List Lexeme}
    (found : lexemes text = lexeme :: rest) :
    ∃ blanks first others, (∀ character ∈ blanks, isBlank character = true) ∧
      isBlank first = false ∧ text = blanks ++ first :: others ∧
      lexeme = (readLexeme first others).1 ∧ rest = lexemes (readLexeme first others).2 := by
  obtain ⟨blanks, blank, same⟩ := exists_append_dropBlanks text
  cases left : dropBlanks text with
  | nil =>
      rw [lexemes_of_dropBlanks_nil left] at found
      cases found
  | cons first others =>
      rw [lexemes_of_dropBlanks_cons left] at found
      obtain ⟨rfl, rfl⟩ := List.cons.inj found
      exact ⟨blanks, first, others, blank, dropBlanks_head left, left ▸ same, rfl, rfl⟩

/-- A lexeme splits its text: it is read where its own text starts, and the text before it has the
tokens before it, also when it goes on with another text that starts in the same way. -/
theorem exists_text_before {text : List Char} {front rest : List Lexeme} {lexeme : Lexeme}
    (found : lexemes text = front ++ lexeme :: rest) :
    ∃ before first others, text = before ++ lexeme.start ∧ isBlank first = false ∧
      lexeme = (readLexeme first others).1 ∧
        ∀ after, StartsLike after lexeme.start →
          tokens (before ++ after) = front.map Lexeme.token ++ tokens after := by
  induction front generalizing text with
  | nil =>
      obtain ⟨blanks, first, others, blank, visible, rfl, rfl, rfl⟩ := exists_lexemes_cons found
      rw [readLexeme_start]
      exact ⟨blanks, first, others, rfl, visible, rfl, fun after _ => tokens_blanks blank after⟩
  | cons head front ih =>
      obtain ⟨blanks, first, others, blank, visible, rfl, rfl, later⟩ := exists_lexemes_cons found
      obtain ⟨before, start, more, behind, shown, here, same⟩ := ih later.symm
      obtain ⟨taken, split, read⟩ := exists_readLexeme first others visible
      refine ⟨blanks ++ (taken ++ before), start, more, ?_, shown, here, fun after like => ?_⟩
      · rw [split, behind, List.append_assoc, List.append_assoc]
      · have goesOn := like.behind before
        rw [← behind] at goesOn
        rw [List.append_assoc, List.append_assoc, tokens_blanks blank, read _ goesOn,
          same after like]
        rfl

/-- From the first character of a lexeme on, a text has the lexemes from that one on. -/
theorem lexemes_start {text : List Char} {front rest : List Lexeme} {lexeme : Lexeme}
    (found : lexemes text = front ++ lexeme :: rest) : lexemes lexeme.start = lexeme :: rest := by
  induction front generalizing text with
  | nil =>
      obtain ⟨_, first, others, _, visible, _, rfl, rfl⟩ := exists_lexemes_cons found
      rw [readLexeme_start, lexemes_cons others visible]
  | cons head front ih =>
      obtain ⟨_, first, others, _, _, _, _, later⟩ := exists_lexemes_cons found
      exact ih later.symm

theorem tokens_singleton {first : Char} (visible : isBlank first = false) :
    tokens [first] = [(readLexeme first []).1.token] := by
  have nothing : (readLexeme first []).2 = [] :=
    List.length_eq_zero_iff.mp (Nat.le_zero.mp (readLexeme_length first []))
  rw [tokens, lexemes_cons [] visible, nothing, List.map_cons, ← tokens, tokens_nil]

/-! ## The place of a lexeme -/

theorem ofEnd_append (before after : List Char) :
    Place.ofEnd (before ++ after) after = ⟨before, after⟩ := by
  simp [Place.ofEnd]

theorem splitAtByte_byteLength (before after : List Char) :
    splitAtByte (byteLength before) (before ++ after) = (before, after) := by
  induction before with
  | nil => rw [byteLength, splitAtByte, List.nil_append]
  | cons first before ih =>
      obtain ⟨more, bytes⟩ := Nat.exists_eq_add_one.mpr (Char.utf8Size_pos first)
      have same : byteLength (first :: before) = byteLength before + more + 1 := by
        rw [byteLength, bytes]
        omega
      rw [same, List.cons_append, splitAtByte, bytes, Nat.add_assoc, Nat.add_sub_cancel, ih]

/-- A place is found again from its byte offset. -/
theorem atByte_offset (place : Place) :
    Place.atByte (place.before ++ place.after) place.offset = place := by
  rw [Place.atByte, Place.offset, splitAtByte_byteLength]

end Lisplet.Source
