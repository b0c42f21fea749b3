import Lisplet.Source.Token

/-!
# The tokens of a text

`Tokenized text tokens` says which tokens a text has without saying how they are found: blanks mean
nothing, a bracket is a token, a run of digits that no digit follows is a token, and so is a run of
word characters that starts with no digit and that no word character follows. Every text has exactly
one sequence of tokens in this sense, and it is the one that `lexemes` finds (`tokenized_iff`).

The statements about runs are about where a run stops: `Stops test rest` says that `rest` does not
go on with a character that passes the test.
-/

set_option autoImplicit false

namespace Lisplet.Source

open Lisplet.Text

/-! ## Where a run stops -/

/-- A text does not go on with a character that passes the test. -/
def Stops (test : Char → Bool) (rest : List Char) : Prop :=
  ∀ character ∈ rest.head?, test character = false

theorem stops_dropWhile (test : Char → Bool) (text : List Char) :
    Stops test (text.dropWhile test) := by
  have first := List.head?_dropWhile_not test text
  intro character member
  rw [Option.mem_def.mp member] at first
  exact first

theorem stops_cons {test : Char → Bool} {first : Char} {rest : List Char}
    (fails : test first = false) : Stops test (first :: rest) := by
  intro character member
  rw [← Option.some.inj (Option.mem_def.mp member)]
  exact fails

theorem Stops.takeWhile {test : Char → Bool} {rest : List Char} (stops : Stops test rest) :
    rest.takeWhile test = [] := by
  cases rest with
  | nil => rfl
  | cons first rest => simp [stops first rfl]

theorem Stops.dropWhile {test : Char → Bool} {rest : List Char} (stops : Stops test rest) :
    rest.dropWhile test = rest := by
  cases rest with
  | nil => rfl
  | cons first rest => simp [stops first rfl]

theorem mem_takeWhile (test : Char → Bool) (text : List Char) :
    ∀ character ∈ text.takeWhile test, test character = true :=
  fun character member => List.all_eq_true.mp List.all_takeWhile character member

/-- A run of characters that pass the test, with text behind it where the run stops. -/
theorem takeWhile_run {test : Char → Bool} {run rest : List Char}
    (passes : ∀ character ∈ run, test character = true) (stops : Stops test rest) :
    (run ++ rest).takeWhile test = run := by
  rw [List.takeWhile_append_of_pos passes, stops.takeWhile, List.append_nil]

theorem dropWhile_run {test : Char → Bool} {run rest : List Char}
    (passes : ∀ character ∈ run, test character = true) (stops : Stops test rest) :
    (run ++ rest).dropWhile test = rest := by
  rw [List.dropWhile_append_of_pos passes, stops.dropWhile]

/-! ## The classes of characters -/

theorem isBlank_of_bracket {character : Char} {token : Token}
    (bracket : bracketToken? character = some token) : isBlank character = false := by
  unfold bracketToken? at bracket
  split at bracket
  · decide
  · decide
  · decide
  · decide
  · cases bracket

theorem bracketToken?_closer (bracket : Bracket) :
    bracketToken? bracket.closer = some (.closing bracket) := by
  cases bracket <;> rfl

theorem isBlank_of_isDigit {character : Char} (digit : character.isDigit = true) :
    isBlank character = false := by
  obtain ⟨low, high⟩ := Char.isDigit_iff_toNat.mp digit
  have least : '0'.toNat = 48 := rfl
  have greatest : '9'.toNat = 57 := rfl
  rw [isBlank, List.any_eq_false]
  intro range member
  simp only [blankRanges, List.mem_cons, List.not_mem_nil, or_false] at member
  rcases member with rfl | rfl | rfl | rfl | rfl | rfl | rfl | rfl | rfl | rfl
  all_goals simp only [Bool.and_eq_true, decide_eq_true_eq]; omega

theorem bracketToken?_of_isDigit {character : Char} (digit : character.isDigit = true) :
    bracketToken? character = none := by
  unfold bracketToken?
  split
  · cases digit
  · cases digit
  · cases digit
  · cases digit
  · rfl

theorem isWordCharacter_of_isDigit {character : Char} (digit : character.isDigit = true) :
    isWordCharacter character = true := by
  simp [isWordCharacter, isBlank_of_isDigit digit, bracketToken?_of_isDigit digit]

theorem isBlank_of_isWordCharacter {character : Char} (word : isWordCharacter character = true) :
    isBlank character = false := by
  simp only [isWordCharacter, Bool.and_eq_true, Bool.not_eq_true'] at word
  exact word.1

theorem bracketToken?_of_isWordCharacter {character : Char}
    (word : isWordCharacter character = true) : bracketToken? character = none := by
  simp only [isWordCharacter, Bool.and_eq_true] at word
  exact Option.isNone_iff_eq_none.mp word.2

/-! ## What `lexemes` does at each character -/

/-- The tokens that are found in a text. -/
def tokens (text : List Char) : List Token := (lexemes text).map Lexeme.token

theorem lexemes_of_dropBlanks_nil {text : List Char} (only : dropBlanks text = []) :
    lexemes text = [] := by
  rw [lexemes]
  split
  · rfl
  · rename_i left
    rw [only] at left
    cases left

theorem lexemes_of_dropBlanks_cons {text rest : List Char} {first : Char}
    (left : dropBlanks text = first :: rest) :
    lexemes text = (readLexeme first rest).1 :: lexemes (readLexeme first rest).2 := by
  rw [lexemes]
  split
  · rename_i only
    rw [only] at left
    cases left
  · rename_i other others same
    rw [same] at left
    cases left
    rfl

theorem lexemes_blank {character : Char} (text : List Char) (blank : isBlank character = true) :
    lexemes (character :: text) = lexemes text := by
  have same := dropBlanks_cons_blank text blank
  cases left : dropBlanks text with
  | nil => rw [lexemes_of_dropBlanks_nil left, lexemes_of_dropBlanks_nil (same.trans left)]
  | cons first rest =>
      rw [lexemes_of_dropBlanks_cons left, lexemes_of_dropBlanks_cons (same.trans left)]

theorem lexemes_cons {first : Char} (rest : List Char) (visible : isBlank first = false) :
    lexemes (first :: rest) = (readLexeme first rest).1 :: lexemes (readLexeme first rest).2 :=
  lexemes_of_dropBlanks_cons (dropBlanks_cons rest visible)

theorem tokens_nil : tokens [] = [] := by
  rw [tokens, lexemes_of_dropBlanks_nil dropBlanks_nil, List.map_nil]

theorem tokens_bracket {character : Char} {token : Token} (text : List Char)
    (bracket : bracketToken? character = some token) :
    tokens (character :: text) = token :: tokens text := by
  rw [tokens, lexemes_cons text (isBlank_of_bracket bracket)]
  simp [readLexeme, bracket, tokens]

theorem tokens_digits {run rest : List Char} (some : run ≠ [])
    (digits : ∀ character ∈ run, character.isDigit = true) (stops : Stops Char.isDigit rest) :
    tokens (run ++ rest) = .digits run :: tokens rest := by
  obtain ⟨first, others, rfl⟩ := List.exists_cons_of_ne_nil some
  have start := digits first List.mem_cons_self
  have later : ∀ character ∈ others, character.isDigit = true := fun character member =>
    digits character (List.mem_cons_of_mem first member)
  rw [tokens, List.cons_append, lexemes_cons _ (isBlank_of_isDigit start)]
  simp [readLexeme, bracketToken?_of_isDigit start, start, takeWhile_run later stops,
    dropWhile_run later stops, tokens]

theorem tokens_word {run rest : List Char} (some : run ≠ []) (start : Stops Char.isDigit run)
    (word : ∀ character ∈ run, isWordCharacter character = true)
    (stops : Stops isWordCharacter rest) : tokens (run ++ rest) = .word run :: tokens rest := by
  obtain ⟨first, others, rfl⟩ := List.exists_cons_of_ne_nil some
  have head := word first List.mem_cons_self
  have later : ∀ character ∈ others, isWordCharacter character = true := fun character member =>
    word character (List.mem_cons_of_mem first member)
  rw [tokens, List.cons_append, lexemes_cons _ (isBlank_of_isWordCharacter head)]
  simp [readLexeme, bracketToken?_of_isWordCharacter head, start first rfl,
    takeWhile_run later stops, dropWhile_run later stops, tokens]

/-! ## The tokens of a text, said without a procedure -/

/-- A text and the tokens in it. -/
inductive Tokenized : List Char → List Token → Prop where
  | done : Tokenized [] []
  /-- A blank means nothing. -/
  | blank {character : Char} {text : List Char} {found : List Token} :
      isBlank character = true → Tokenized text found → Tokenized (character :: text) found
  /-- A bracket is a token. -/
  | bracket {character : Char} {token : Token} {text : List Char} {found : List Token} :
      bracketToken? character = some token → Tokenized text found →
        Tokenized (character :: text) (token :: found)
  /-- A run of digits is a token when no digit follows it. -/
  | digits {run rest : List Char} {found : List Token} :
      run ≠ [] → (∀ character ∈ run, character.isDigit = true) → Stops Char.isDigit rest →
        Tokenized rest found → Tokenized (run ++ rest) (.digits run :: found)
  /-- A run of word characters, the first of them no digit, is a token when no word character
  follows it. -/
  | word {run rest : List Char} {found : List Token} :
      run ≠ [] → Stops Char.isDigit run → (∀ character ∈ run, isWordCharacter character = true) →
        Stops isWordCharacter rest → Tokenized rest found →
          Tokenized (run ++ rest) (.word run :: found)

theorem Tokenized.tokens_eq {text : List Char} {found : List Token}
    (tokenized : Tokenized text found) : tokens text = found := by
  induction tokenized with
  | done => rw [tokens, lexemes_of_dropBlanks_nil dropBlanks_nil, List.map_nil]
  | blank blank _ ih => rw [tokens, lexemes_blank _ blank, ← ih, tokens]
  | bracket bracket _ ih => rw [tokens_bracket _ bracket, ih]
  | digits some digits stops _ ih => rw [tokens_digits some digits stops, ih]
  | word some start word stops _ ih => rw [tokens_word some start word stops, ih]

/-- Every text has tokens. The recursion is on the length of the text that is left. -/
theorem exists_tokenized (text : List Char) : ∃ found, Tokenized text found := by
  induction length : text.length using Nat.strongRecOn generalizing text with
  | ind bound ih =>
      subst length
      cases text with
      | nil => exact ⟨[], .done⟩
      | cons first rest =>
          by_cases blank : isBlank first = true
          · obtain ⟨found, later⟩ := ih rest.length (Nat.lt_succ_self _) rest rfl
            exact ⟨found, .blank blank later⟩
          cases bracket : bracketToken? first with
          | some token =>
              obtain ⟨found, later⟩ := ih rest.length (Nat.lt_succ_self _) rest rfl
              exact ⟨token :: found, .bracket bracket later⟩
          | none =>
              by_cases digit : first.isDigit = true
              · obtain ⟨found, later⟩ := ih (rest.dropWhile Char.isDigit).length
                  (Nat.lt_succ_of_le (length_dropWhile_le _ _)) _ rfl
                have run := Tokenized.digits (List.cons_ne_nil _ _)
                  (List.forall_mem_cons.mpr ⟨digit, mem_takeWhile Char.isDigit rest⟩)
                  (stops_dropWhile Char.isDigit rest) later
                rw [List.cons_append, List.takeWhile_append_dropWhile] at run
                exact ⟨_, run⟩
              · have visible : isWordCharacter first = true := by
                  simp [isWordCharacter, blank, bracket]
                obtain ⟨found, later⟩ := ih (rest.dropWhile isWordCharacter).length
                  (Nat.lt_succ_of_le (length_dropWhile_le _ _)) _ rfl
                have run := Tokenized.word (List.cons_ne_nil _ _)
                  (stops_cons (Bool.eq_false_iff.mpr digit))
                  (List.forall_mem_cons.mpr ⟨visible, mem_takeWhile isWordCharacter rest⟩)
                  (stops_dropWhile isWordCharacter rest) later
                rw [List.cons_append, List.takeWhile_append_dropWhile] at run
                exact ⟨_, run⟩

/-- Every text has exactly the tokens that are found in it. -/
theorem tokenized_iff {text : List Char} {found : List Token} :
    Tokenized text found ↔ tokens text = found := by
  constructor
  · exact Tokenized.tokens_eq
  · rintro rfl
    obtain ⟨found, tokenized⟩ := exists_tokenized text
    rw [tokenized.tokens_eq]
    exact tokenized

end Lisplet.Source
