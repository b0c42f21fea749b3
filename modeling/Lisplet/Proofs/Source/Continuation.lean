import Lisplet.Proofs.Source.Acceptance
import Lisplet.Proofs.Source.Spelling

/-!
# Texts that can be continued

A text can be continued when it is the front of an accepted program. Whether it can is told from its
tokens: each of them has to fit where it stands, and the brackets that are open at the end do not
matter, because closing them is a continuation (`continues_iff`).

More text behind a text changes its last token at most, and only by making a run of digits or a word
longer. A longer run of digits is no smaller number, so tokens that do not fit are not mended by
what follows them (`leads_of_leads_append`).
-/

set_option autoImplicit false

namespace Lisplet.Source

open Text

/-! ## Tokens that fit where they stand -/

/-- A token that is no closing bracket stands inside fewer brackets than the limit, and a number is
not too great. -/
structure Fits (limit : Nat) (opened : List Bracket) (token : Token) : Prop where
  number : ∀ run, token = .digits run → digitsValue run ≤ maxNumber
  depth : token.isClosing = false → opened.length < limit

/-- Every token fits where it stands when `opened` are the brackets open before the first one, and
`inner` are those open after the last one. -/
structure Leads (limit : Nat) (opened : List Bracket) (found : List Token) (inner : List Bracket) :
    Prop where
  brackets : openAfter? opened found = some inner
  numbers : NumbersFit found
  depth : WithinDepth limit opened found

variable {limit : Nat} {opened inner : List Bracket} {token : Token} {front found : List Token}

theorem leads_nil_iff : Leads limit opened [] inner ↔ opened = inner := by
  constructor
  · intro leads
    exact Option.some.inj leads.brackets
  · rintro rfl
    exact ⟨rfl, nofun, withinDepth_nil limit opened⟩

theorem leads_cons_iff :
    Leads limit opened (token :: found) inner ↔
      Fits limit opened token ∧
        ∃ middle, bracketStep? opened token = some middle ∧ Leads limit middle found inner := by
  constructor
  · rintro ⟨brackets, numbers, depth⟩
    rw [openAfter?_cons] at brackets
    obtain ⟨middle, step, brackets⟩ := Option.bind_eq_some_iff.mp brackets
    obtain ⟨here, later⟩ := withinDepth_cons_iff.mp depth
    refine ⟨⟨fun run same => numbers run (same ▸ List.mem_cons_self), here⟩, middle, step, ?_⟩
    exact ⟨brackets, numbers.tail, later middle step⟩
  · rintro ⟨fits, middle, step, later⟩
    refine ⟨?_, fun run member => ?_, withinDepth_cons_iff.mpr ⟨fits.depth, ?_⟩⟩
    · rw [openAfter?_cons, step]
      exact later.brackets
    · rcases List.mem_cons.mp member with here | there
      · exact fits.number run here.symm
      · exact later.numbers run there
    · intro other same
      obtain rfl := Option.some.inj (step.symm.trans same)
      exact later.depth

theorem leads_append_iff :
    Leads limit opened (front ++ found) inner ↔
      ∃ middle, Leads limit opened front middle ∧ Leads limit middle found inner := by
  induction front generalizing opened with
  | nil =>
      constructor
      · intro leads
        exact ⟨opened, leads_nil_iff.mpr rfl, leads⟩
      · rintro ⟨middle, start, leads⟩
        exact leads_nil_iff.mp start ▸ leads
  | cons token front ih =>
      simp only [List.cons_append, leads_cons_iff, ih]
      constructor
      · rintro ⟨fits, first, step, middle, early, late⟩
        exact ⟨middle, ⟨fits, first, step, early⟩, late⟩
      · rintro ⟨middle, ⟨fits, first, step, early⟩, late⟩
        exact ⟨fits, first, step, middle, early, late⟩

/-- Tokens of whole expressions lead back to the brackets that are open before them. -/
theorem leads_nil_nil_iff :
    Leads limit [] found [] ↔ ∃ expressions, Spelled limit expressions found := by
  rw [exists_spelled_iff]
  constructor
  · rintro ⟨brackets, numbers, depth⟩
    exact ⟨brackets, numbers, depth⟩
  · rintro ⟨balanced, numbers, depth⟩
    exact ⟨balanced, numbers, depth⟩

/-- A closing bracket for each bracket that is open. -/
theorem leads_closing (limit : Nat) (opened : List Bracket) :
    Leads limit opened (opened.map .closing) [] := by
  induction opened with
  | nil => exact leads_nil_iff.mpr rfl
  | cons innermost outer ih =>
      refine leads_cons_iff.mpr ⟨⟨nofun, nofun⟩, outer, ?_, ih⟩
      simp [bracketStep?]

/-! ## Text behind a text -/

theorem Stops.append {test : Char → Bool} {text after : List Char} (stops : Stops test text)
    (later : Stops test after) : Stops test (text ++ after) := by
  cases text with
  | nil => exact later
  | cons first rest => exact stops

theorem Stops.append_of_ne_nil {test : Char → Bool} {text : List Char} (stops : Stops test text)
    (some : text ≠ []) (after : List Char) : Stops test (text ++ after) := by
  cases text with
  | nil => exact absurd rfl some
  | cons first rest => exact stops

/-- A run goes on behind its text only where the text behind it does not stop it. -/
theorem takeWhile_append_of_stops {test : Char → Bool} {after : List Char} (text : List Char)
    (stops : Stops test after) : (text ++ after).takeWhile test = text.takeWhile test := by
  have whole : text ++ after = text.takeWhile test ++ (text.dropWhile test ++ after) := by
    rw [← List.append_assoc, List.takeWhile_append_dropWhile]
  rw [whole, takeWhile_run (mem_takeWhile test text) ((stops_dropWhile test text).append stops)]

theorem dropWhile_append_of_stops {test : Char → Bool} {after : List Char} (text : List Char)
    (stops : Stops test after) :
    (text ++ after).dropWhile test = text.dropWhile test ++ after := by
  have whole : text ++ after = text.takeWhile test ++ (text.dropWhile test ++ after) := by
    rw [← List.append_assoc, List.takeWhile_append_dropWhile]
  rw [whole, dropWhile_run (mem_takeWhile test text) ((stops_dropWhile test text).append stops)]

/-- A lexeme with more text behind its own. -/
def Lexeme.followedBy (after : List Char) (lexeme : Lexeme) : Lexeme :=
  { lexeme with start := lexeme.start ++ after }

theorem readLexeme_append {after : List Char} (first : Char) (rest : List Char)
    (stops : Stops isWordCharacter after) :
    readLexeme first (rest ++ after) =
      ((readLexeme first rest).1.followedBy after, (readLexeme first rest).2 ++ after) := by
  unfold readLexeme
  split
  · rfl
  · rw [takeWhile_append_of_stops rest stops.isDigit, dropWhile_append_of_stops rest stops.isDigit,
      takeWhile_append_of_stops rest stops, dropWhile_append_of_stops rest stops]
    split <;> rfl

/-- Behind a text in which every word stops, the lexemes are those of the two texts. The recursion
is on the length of the text that is left. -/
theorem lexemes_append {after : List Char} (text : List Char)
    (stops : Stops isWordCharacter after) :
    lexemes (text ++ after) = (lexemes text).map (Lexeme.followedBy after) ++ lexemes after := by
  induction length : text.length using Nat.strongRecOn generalizing text with
  | ind bound ih =>
      subst length
      cases text with
      | nil => rw [lexemes_of_dropBlanks_nil dropBlanks_nil, List.map_nil, List.nil_append,
          List.nil_append]
      | cons first rest =>
          rw [List.cons_append]
          cases blank : isBlank first with
          | true =>
              rw [lexemes_blank _ blank, lexemes_blank _ blank]
              exact ih rest.length (Nat.lt_succ_self _) rest rfl
          | false =>
              have shorter := Nat.lt_succ_of_le (readLexeme_length first rest)
              rw [lexemes_cons _ blank, lexemes_cons _ blank, readLexeme_append first rest stops,
                ih _ shorter _ rfl, List.map_cons, List.cons_append]

theorem tokens_append {after : List Char} (text : List Char) (stops : Stops isWordCharacter after) :
    tokens (text ++ after) = tokens text ++ tokens after := by
  rw [tokens, lexemes_append text stops, List.map_append, List.map_map]
  rfl

theorem stops_closers (opened : List Bracket) :
    Stops isWordCharacter (opened.map Bracket.closer) := by
  cases opened with
  | nil => exact fun character member => nomatch member
  | cons innermost outer => cases innermost <;> exact stops_cons (by decide)

theorem tokens_closers (opened : List Bracket) :
    tokens (opened.map Bracket.closer) = opened.map .closing := by
  induction opened with
  | nil => exact tokens_nil
  | cons innermost outer ih =>
      rw [List.map_cons, tokens_bracket _ (bracketToken?_closer innermost), ih, List.map_cons]

theorem ofDigitChars_ge (run : List Char) (start : Nat) :
    start ≤ Nat.ofDigitChars 10 run start := by
  induction run generalizing start with
  | nil => exact Nat.le_refl start
  | cons digit run ih =>
      rw [Nat.ofDigitChars_cons]
      exact Nat.le_trans (by omega) (ih _)

/-- More digits make no smaller number. -/
theorem digitsValue_le_append (run more : List Char) :
    digitsValue run ≤ digitsValue (run ++ more) := by
  rw [digitsValue, digitsValue, Nat.ofDigitChars_append]
  exact ofDigitChars_ge more _

/-- At the end of a text a run of digits may go on in the text behind it. -/
theorem exists_tokens_digits {run : List Char} (some : run ≠ [])
    (digits : ∀ character ∈ run, character.isDigit = true) (more : List Char) :
    ∃ longer later, tokens (run ++ more) = .digits (run ++ longer) :: later := by
  have passes := List.forall_mem_append.mpr ⟨digits, mem_takeWhile Char.isDigit more⟩
  have found := tokens_digits (List.append_ne_nil_of_left_ne_nil some _) passes
    (stops_dropWhile Char.isDigit more)
  rw [List.append_assoc, List.takeWhile_append_dropWhile] at found
  exact ⟨_, _, found⟩

/-- So may a word. -/
theorem exists_tokens_word {run : List Char} (some : run ≠ []) (start : Stops Char.isDigit run)
    (word : ∀ character ∈ run, isWordCharacter character = true) (more : List Char) :
    ∃ longer later, tokens (run ++ more) = .word (run ++ longer) :: later := by
  have passes := List.forall_mem_append.mpr ⟨word, mem_takeWhile isWordCharacter more⟩
  have found := tokens_word (List.append_ne_nil_of_left_ne_nil some _)
    (start.append_of_ne_nil some _) passes (stops_dropWhile isWordCharacter more)
  rw [List.append_assoc, List.takeWhile_append_dropWhile] at found
  exact ⟨_, _, found⟩

theorem Fits.shorter {run more : List Char} (fits : Fits limit opened (.digits (run ++ more))) :
    Fits limit opened (.digits run) where
  number := by
    rintro _ ⟨⟩
    exact Nat.le_trans (digitsValue_le_append run more) (fits.number _ rfl)
  depth := fits.depth

/-- A token that fits, with tokens behind it of which is known what they lead to wherever others
do. -/
theorem exists_leads_cons {later : List Token} (leads : Leads limit opened (token :: later) inner)
    (goesOn : ∀ middle, Leads limit middle later inner → ∃ last, Leads limit middle found last) :
    ∃ last, Leads limit opened (token :: found) last := by
  obtain ⟨fits, middle, step, later⟩ := leads_cons_iff.mp leads
  obtain ⟨last, later⟩ := goesOn middle later
  exact ⟨last, leads_cons_iff.mpr ⟨fits, middle, step, later⟩⟩

/-- The tokens of a text fit when they do with more text behind it. The induction is on the tokens
of the text; only at the end of the text can the text behind it make a token longer. -/
theorem leads_of_leads_append {text more : List Char} {opened inner : List Bracket}
    (leads : Leads limit opened (tokens (text ++ more)) inner) :
    ∃ middle, Leads limit opened (tokens text) middle := by
  obtain ⟨found, tokenized⟩ := exists_tokenized text
  rw [tokenized.tokens_eq]
  induction tokenized generalizing opened with
  | done => exact ⟨opened, leads_nil_iff.mpr rfl⟩
  | blank blank _ ih =>
      rw [List.cons_append, tokens, lexemes_blank _ blank, ← tokens] at leads
      exact ih leads
  | bracket bracket _ ih =>
      rw [List.cons_append, tokens_bracket _ bracket] at leads
      exact exists_leads_cons leads fun middle later => ih later
  | @digits run rest found some digits ends behind ih =>
      by_cases atEnd : rest = []
      · subst atEnd
        obtain rfl := behind.tokens_eq.symm.trans tokens_nil
        obtain ⟨longer, later, same⟩ := exists_tokens_digits some digits more
        rw [List.append_nil, same] at leads
        have fits := (leads_cons_iff.mp leads).1.shorter
        exact ⟨opened, leads_cons_iff.mpr ⟨fits, opened, rfl, leads_nil_iff.mpr rfl⟩⟩
      · rw [List.append_assoc,
          tokens_digits some digits (ends.append_of_ne_nil atEnd more)] at leads
        exact exists_leads_cons leads fun middle later => ih later
  | @word run rest found some start word ends behind ih =>
      by_cases atEnd : rest = []
      · subst atEnd
        obtain rfl := behind.tokens_eq.symm.trans tokens_nil
        obtain ⟨longer, later, same⟩ := exists_tokens_word some start word more
        rw [List.append_nil, same] at leads
        have depth := (leads_cons_iff.mp leads).1.depth rfl
        refine ⟨opened,
          leads_cons_iff.mpr ⟨⟨?_, fun _ => depth⟩, opened, rfl, leads_nil_iff.mpr rfl⟩⟩
        rintro _ ⟨⟩
      · rw [List.append_assoc,
          tokens_word some start word (ends.append_of_ne_nil atEnd more)] at leads
        exact exists_leads_cons leads fun middle later => ih later

end Lisplet.Source

namespace Lisplet

open Source

/-- A text is the front of a program that is accepted. -/
def Continues (limit : Nat) (text : String) : Prop :=
  ∃ more expressions, parseProgram limit (text ++ more) = .ok expressions

/-- A text can be continued when each of its tokens fits where it stands. -/
theorem continues_iff {limit : Nat} {text : String} :
    Continues limit text ↔ ∃ opened, Leads limit [] (tokens text.toList) opened := by
  constructor
  · rintro ⟨more, expressions, accepted⟩
    rw [parseProgram_eq_ok_iff, String.toList_append] at accepted
    exact leads_of_leads_append (leads_nil_nil_iff.mpr ⟨expressions, accepted⟩)
  · rintro ⟨opened, leads⟩
    obtain ⟨expressions, spelled⟩ := leads_nil_nil_iff.mp
      (leads_append_iff.mpr ⟨opened, leads, leads_closing limit opened⟩)
    refine ⟨String.ofList (opened.map Bracket.closer), expressions, ?_⟩
    rw [parseProgram_eq_ok_iff, String.toList_append, String.toList_ofList,
      tokens_append _ (stops_closers opened), tokens_closers]
    exact spelled

end Lisplet
