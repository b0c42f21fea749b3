import Lisplet.Text.Blank

/-!
# Tokens of a source text

A source text is a sequence of tokens with blanks between them. A token is one bracket, or a run of
digits as long as possible when it starts with an ASCII digit, or else a word: a run, as long as
possible, of characters that are neither blanks nor brackets. A word may hold digits, but a run of
digits ends where the digits end, so `12ab` is two tokens and `ab12` is one.

A `Lexeme` is a token together with the text from its first character to the end of the source,
which says where the token stands. Every token is shorter than what it is read from
(`readLexeme_length`), so reading a whole text ends.
-/

set_option autoImplicit false

namespace Lisplet.Source

open Lisplet.Text

/-- The two kinds of brackets. -/
inductive Bracket where
  | round
  | square
  deriving DecidableEq, Repr

namespace Bracket

/-- The character that opens a group. -/
def opener : Bracket → Char
  | .round => '('
  | .square => '['

/-- The character that closes a group. -/
def closer : Bracket → Char
  | .round => ')'
  | .square => ']'

end Bracket

/-- A token of a source text. -/
inductive Token where
  /-- A bracket that opens a group. -/
  | opening (bracket : Bracket)
  /-- A bracket that closes a group. -/
  | closing (bracket : Bracket)
  /-- A run of ASCII digits. -/
  | digits (run : List Char)
  /-- A run of characters that are neither blanks nor brackets, the first of them no digit. -/
  | word (run : List Char)
  deriving DecidableEq, Repr

/-- The token that a bracket character is. -/
def bracketToken? : Char → Option Token
  | '(' => some (.opening .round)
  | '[' => some (.opening .square)
  | ')' => some (.closing .round)
  | ']' => some (.closing .square)
  | _ => none

/-- A word holds neither blanks nor brackets. -/
def isWordCharacter (character : Char) : Bool :=
  !isBlank character && (bracketToken? character).isNone

/-- A token and the text that starts with it. -/
structure Lexeme where
  token : Token
  /-- The source text from the first character of the token to the end. -/
  start : List Char
  deriving DecidableEq, Repr

/-- The lexeme that starts with a given character, and the text after it. -/
def readLexeme (first : Char) (rest : List Char) : Lexeme × List Char :=
  match bracketToken? first with
  | some token => (⟨token, first :: rest⟩, rest)
  | none =>
      if first.isDigit then
        (⟨.digits (first :: rest.takeWhile Char.isDigit), first :: rest⟩,
          rest.dropWhile Char.isDigit)
      else
        (⟨.word (first :: rest.takeWhile isWordCharacter), first :: rest⟩,
          rest.dropWhile isWordCharacter)

theorem length_dropWhile_le (test : Char → Bool) (text : List Char) :
    (text.dropWhile test).length ≤ text.length :=
  (List.dropWhile_sublist test).length_le

/-- A token takes at least its first character. -/
theorem readLexeme_length (first : Char) (rest : List Char) :
    (readLexeme first rest).2.length ≤ rest.length := by
  unfold readLexeme
  split
  · exact Nat.le_refl _
  · split <;> exact length_dropWhile_le _ _

/-- The lexemes of a text, in order. -/
def lexemes (text : List Char) : List Lexeme :=
  match _left : dropBlanks text with
  | [] => []
  | first :: rest =>
      let next := readLexeme first rest
      next.1 :: lexemes next.2
termination_by text.length
decreasing_by
  have shorter := readLexeme_length first rest
  have whole : (first :: rest).length ≤ text.length := _left ▸ length_dropWhile_le isBlank text
  simp only [List.length_cons] at whole
  omega

end Lisplet.Source
