import Lisplet.Expr.Basic
import Lisplet.Source.Token

/-!
# Reading expressions

An expression is read from the tokens in front of a token list by recursive descent. A run of digits
is a number, a word is a symbol, and an opening bracket starts a form that goes on for as many
expressions as can be read and ends with the bracket of the same kind. A form in square brackets is
written with the elements alone and read with the symbol `Expr.vectorHead` before them.

Every expression stands at a depth, the number of groups around it, and there is a limit on the
depth: `room` is what is left of it. With no room left no expression can be read, but a closing
bracket can.

`readAll` reads as far as it gets; the limit on the depth and the 64 bits of a number are the only
things that stop it before a token that fits nowhere.
-/

set_option autoImplicit false

namespace Lisplet.Source

/-- The greatest number that a source text can hold. -/
def maxNumber : Nat := 9223372036854775807

/-- The number that a run of decimal digits stands for. -/
def digitsValue (run : List Char) : Nat := Nat.ofDigitChars 10 run 0

/-- The number of a run of digits, if it is not too great. -/
def readNumber (run : List Char) : Option Expr :=
  if digitsValue run ≤ maxNumber then some (.number (Int64.ofNat (digitsValue run))) else none

/-- The form of a group with the given elements. -/
def Bracket.group : Bracket → List Expr → Expr
  | .round, elements => .form elements
  | .square, elements => .form (.symbol Expr.vectorHead :: elements)

/-- Expressions as long as one can be read, and the tokens after them. The first argument bounds how
many; the number of tokens is enough. -/
def readMany (read : List Lexeme → Option (Expr × List Lexeme)) :
    Nat → List Lexeme → List Expr × List Lexeme
  | 0, input => ([], input)
  | bound + 1, input =>
      match read input with
      | none => ([], input)
      | some (expression, rest) =>
          let (expressions, after) := readMany read bound rest
          (expression :: expressions, after)

/-- The expression that a list of tokens starts with, and the tokens after it. -/
def readExpr (bound : Nat) : (room : Nat) → List Lexeme → Option (Expr × List Lexeme)
  | 0, _ => none
  | _ + 1, [] => none
  | room + 1, lexeme :: rest =>
      match lexeme.token with
      | .digits run => (readNumber run).map (·, rest)
      | .word run => some (.symbol (String.ofList run), rest)
      | .closing _ => none
      | .opening bracket =>
          match readMany (readExpr bound room) bound rest with
          | (elements, ⟨.closing closer, _⟩ :: after) =>
              if closer = bracket then some (bracket.group elements, after) else none
          | _ => none

/-- The expressions that a list of tokens starts with, and the tokens from the first one that cannot
be read on. -/
def readAll (limit : Nat) (input : List Lexeme) : List Expr × List Lexeme :=
  readMany (readExpr input.length limit) input.length input

/-- The text from the first lexeme of a list on. -/
def remainder : List Lexeme → List Char
  | [] => []
  | lexeme :: _ => lexeme.start

/-- The expressions at the start of a text, and the text from the first one that cannot be read
on. -/
def readText (limit : Nat) (text : List Char) : List Expr × List Char :=
  let (expressions, rest) := readAll limit (lexemes text)
  (expressions, remainder rest)

end Lisplet.Source
