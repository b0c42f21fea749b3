import Lisplet.Error
import Lisplet.Source.Reader

/-!
# The defect of an expression that cannot be read

When an expression cannot be read, its tokens are looked through once more, with a stack of the
brackets that are open, for the first token that is wrong. `findDefect?` looks at the tokens of that
expression only: it stops without a defect where the expression is complete.
-/

set_option autoImplicit false

namespace Lisplet.Source

/-- What is wrong with a token. -/
inductive Defect where
  /-- A closing bracket while no group is open. -/
  | unexpected (closer : Bracket)
  /-- A closing bracket of another kind than the group that is open. -/
  | mismatched (closer opener : Bracket)
  /-- A token inside as many groups as the limit allows. -/
  | tooDeep (limit : Nat)
  /-- A number that is too great. -/
  | tooGreat (run : List Char)
  /-- An opening bracket whose group the text does not close. -/
  | unterminated (opener : Bracket)
  /-- Something else. -/
  | unknown
  deriving DecidableEq, Repr

namespace Defect

/-- The kind of mistake that a defect is. -/
def kind : Defect → ParseErrorKind
  | .unexpected _ => .invalidSyntax
  | .mismatched _ _ => .invalidSyntax
  | .tooDeep _ => .tooDeeplyNested
  | .tooGreat _ => .implementationLimit
  | .unterminated _ => .incomplete
  | .unknown => .invalidSyntax

/-- The wording of a defect. -/
def text : Defect → String
  | .unexpected closer => "unexpected '" ++ closer.closer.toString ++ "'"
  | .mismatched closer opener =>
      "mismatched '" ++ closer.closer.toString ++ "', expected '" ++ opener.closer.toString ++ "'"
  | .tooDeep limit => "expression too deeply nested (max depth: " ++ toString limit ++ ")"
  | .tooGreat run => "integer literal " ++ String.ofList run ++ " does not fit in 64 bits"
  | .unterminated opener =>
      "unterminated '" ++ opener.opener.toString ++ "' (missing '" ++ opener.closer.toString ++ "')"
  | .unknown => "invalid syntax"

end Defect

/-- A defect and the text from the token that has it on. -/
structure Located where
  defect : Defect
  start : List Char
  deriving DecidableEq, Repr

/-- An open bracket and the text from it on. -/
structure OpenBracket where
  bracket : Bracket
  start : List Char
  deriving DecidableEq, Repr

/-- The first defect of the expression that the tokens start with, given the brackets that are open
before them, innermost first. -/
def findDefect? (limit : Nat) : List OpenBracket → List Lexeme → Option Located
  | [], [] => none
  | innermost :: _, [] => some ⟨.unterminated innermost.bracket, innermost.start⟩
  | brackets, lexeme :: rest =>
      match lexeme.token with
      | .closing closer =>
          match brackets with
          | [] => some ⟨.unexpected closer, lexeme.start⟩
          | innermost :: outer =>
              if closer = innermost.bracket then
                if outer.isEmpty then none else findDefect? limit outer rest
              else some ⟨.mismatched closer innermost.bracket, lexeme.start⟩
      | token =>
          if limit ≤ brackets.length then some ⟨.tooDeep limit, lexeme.start⟩
          else
            match token with
            | .opening bracket => findDefect? limit (⟨bracket, lexeme.start⟩ :: brackets) rest
            | .digits run =>
                if maxNumber < digitsValue run then some ⟨.tooGreat run, lexeme.start⟩
                else if brackets.isEmpty then none
                else findDefect? limit brackets rest
            | _ => if brackets.isEmpty then none else findDefect? limit brackets rest

/-- The defect of the expression that the tokens start with. -/
def diagnose (limit : Nat) (input : List Lexeme) : Located :=
  (findDefect? limit [] input).getD ⟨.unknown, remainder input⟩

/-- The error for a located defect in a text. -/
def Located.error (text : List Char) (located : Located) : ParseError :=
  .atPlace located.defect.kind located.defect.text (.ofEnd text located.start)

end Lisplet.Source
