import Lisplet.Source.Defect

/-!
# Reading programs

A program is a source text. `parse` reads as many of its expressions as it can and returns the rest
of the text; `parseProgram` reads all of them, or fails with the first defect of the expression
where reading stopped.
-/

set_option autoImplicit false

namespace Lisplet

/-- All the expressions of a text, under a limit on their depth. -/
def Source.program (limit : Nat) (text : List Char) : Except ParseError (List Expr) :=
  match Source.readAll limit (Source.lexemes text) with
  | (expressions, []) => .ok expressions
  | (_, rest) => .error ((Source.diagnose limit rest).error text)

/-- The greatest depth of an expression in a source text, unless a caller sets another. -/
def defaultReadLimit : Nat := 256

/-- The expressions at the start of a source text, and the text from the first one that cannot be
read on, without blanks in front. -/
def parse (limit : Nat) (text : String) : List Expr × String :=
  let (expressions, rest) := Source.readText limit text.toList
  (expressions, String.ofList rest)

/-- All the expressions of a source text, or the first mistake in it. -/
def parseProgram (limit : Nat) (text : String) : Except Error (List Expr) :=
  (Source.program limit text.toList).mapError .parse

end Lisplet
