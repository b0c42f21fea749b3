/-!
# Snippets of a source text

An error shows the place it stands at: the character there, and a snippet of the text around it. The
place is a byte offset in the UTF-8 form of the text. The snippet starts at the nearest character
boundary at least twenty bytes before the place, or at the start of the text, and holds at most a
hundred characters; a mark on either side says that text was left out there. Line feeds inside it
are written as a backslash and an `n`, carriage returns are left out.

`splitAtByte` cuts a text at an offset; the two pieces make up the text (`splitAtByte_append`).
-/

set_option autoImplicit false

namespace Lisplet.Source

/-- How many bytes a text takes in UTF-8. -/
def byteLength : List Char → Nat
  | [] => 0
  | character :: rest => character.utf8Size + byteLength rest

/-- The shortest piece in front of a text that has at least the given number of bytes, or the whole
text when it has fewer, and what follows that piece. -/
def splitAtByte : Nat → List Char → List Char × List Char
  | 0, text => ([], text)
  | _ + 1, [] => ([], [])
  | count + 1, character :: rest =>
      let (before, after) := splitAtByte (count + 1 - character.utf8Size) rest
      (character :: before, after)
termination_by _ text => text.length

theorem splitAtByte_append (count : Nat) (text : List Char) :
    (splitAtByte count text).1 ++ (splitAtByte count text).2 = text := by
  fun_induction splitAtByte count text with
  | case1 => rfl
  | case2 => rfl
  | case3 count character rest before after equation ih =>
      rw [equation] at ih
      exact congrArg (character :: ·) ih

/-- A place in a text: what stands before it and what stands from it on. -/
structure Place where
  before : List Char
  after : List Char
  deriving DecidableEq, Repr

namespace Place

/-- The place at a byte offset. -/
def atByte (text : List Char) (offset : Nat) : Place :=
  let (before, after) := splitAtByte offset text
  ⟨before, after⟩

/-- The place where a given end of the text starts. -/
def ofEnd (text tail : List Char) : Place := ⟨text.take (text.length - tail.length), tail⟩

/-- The byte offset of a place. -/
def offset (place : Place) : Nat := byteLength place.before

/-- The character at a place, if the text goes on there. -/
def found? (place : Place) : Option String := place.after.head?.map String.singleton

/-- The number of bytes before the place that a snippet reaches back. -/
def reach : Nat := 20

/-- The greatest number of characters in a snippet. -/
def width : Nat := 100

/-- The mark for text that a snippet leaves out. -/
def ellipsis : List Char := "[...]".toList

/-- How a character is written in a snippet. -/
def flatten : Char → List Char
  | '\n' => ['\\', 'n']
  | '\r' => []
  | other => [other]

/-- The text before the place, cut where a snippet starts. -/
def lead (place : Place) : List Char × List Char :=
  let (near, far) := splitAtByte reach place.before.reverse
  (far.reverse, near.reverse)

/-- The text from the start of the snippet on. -/
def view (place : Place) : List Char := place.lead.2 ++ place.after

/-- The snippet of the text around a place. -/
def snippet (place : Place) : String :=
  let opening := if place.lead.1.isEmpty then [] else ellipsis
  let closing := if (place.view.drop width).isEmpty then [] else ellipsis
  String.ofList (opening ++ (place.view.take width).flatMap flatten ++ closing)

end Place
end Lisplet.Source
