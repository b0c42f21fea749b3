/-!
# Blank characters

Blanks separate the words of a source text and mean nothing else. They are the characters with the
Unicode property `White_Space`, which is a larger class than the five or six blanks of ASCII.

`dropBlanks` removes the blanks in front of a text; what is left starts with no blank
(`dropBlanks_head`), and a text that starts with none is left alone (`dropBlanks_cons`).
-/

set_option autoImplicit false

namespace Lisplet.Text

/-- The code points with the Unicode property `White_Space`, as closed ranges in ascending order. -/
def blankRanges : List (Nat × Nat) :=
  [(0x09, 0x0D), (0x20, 0x20), (0x85, 0x85), (0xA0, 0xA0), (0x1680, 0x1680), (0x2000, 0x200A),
    (0x2028, 0x2029), (0x202F, 0x202F), (0x205F, 0x205F), (0x3000, 0x3000)]

/-- A blank is a character in one of the ranges of `blankRanges`. -/
def isBlank (character : Char) : Bool :=
  blankRanges.any fun (low, high) => low ≤ character.toNat && character.toNat ≤ high

/-- The text from its first character that is no blank. -/
def dropBlanks (text : List Char) : List Char := text.dropWhile isBlank

/-- The text without the blanks at its two ends. -/
def trim (text : List Char) : List Char := (dropBlanks (dropBlanks text).reverse).reverse

@[simp] theorem dropBlanks_nil : dropBlanks [] = [] := rfl

theorem dropBlanks_cons {character : Char} (text : List Char) (blank : isBlank character = false) :
    dropBlanks (character :: text) = character :: text := by
  simp [dropBlanks, List.dropWhile, blank]

theorem dropBlanks_cons_blank {character : Char} (text : List Char)
    (blank : isBlank character = true) : dropBlanks (character :: text) = dropBlanks text := by
  simp [dropBlanks, List.dropWhile, blank]

/-- What is left starts with no blank. -/
theorem dropBlanks_head {character : Char} {text rest : List Char}
    (left : dropBlanks text = character :: rest) : isBlank character = false := by
  induction text with
  | nil => cases left
  | cons first others ih =>
      cases blank : isBlank first with
      | true => exact ih (dropBlanks_cons_blank others blank ▸ left)
      | false =>
          rw [dropBlanks_cons others blank] at left
          cases left
          exact blank

/-- Only blanks are removed. -/
theorem exists_append_dropBlanks (text : List Char) :
    ∃ blanks : List Char, (∀ character ∈ blanks, isBlank character = true) ∧
      text = blanks ++ dropBlanks text :=
  ⟨text.takeWhile isBlank, fun _ member => List.all_eq_true.mp List.all_takeWhile _ member,
    List.takeWhile_append_dropWhile.symm⟩

end Lisplet.Text
