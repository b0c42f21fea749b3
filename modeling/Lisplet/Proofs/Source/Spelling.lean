import Lisplet.Expr.Printer
import Lisplet.Proofs.Source.Tokenization

/-!
# The tokens of printed expressions

`Expr.Occurs depth node expressions` says that a node, an atom or a form, stands inside `depth`
forms. A node is readable when there is source text for it: a number that is not negative, a symbol
whose name is a word, or any form.

Expressions print to a text whose tokens are known when all of their nodes are readable: every atom
is one token and every form stands in round brackets (`tokenized_textAll`). What has to be seen is
that no two tokens run together. An atom is followed by a blank, by a closing bracket or by nothing,
and a run of digits or of word characters stops at each of these.
-/

set_option autoImplicit false

namespace Lisplet

open Source Text

/-! ## The nodes of expressions -/

namespace Expr

/-- A node of some expressions and the number of forms around it. -/
inductive Occurs : Nat → Expr → List Expr → Prop where
  | here {node : Expr} {expressions : List Expr} : node ∈ expressions → Occurs 0 node expressions
  | inside {depth : Nat} {node : Expr} {elements expressions : List Expr} :
      .form elements ∈ expressions → Occurs depth node elements →
        Occurs (depth + 1) node expressions

/-- A name that source text can spell: it has characters, none of them is a blank or a bracket, and
the first is no digit. -/
def IsName (name : List Char) : Prop :=
  name ≠ [] ∧ Stops Char.isDigit name ∧ ∀ character ∈ name, isWordCharacter character = true

/-- A node for which there is source text, given that there is for the nodes inside it. -/
def IsReadable : Expr → Prop
  | .number value => 0 ≤ value
  | .bool _ => False
  | .symbol name => IsName name.toList
  | .form _ => True

/-- Every node of some expressions is readable. -/
def AllReadable (expressions : List Expr) : Prop :=
  ∀ depth node, Occurs depth node expressions → node.IsReadable

/-- Every node of some expressions stands inside fewer than `limit` forms. -/
def NestedBelow (limit : Nat) (expressions : List Expr) : Prop :=
  ∀ depth node, Occurs depth node expressions → depth < limit

theorem not_occurs_nil {depth : Nat} {node : Expr} : ¬ Occurs depth node [] := by
  intro occurs
  cases occurs with
  | here member => cases member
  | inside member _ => cases member

namespace Occurs

variable {depth : Nat} {node first : Expr} {elements rest expressions : List Expr}

theorem tail (occurs : Occurs depth node rest) : Occurs depth node (first :: rest) := by
  cases occurs with
  | here member => exact .here (List.mem_cons_of_mem first member)
  | inside member occurs => exact .inside (List.mem_cons_of_mem first member) occurs

theorem head : Occurs 0 first (first :: rest) := .here List.mem_cons_self

theorem within (occurs : Occurs depth node elements) :
    Occurs (depth + 1) node (.form elements :: rest) :=
  .inside List.mem_cons_self occurs

/-- The elements of a form stand one form deeper than the form. -/
theorem element (occurs : Occurs depth (.form elements) expressions) (member : node ∈ elements) :
    Occurs (depth + 1) node expressions := by
  generalize whole : Expr.form elements = outer at occurs
  induction occurs with
  | here found =>
      subst whole
      exact .inside found (.here member)
  | inside found _ ih => exact .inside found (ih whole)

/-- A node of some expressions is the first, or inside the first, or among the others. -/
theorem cons_cases (occurs : Occurs depth node (first :: rest)) :
    (depth = 0 ∧ node = first) ∨
      (∃ less elements, depth = less + 1 ∧ first = .form elements ∧ Occurs less node elements) ∨
        Occurs depth node rest := by
  cases occurs with
  | here member =>
      rcases List.mem_cons.mp member with same | later
      · exact .inl ⟨rfl, same⟩
      · exact .inr (.inr (.here later))
  | @inside less _ elements _ member occurs =>
      rcases List.mem_cons.mp member with same | later
      · exact .inr (.inl ⟨less, elements, rfl, same.symm, occurs⟩)
      · exact .inr (.inr (.inside later occurs))

theorem atom_cases (atom : first.elements? = none)
    (occurs : Occurs depth node (first :: rest)) :
    (depth = 0 ∧ node = first) ∨ Occurs depth node rest := by
  rcases occurs.cons_cases with here | ⟨less, elements, _, rfl, _⟩ | later
  · exact .inl here
  · cases atom
  · exact .inr later

end Occurs

namespace AllReadable

variable {first : Expr} {elements rest : List Expr}

theorem head (readable : AllReadable (first :: rest)) : first.IsReadable := readable 0 first .head

theorem tail (readable : AllReadable (first :: rest)) : AllReadable rest :=
  fun depth node occurs => readable depth node occurs.tail

theorem within (readable : AllReadable (.form elements :: rest)) : AllReadable elements :=
  fun depth node occurs => readable (depth + 1) node occurs.within

end AllReadable

namespace NestedBelow

variable {limit : Nat} {first : Expr} {elements rest : List Expr}

theorem tail (nested : NestedBelow limit (first :: rest)) : NestedBelow limit rest :=
  fun depth node occurs => nested depth node occurs.tail

theorem within (nested : NestedBelow (limit + 1) (.form elements :: rest)) :
    NestedBelow limit elements :=
  fun depth node occurs => Nat.lt_of_succ_lt_succ (nested (depth + 1) node occurs.within)

theorem exists_room (nested : NestedBelow limit (first :: rest)) : ∃ room, limit = room + 1 :=
  Nat.exists_eq_add_one.mpr (nested 0 first .head)

end NestedBelow

end Expr

/-! ## Numbers -/

theorem integerText_of_nonneg {value : Int} (nonneg : 0 ≤ value) :
    integerText value = Nat.toDigits 10 value.natAbs := by
  rw [integerText, if_neg (Int.not_lt.mpr nonneg)]

namespace Source

open Lisplet.Expr

/-! ## The words of a text are names -/

/-- A word of a text is a name; other tokens are what their kind says. -/
def Token.IsWellFormed : Token → Prop
  | .word run => IsName run
  | _ => True

theorem isWellFormed_of_bracket {character : Char} {token : Token}
    (bracket : bracketToken? character = some token) : token.IsWellFormed := by
  unfold bracketToken? at bracket
  split at bracket
  all_goals cases bracket
  all_goals trivial

theorem Tokenized.isWellFormed {text : List Char} {found : List Token}
    (tokenized : Tokenized text found) : ∀ token ∈ found, token.IsWellFormed := by
  induction tokenized with
  | done => exact fun token member => nomatch member
  | blank _ _ ih => exact ih
  | bracket bracket _ ih => exact List.forall_mem_cons.mpr ⟨isWellFormed_of_bracket bracket, ih⟩
  | digits _ _ _ _ ih => exact List.forall_mem_cons.mpr ⟨trivial, ih⟩
  | word some start word _ _ ih => exact List.forall_mem_cons.mpr ⟨⟨some, start, word⟩, ih⟩

/-! ## The tokens that are printed -/

/-- The tokens of some expressions, every form in round brackets. -/
def spelling : List Expr → List Token
  | [] => []
  | .number value :: rest => .digits (Nat.toDigits 10 value.toInt.natAbs) :: spelling rest
  | .bool value :: rest => .word (boolText value).toList :: spelling rest
  | .symbol name :: rest => .word name.toList :: spelling rest
  | .form elements :: rest =>
      .opening .round :: (spelling elements ++ .closing .round :: spelling rest)

/-- Induction on a list of expressions and on the elements of the forms in it. -/
@[elab_as_elim]
theorem forest_induction {motive : List Expr → Prop} (expressions : List Expr) (nil : motive [])
    (number : ∀ value rest, motive rest → motive (.number value :: rest))
    (bool : ∀ value rest, motive rest → motive (.bool value :: rest))
    (symbol : ∀ name rest, motive rest → motive (.symbol name :: rest))
    (form : ∀ elements rest, motive elements → motive rest → motive (.form elements :: rest)) :
    motive expressions :=
  spelling.induct motive nil number bool symbol form expressions

/-- No form is printed in square brackets. -/
theorem square_notMem_spelling (expressions : List Expr) :
    .opening .square ∉ spelling expressions := by
  induction expressions using forest_induction with
  | nil =>
      rw [spelling]
      exact List.not_mem_nil
  | number value rest ih => simp [spelling, ih]
  | bool value rest ih => simp [spelling, ih]
  | symbol name rest ih => simp [spelling, ih]
  | form elements rest inner outer => simp [spelling, inner, outer]

/-- The text behind the first of several printed expressions. -/
def textBehind : List Expr → List Char
  | [] => []
  | rest => ' ' :: textAll rest

theorem textAll_cons (first : Expr) (rest : List Expr) :
    textAll (first :: rest) = first.text ++ textBehind rest := by
  cases rest with
  | nil => rw [textAll, textBehind, List.append_nil]
  | cons second rest =>
      rw [textAll, textBehind]
      · exact nofun
      · exact nofun

theorem stops_textBehind {after : List Char} (stops : Stops isWordCharacter after)
    (rest : List Expr) : Stops isWordCharacter (textBehind rest ++ after) := by
  cases rest with
  | nil => exact stops
  | cons first rest => exact stops_cons (by decide)

theorem tokenized_textBehind {after : List Char} {rest : List Expr} {found : List Token}
    (tokenized : Tokenized (textAll rest ++ after) found) :
    Tokenized (textBehind rest ++ after) found := by
  cases rest with
  | nil => exact tokenized
  | cons first rest => exact .blank (by decide) tokenized

theorem Stops.isDigit {text : List Char} (stops : Stops isWordCharacter text) :
    Stops Char.isDigit text := by
  intro character member
  by_cases digit : character.isDigit = true
  · have word := isWordCharacter_of_isDigit digit
    rw [stops character member] at word
    cases word
  · exact Bool.eq_false_iff.mpr digit

/-- Printed expressions with text behind them where a word stops. The text behind an atom or a form
is the rest of the list, and the text behind the elements of a form is its closing bracket. -/
theorem tokenized_textAll_append {expressions : List Expr} (readable : AllReadable expressions)
    {after : List Char} {later : List Token} (tokenized : Tokenized after later)
    (stops : Stops isWordCharacter after) :
    Tokenized (textAll expressions ++ after) (spelling expressions ++ later) := by
  induction expressions using forest_induction generalizing after later with
  | nil =>
      rw [textAll, spelling]
      exact tokenized
  | number value rest ih =>
      have nonneg : 0 ≤ value.toInt := Int64.le_iff_toInt_le.mp readable.head
      rw [textAll_cons, spelling, text, integerText_of_nonneg nonneg, List.append_assoc]
      exact .digits Nat.toDigits_ne_nil
        (fun _ member => Nat.isDigit_of_mem_toDigits (by decide) (by decide) member)
        (stops_textBehind stops rest).isDigit
        (tokenized_textBehind (ih readable.tail tokenized stops))
  | bool value rest ih => exact readable.head.elim
  | symbol name rest ih =>
      obtain ⟨some, start, word⟩ := readable.head
      rw [textAll_cons, spelling, text, List.append_assoc]
      exact .word some start word (stops_textBehind stops rest)
        (tokenized_textBehind (ih readable.tail tokenized stops))
  | form elements rest inner outer =>
      have behind := tokenized_textBehind (outer readable.tail tokenized stops)
      have closed : Tokenized (')' :: (textBehind rest ++ after))
          (.closing .round :: (spelling rest ++ later)) := .bracket rfl behind
      rw [textAll_cons, spelling, text]
      simp only [List.cons_append, List.append_assoc, List.nil_append]
      exact .bracket rfl (inner readable.within closed (stops_cons (by decide)))

theorem tokenized_textAll {expressions : List Expr} (readable : AllReadable expressions) :
    Tokenized (textAll expressions) (spelling expressions) := by
  have tokenized := tokenized_textAll_append readable .done fun character member => nomatch member
  rw [List.append_nil, List.append_nil] at tokenized
  exact tokenized

end Source
end Lisplet
