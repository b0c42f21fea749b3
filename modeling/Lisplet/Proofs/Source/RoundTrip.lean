import Lisplet.Proofs.Source.Acceptance
import Lisplet.Proofs.Source.Spelling

/-!
# Printing and reading again

Expressions are read back from their printed text exactly when all of their nodes are readable and
stand inside fewer forms than the limit allows (`parseProgram_displayAll_iff`). All the nodes that
reading finds are readable, so what remains to be seen for the expressions of a program is their
depth.

There the limit does not measure the program and its printed text alike. The symbol that is put
before the elements of a group in square brackets is not in the source and is not counted, but it is
printed. So a program with an empty pair of square brackets inside as many groups as the limit
leaves room for is read, and its printed text is not; this is the only way in which it fails
(`parseProgram_displayAll_of_parsed`).
-/

set_option autoImplicit false

namespace Lisplet

open Source Text Lisplet.Expr

/-! ## The nodes of a group -/

namespace Expr
namespace Occurs

variable {bracket : Bracket} {depth : Nat} {node : Expr} {elements rest : List Expr}

theorem group (occurs : Occurs depth node elements) :
    Occurs (depth + 1) node (bracket.group elements :: rest) := by
  cases bracket with
  | round => exact occurs.within
  | square => exact occurs.tail.within

/-- Inside a group there are the nodes of its elements and the symbol that square brackets add. -/
theorem group_cases (occurs : Occurs depth node (bracket.group elements :: rest)) :
    (depth = 0 ∧ node = bracket.group elements) ∨
      (∃ less, depth = less + 1 ∧ Occurs less node elements) ∨
        (depth = 1 ∧ node = .symbol vectorHead ∧ bracket = .square) ∨ Occurs depth node rest := by
  rcases occurs.cons_cases with here | ⟨less, within, rfl, same, occurs⟩ | later
  · exact .inl here
  · cases bracket with
    | round =>
        obtain rfl := Expr.form.inj same
        exact .inr (.inl ⟨less, rfl, occurs⟩)
    | square =>
        obtain rfl := Expr.form.inj same
        rcases occurs.atom_cases rfl with ⟨rfl, symbol⟩ | occurs
        · exact .inr (.inr (.inl ⟨rfl, symbol, rfl⟩))
        · exact .inr (.inl ⟨less, rfl, occurs⟩)
  · exact .inr (.inr (.inr later))

end Occurs
end Expr

/-! ## What reading finds is readable -/

theorem isName_vectorHead : IsName vectorHead.toList := by
  have letters : vectorHead.toList = ['a', 'r', 'r', 'a', 'y', 'O', 'f'] := by decide +kernel
  rw [letters]
  exact ⟨List.cons_ne_nil _ _, stops_cons rfl, List.all_eq_true.mp rfl⟩

theorem digitsValue_toDigits (value : Nat) : digitsValue (Nat.toDigits 10 value) = value :=
  Nat.ofDigitChars_ten_toDigits

theorem number_nonneg {value : Nat} (fits : value ≤ maxNumber) : 0 ≤ Int64.ofNat value := by
  have least : value < 2 ^ 63 := Nat.lt_succ_of_le fits
  rw [Int64.le_iff_toInt_le, Int64.toInt_ofNat_of_lt least]
  exact Int.natCast_nonneg value

theorem natAbs_le_maxNumber (value : Int64) (nonneg : 0 ≤ value.toInt) :
    value.toInt.natAbs ≤ maxNumber := by
  have greatest := value.toInt_lt
  rw [maxNumber]
  omega

theorem ofNat_natAbs {value : Int64} (nonneg : 0 ≤ value.toInt) :
    Int64.ofNat value.toInt.natAbs = value := by
  rw [← Int64.ofInt_eq_ofNat, Int.natAbs_of_nonneg nonneg, Int64.ofInt_toInt]

namespace Source.Spelled

variable {room : Nat} {expressions : List Expr} {found : List Token}

theorem allReadable (spelled : Spelled room expressions found)
    (wellFormed : ∀ token ∈ found, token.IsWellFormed) : AllReadable expressions := by
  induction spelled with
  | done => exact fun depth node occurs => absurd occurs not_occurs_nil
  | digits fits _ ih =>
      obtain ⟨_, others⟩ := List.forall_mem_cons.mp wellFormed
      intro depth node occurs
      rcases occurs.atom_cases rfl with ⟨_, rfl⟩ | later
      · exact number_nonneg fits
      · exact ih others depth node later
  | word _ ih =>
      obtain ⟨name, others⟩ := List.forall_mem_cons.mp wellFormed
      intro depth node occurs
      rcases occurs.atom_cases rfl with ⟨_, rfl⟩ | later
      · rw [IsReadable, String.toList_ofList]
        exact name
      · exact ih others depth node later
  | @group room bracket elements expressions inside found _ _ inner outer =>
      obtain ⟨_, wellFormed⟩ := List.forall_mem_cons.mp wellFormed
      obtain ⟨enclosed, wellFormed⟩ := List.forall_mem_append.mp wellFormed
      obtain ⟨_, others⟩ := List.forall_mem_cons.mp wellFormed
      intro depth node occurs
      rcases occurs.group_cases with ⟨_, rfl⟩ | ⟨less, _, within⟩ | ⟨_, rfl, _⟩ | later
      · cases bracket with
        | round => trivial
        | square => trivial
      · exact inner enclosed less node within
      · exact isName_vectorHead
      · exact outer others depth node later

end Source.Spelled

/-! ## The depth of the nodes that reading finds -/

namespace Source

/-- There is room for a node at some depth, or the depth is that of the symbol of empty square
brackets with no room inside them. -/
def HasPlace (room depth : Nat) (expressions : List Expr) (found : List Token) : Prop :=
  depth < room ∨ (.opening .square ∈ found ∧ ∃ outer, depth = outer + 1 ∧ room = outer + 1 ∧
    Occurs outer (Bracket.square.group []) expressions)

section HasPlace

variable {room depth : Nat} {first : Expr} {elements expressions : List Expr}
  {found others : List Token} {bracket : Bracket}

theorem HasPlace.tail (place : HasPlace room depth expressions found) (more : found ⊆ others) :
    HasPlace room depth (first :: expressions) others := by
  rcases place with below | ⟨member, outer, here, full, empty⟩
  · exact .inl below
  · exact .inr ⟨more member, outer, here, full, empty.tail⟩

theorem HasPlace.group (place : HasPlace room depth elements found) (more : found ⊆ others) :
    HasPlace (room + 1) (depth + 1) (bracket.group elements :: expressions) others := by
  rcases place with below | ⟨member, outer, rfl, rfl, empty⟩
  · exact .inl (Nat.succ_lt_succ below)
  · exact .inr ⟨more member, outer + 1, rfl, rfl, empty.group⟩

/-- The symbol that square brackets add has a place like the elements, if there are any. -/
theorem hasPlace_vectorHead (spelled : Spelled room elements found)
    (member : .opening .square ∈ others) :
    HasPlace (room + 1) 1 (Bracket.square.group elements :: expressions) others := by
  cases room with
  | zero =>
      cases spelled with
      | done => exact .inr ⟨member, 0, rfl, rfl, .head⟩
  | succ room => exact .inl (Nat.succ_lt_succ (Nat.succ_pos room))

end HasPlace

theorem Spelled.hasPlace {room : Nat} {expressions : List Expr} {found : List Token}
    (spelled : Spelled room expressions found) {depth : Nat} {node : Expr}
    (occurs : Occurs depth node expressions) : HasPlace room depth expressions found := by
  induction spelled generalizing depth with
  | done => exact absurd occurs not_occurs_nil
  | digits fits _ ih =>
      rcases occurs.atom_cases rfl with ⟨rfl, _⟩ | later
      · exact .inl (Nat.succ_pos _)
      · exact (ih later).tail (List.subset_cons_self _ _)
  | word _ ih =>
      rcases occurs.atom_cases rfl with ⟨rfl, _⟩ | later
      · exact .inl (Nat.succ_pos _)
      · exact (ih later).tail (List.subset_cons_self _ _)
  | @group room bracket elements expressions inside found spelled _ inner outer =>
      rcases occurs.group_cases with ⟨rfl, _⟩ | ⟨less, rfl, within⟩ | ⟨rfl, _, rfl⟩ | later
      · exact .inl (Nat.succ_pos _)
      · refine (inner within).group fun token member => ?_
        exact List.mem_cons_of_mem _ (List.mem_append_left _ member)
      · exact hasPlace_vectorHead spelled List.mem_cons_self
      · refine (outer later).tail fun token member => ?_
        exact List.mem_cons_of_mem _ (List.mem_append_right _ (List.mem_cons_of_mem _ member))

/-! ## Printed expressions and the limit -/

theorem spelled_spelling {expressions : List Expr} (readable : AllReadable expressions)
    {room : Nat} (nested : NestedBelow room expressions) :
    Spelled room expressions (spelling expressions) := by
  induction expressions using forest_induction generalizing room with
  | nil =>
      rw [spelling]
      exact .done
  | number value rest ih =>
      obtain ⟨room, rfl⟩ := nested.exists_room
      have nonneg : 0 ≤ value.toInt := Int64.le_iff_toInt_le.mp readable.head
      have later := ih readable.tail nested.tail
      have fits := natAbs_le_maxNumber value nonneg
      rw [← digitsValue_toDigits value.toInt.natAbs] at fits
      have spelled := Spelled.digits fits later
      rw [digitsValue_toDigits, ofNat_natAbs nonneg] at spelled
      rw [spelling]
      exact spelled
  | bool value rest ih => exact readable.head.elim
  | symbol name rest ih =>
      obtain ⟨room, rfl⟩ := nested.exists_room
      have spelled : Spelled (room + 1) (.symbol (String.ofList name.toList) :: rest) _ :=
        .word (ih readable.tail nested.tail)
      rw [String.ofList_toList] at spelled
      rw [spelling]
      exact spelled
  | form elements rest inner outer =>
      obtain ⟨room, rfl⟩ := nested.exists_room
      have spelled : Spelled (room + 1) (Bracket.round.group elements :: rest) _ :=
        .group (inner readable.within nested.within) (outer readable.tail nested.tail)
      rw [spelling]
      exact spelled

/-- The printed text of readable expressions is read as them when none of their nodes is too
deep. -/
theorem spelled_tokens_textAll_iff {expressions : List Expr} (readable : AllReadable expressions)
    {room : Nat} :
    Spelled room expressions (tokens (textAll expressions)) ↔ NestedBelow room expressions := by
  rw [(tokenized_textAll readable).tokens_eq]
  constructor
  · intro spelled depth node occurs
    rcases spelled.hasPlace occurs with below | ⟨square, _⟩
    · exact below
    · exact absurd square (square_notMem_spelling expressions)
  · exact spelled_spelling readable

end Source

/-- Expressions that are read from a text are all readable. -/
theorem allReadable_of_parsed {limit : Nat} {text : String} {expressions : List Expr}
    (accepted : parseProgram limit text = .ok expressions) : AllReadable expressions :=
  (parseProgram_eq_ok_iff.mp accepted).allReadable
    (tokenized_iff.mpr rfl : Tokenized text.toList _).isWellFormed

theorem parseProgram_displayAll_eq_ok_iff {limit : Nat} {expressions others : List Expr} :
    parseProgram limit (displayAll expressions) = .ok others ↔
      Spelled limit others (tokens (textAll expressions)) := by
  rw [parseProgram_eq_ok_iff, displayAll, String.toList_ofList]

/-- **Printed expressions are read as the same expressions exactly when their nodes are readable and
not too deep.** -/
theorem parseProgram_displayAll_iff (limit : Nat) (expressions : List Expr) :
    parseProgram limit (displayAll expressions) = .ok expressions ↔
      AllReadable expressions ∧ NestedBelow limit expressions := by
  constructor
  · intro accepted
    have readable := allReadable_of_parsed accepted
    rw [parseProgram_displayAll_eq_ok_iff, spelled_tokens_textAll_iff readable] at accepted
    exact ⟨readable, accepted⟩
  · rintro ⟨readable, nested⟩
    rw [parseProgram_displayAll_eq_ok_iff, spelled_tokens_textAll_iff readable]
    exact nested

/-- **The printed text of a program is read as the same program exactly when there is room for a
symbol inside each of its empty square brackets.** Whatever it is read as is that program, and with
a limit greater by one it is read. -/
theorem parseProgram_displayAll_of_parsed {limit : Nat} {text : String} {expressions : List Expr}
    (accepted : parseProgram limit text = .ok expressions) :
    (parseProgram limit (displayAll expressions) = .ok expressions ↔
        ∀ depth, Occurs depth (Bracket.square.group []) expressions → depth + 1 < limit) ∧
      (∀ again, parseProgram limit (displayAll expressions) = .ok again → again = expressions) ∧
      parseProgram (limit + 1) (displayAll expressions) = .ok expressions := by
  have readable := allReadable_of_parsed accepted
  have spelled := parseProgram_eq_ok_iff.mp accepted
  have above : Spelled (limit + 1) expressions (tokens (textAll expressions)) := by
    refine (spelled_tokens_textAll_iff readable).mpr fun depth node occurs => ?_
    rcases spelled.hasPlace occurs with below | ⟨_, outer, rfl, rfl, _⟩
    · exact Nat.lt_succ_of_lt below
    · exact Nat.lt_succ_self _
  refine ⟨?_, ?_, parseProgram_displayAll_eq_ok_iff.mpr above⟩
  · rw [parseProgram_displayAll_eq_ok_iff, spelled_tokens_textAll_iff readable]
    constructor
    · intro nested depth occurs
      exact nested (depth + 1) _ (occurs.element List.mem_cons_self)
    · intro room depth node occurs
      rcases spelled.hasPlace occurs with below | ⟨_, outer, rfl, rfl, empty⟩
      · exact below
      · exact absurd (room outer empty) (Nat.lt_irrefl _)
  · intro again read
    exact (parseProgram_displayAll_eq_ok_iff.mp read).unique above

/-- There is room for one symbol inside these square brackets. -/
theorem parseProgram_displayAll_of_parsed_square :
    parseProgram 2 "[]" = .ok [Bracket.square.group []] ∧
      parseProgram 2 (displayAll [Bracket.square.group []]) = .ok [Bracket.square.group []] := by
  have text : "[]".toList = ['[', ']'] := by decide +kernel
  have tokenized : Tokenized "[]".toList [.opening .square, .closing .square] := by
    rw [text]
    exact .bracket rfl (.bracket rfl .done)
  have accepted : parseProgram 2 "[]" = .ok [Bracket.square.group []] := by
    rw [parseProgram_eq_ok_iff, tokenized.tokens_eq]
    exact .group .done .done
  refine ⟨accepted, (parseProgram_displayAll_of_parsed accepted).1.mpr fun depth occurs => ?_⟩
  rcases occurs.group_cases with ⟨rfl, _⟩ | ⟨less, _, within⟩ | ⟨_, same, _⟩ | later
  · decide
  · exact absurd within not_occurs_nil
  · cases same
  · exact absurd later not_occurs_nil

/-! ## Programs whose printed text is not read -/

/-- Square brackets inside one another, the innermost of them empty. -/
def nestedSquares : Nat → List Expr
  | 0 => []
  | count + 1 => [Bracket.square.group (nestedSquares count)]

/-- The source text of `nestedSquares`. -/
def squaresText (count : Nat) : List Char := List.replicate count '[' ++ List.replicate count ']'

theorem tokenized_replicate {character : Char} {token : Token} {rest : List Char}
    {found : List Token} (bracket : bracketToken? character = some token)
    (tokenized : Tokenized rest found) (count : Nat) :
    Tokenized (List.replicate count character ++ rest) (List.replicate count token ++ found) := by
  induction count with
  | zero => exact tokenized
  | succ count ih => exact .bracket bracket ih

theorem spelled_nestedSquares (count : Nat) :
    Spelled count (nestedSquares count)
      (List.replicate count (.opening .square) ++ List.replicate count (.closing .square)) := by
  induction count with
  | zero => exact .done
  | succ count ih =>
      have group : Spelled (count + 1) (nestedSquares (count + 1)) _ := .group ih .done
      rw [List.append_assoc, ← List.replicate_succ'] at group
      exact group

theorem occurs_nestedSquares (count : Nat) :
    Occurs count (Bracket.square.group []) (nestedSquares (count + 1)) := by
  induction count with
  | zero => exact .head
  | succ count ih => exact ih.group

theorem parseProgram_squaresText (count : Nat) :
    parseProgram count (String.ofList (squaresText count)) = .ok (nestedSquares count) := by
  have closing := tokenized_replicate (rfl : bracketToken? ']' = some _) .done count
  have tokenized := tokenized_replicate (rfl : bracketToken? '[' = some _) closing count
  rw [List.append_nil, List.append_nil] at tokenized
  rw [parseProgram_eq_ok_iff, String.toList_ofList, squaresText, tokenized.tokens_eq]
  exact spelled_nestedSquares count

/-- As many square brackets as the limit allows are read, but not printed within it. -/
theorem parseProgram_displayAll_nestedSquares (count : Nat) :
    parseProgram (count + 1) (displayAll (nestedSquares (count + 1))) ≠
      .ok (nestedSquares (count + 1)) := by
  intro accepted
  have readable := allReadable_of_parsed accepted
  rw [parseProgram_displayAll_eq_ok_iff, spelled_tokens_textAll_iff readable] at accepted
  exact absurd (accepted (count + 1) _ ((occurs_nestedSquares count).element List.mem_cons_self))
    (Nat.lt_irrefl _)

/-- Printing and reading again fails under the limit that is used when a caller sets none. -/
theorem parseProgram_displayAll_at_defaultReadLimit :
    parseProgram defaultReadLimit (String.ofList (squaresText 256)) = .ok (nestedSquares 256) ∧
      parseProgram defaultReadLimit (displayAll (nestedSquares 256)) ≠ .ok (nestedSquares 256) :=
  ⟨parseProgram_squaresText 256, parseProgram_displayAll_nestedSquares 255⟩

end Lisplet
