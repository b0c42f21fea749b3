import Lisplet.Proofs.Source.Diagnosis
import Mathlib.Order.Bounds.Defs

/-!
# The window around the place of an error

The snippet of an error shows a window of the text. In front of the place of the error the window is
measured in bytes, and it opens where a character starts: at the last such position that is at least
twenty bytes before the place, which a search finds that goes back one byte at a time
(`searchBack?_eq`). Its width is measured in characters. As a character has a byte at least, no more
than twenty characters stand in the window before the place, so the character there is in it
(`window_covers`).

Positions are those of the UTF-8 form of a text that no character has bytes on both sides of,
`String.Pos`. An error at any of them shows its window (`error_showsPlace`), and the error for a
text that is not read is at one of them, before the end of the text.
-/

set_option autoImplicit false

namespace Lisplet.Source

/-! ## Bytes -/

theorem byteLength_append (front back : List Char) :
    byteLength (front ++ back) = byteLength front + byteLength back := by
  induction front with
  | nil => rw [List.nil_append, byteLength, Nat.zero_add]
  | cons first front ih => rw [List.cons_append, byteLength, byteLength, ih, Nat.add_assoc]

theorem byteLength_reverse (text : List Char) : byteLength text.reverse = byteLength text := by
  induction text with
  | nil => rfl
  | cons first text ih =>
      rw [List.reverse_cons, byteLength_append, ih, byteLength, byteLength, byteLength]
      omega

theorem byteLength_toList (text : String) : byteLength text.toList = text.utf8ByteSize := by
  obtain ⟨characters, rfl⟩ := text.exists_eq_ofList
  rw [String.toList_ofList]
  induction characters with
  | nil => rfl
  | cons first characters ih =>
      rw [byteLength, ih, String.ofList_cons, String.utf8ByteSize_append,
        String.utf8ByteSize_singleton]

/-- Of two pieces at the front of a text, the one with fewer bytes is at the front of the other. -/
theorem exists_append_of_byteLength_le {front back before after : List Char}
    (same : front ++ back = before ++ after) (shorter : byteLength front ≤ byteLength before) :
    ∃ middle, before = front ++ middle := by
  rcases List.append_eq_append_iff.mp same with ⟨middle, split, _⟩ | ⟨extra, split, _⟩
  · exact ⟨middle, split⟩
  · cases extra with
    | nil => exact ⟨[], by rw [split, List.append_nil, List.append_nil]⟩
    | cons first extra =>
        have size := Char.utf8Size_pos first
        rw [split, byteLength_append, byteLength] at shorter
        omega

/-- The piece that is cut off has the bytes that are asked for, if the text has. -/
theorem splitAtByte_reaches (count : Nat) (text : List Char) :
    count ≤ byteLength (splitAtByte count text).1 ∨ (splitAtByte count text).2 = [] := by
  fun_induction splitAtByte count text with
  | case1 => exact .inl (Nat.zero_le _)
  | case2 => exact .inr rfl
  | case3 count character rest before after equation ih =>
      rw [equation] at ih
      refine ih.imp (fun enough => ?_) id
      rw [byteLength]
      exact Nat.sub_le_iff_le_add'.mp enough

/-- It is the shortest piece that has them. -/
theorem splitAtByte_shortest {count : Nat} {front : List Char} (back : List Char)
    (enough : count ≤ byteLength front) :
    byteLength (splitAtByte count (front ++ back)).1 ≤ byteLength front := by
  induction front generalizing count with
  | nil =>
      obtain rfl : count = 0 := Nat.le_zero.mp enough
      simp [splitAtByte]
  | cons first front ih =>
      cases count with
      | zero => simp [splitAtByte, byteLength]
      | succ count =>
          rw [byteLength] at enough
          have less : count + 1 - first.utf8Size ≤ byteLength front := by omega
          rw [List.cons_append, splitAtByte]
          exact Nat.add_le_add_left (ih less) first.utf8Size

/-- No character is shorter than a byte. -/
theorem length_splitAtByte_le (count : Nat) (text : List Char) :
    (splitAtByte count text).1.length ≤ count := by
  fun_induction splitAtByte count text with
  | case1 => exact Nat.le_refl _
  | case2 => exact Nat.zero_le _
  | case3 count character rest before after equation ih =>
      rw [equation] at ih
      have shorter : before.length ≤ count + 1 - character.utf8Size := ih
      have size := Char.utf8Size_pos character
      rw [List.length_cons]
      omega

/-! ## Positions of a text -/

/-- Looks for a position of a text from a byte offset on, going back one byte at a time. There is
none if the search gets past the start of the text. -/
def searchBack? (text : String) : Nat → Option text.Pos
  | 0 => text.pos? 0
  | offset + 1 => (text.pos? ⟨offset + 1⟩).or (searchBack? text offset)

theorem pos?_of_isValid {text : String} {offset : String.Pos.Raw} (valid : offset.IsValid text) :
    text.pos? offset = some (text.pos offset valid) := by
  simp [String.pos?, String.pos, String.Slice.pos?, valid]

theorem pos?_of_not_isValid {text : String} {offset : String.Pos.Raw}
    (inside : ¬ offset.IsValid text) : text.pos? offset = none := by
  simp [String.pos?, String.Slice.pos?, inside]

theorem isGreatest_posLE (text : String) (offset : Nat) :
    IsGreatest {position : text.Pos | position.offset.byteIdx ≤ offset} (text.posLE ⟨offset⟩) :=
  String.posLE_eq_iff.mp rfl

/-- The search ends, at the last position that is not behind its start. -/
theorem searchBack?_eq (text : String) (offset : Nat) :
    searchBack? text offset = some (text.posLE ⟨offset⟩) := by
  induction offset with
  | zero =>
      have valid : (0 : String.Pos.Raw).IsValid text := String.Pos.Raw.isValid_zero
      rw [searchBack?, pos?_of_isValid valid]
      exact congrArg some (String.posLE_eq_pos valid).symm
  | succ offset ih =>
      rw [searchBack?]
      by_cases valid : (⟨offset + 1⟩ : String.Pos.Raw).IsValid text
      · rw [pos?_of_isValid valid, String.posLE_eq_pos valid]
        rfl
      · -- Inside a character the search goes on, and misses no position.
        rw [pos?_of_not_isValid valid, ih, Option.none_or]
        obtain ⟨found, last⟩ := isGreatest_posLE text offset
        have next : text.posLE ⟨offset + 1⟩ = text.posLE ⟨offset⟩ := by
          refine String.posLE_eq_iff.mpr ⟨Nat.le_succ_of_le found, fun position before => last ?_⟩
          have different : position.offset.byteIdx ≠ offset + 1 := fun same =>
            valid (String.Pos.Raw.ext same ▸ position.isValid)
          have atMost : position.offset.byteIdx ≤ offset + 1 := before
          exact Nat.le_of_lt_succ (Nat.lt_of_le_of_ne atMost different)
        rw [next]

/-- A place stands at the position that cuts a text in the same two pieces. -/
def Place.At (place : Place) {text : String} (position : text.Pos) : Prop :=
  position.Splits (String.ofList place.before) (String.ofList place.after)

namespace Place.At

theorem exists_place {text : String} (position : text.Pos) :
    ∃ place : Place, place.At position := by
  refine ⟨⟨(text.sliceTo position).copy.toList, (text.sliceFrom position).copy.toList⟩, ?_⟩
  rw [Place.At, String.ofList_toList, String.ofList_toList]
  exact position.splits

/-- Where a text is cut in two, it has a position. -/
theorem exists_position {text : String} (place : Place)
    (whole : text.toList = place.before ++ place.after) :
    ∃ position : text.Pos, place.At position := by
  have pieces : text = String.ofList place.before ++ String.ofList place.after := by
    rw [← String.ofList_append, ← whole, String.ofList_toList]
  have valid : (String.ofList place.before).rawEndPos.IsValid text :=
    String.Pos.Raw.isValid_iff_exists_append.mpr ⟨_, _, pieces, rfl⟩
  exact ⟨text.pos _ valid, pieces, rfl⟩

variable {place : Place} {text : String} {position : text.Pos} (stands : place.At position)
include stands

theorem toList_eq : text.toList = place.before ++ place.after := by
  have pieces := congrArg String.toList stands.eq_append
  rwa [String.toList_append, String.toList_ofList, String.toList_ofList] at pieces

theorem byteIdx_eq : position.offset.byteIdx = place.offset := by
  rw [stands.offset_eq_rawEndPos, String.byteIdx_rawEndPos, ← byteLength_toList,
    String.toList_ofList, Place.offset]

/-- The place is found at the byte offset of the position. -/
theorem atByte_eq : Place.atByte text.toList position.offset.byteIdx = place := by
  rw [stands.toList_eq, stands.byteIdx_eq, atByte_offset]

/-- What follows starts with the character at the position. -/
theorem exists_after_eq (inside : position ≠ text.endPos) :
    ∃ rest, place.after = position.get inside :: rest := by
  obtain ⟨rest, goesOn⟩ := stands.exists_eq_singleton_append inside
  have characters := congrArg String.toList goesOn
  rw [String.toList_ofList, String.toList_append, String.toList_singleton] at characters
  exact ⟨rest.toList, characters⟩

theorem after_eq_nil_iff : place.after = [] ↔ position = text.endPos := by
  rw [stands.eq_endPos_iff, String.ofList_eq_empty_iff]

theorem found?_eq : place.found? = position.get?.map String.singleton := by
  by_cases ends : position = text.endPos
  · rw [String.Pos.get?_eq_none ends, Place.found?, stands.after_eq_nil_iff.mpr ends]
    rfl
  · obtain ⟨rest, goesOn⟩ := stands.exists_after_eq ends
    rw [String.Pos.get?_eq_some_get ends, Place.found?, goesOn]
    rfl

end Place.At

/-! ## Windows -/

/-- A text in three pieces, of which the middle one is shown. -/
structure Window where
  skipped : String
  shown : String
  remaining : String

namespace Window

/-- A window written on one line: with a mark on each side on which text is left out, with a
backslash and an `n` for each line feed, and without carriage returns. -/
def display (window : Window) : String :=
  let line := (window.shown.toList.flatMap fun character =>
    if character = '\n' then ['\\', 'n'] else [character]).filter (· ≠ '\r')
  (if window.skipped = "" then "" else "[...]") ++ String.ofList line ++
    (if window.remaining = "" then "" else "[...]")

/-- What the window around a position of a text is. -/
structure Around (window : Window) {text : String} (position : text.Pos) : Prop where
  /-- It opens at the last position that is at least twenty bytes before the given one, or else at
  the start of the text; a search that goes back one byte at a time finds it. -/
  opens : ∃ start, searchBack? text (position.offset.byteIdx - 20) = some start ∧
    IsGreatest {earlier : text.Pos | earlier.offset.byteIdx ≤ position.offset.byteIdx - 20} start ∧
    start.Splits window.skipped (window.shown ++ window.remaining)
  /-- It is at most a hundred characters wide, -/
  width : window.shown.length ≤ 100
  /-- and narrower only when it goes on to the end of the text. -/
  full : window.remaining ≠ "" → window.shown.length = 100
  /-- The character at the position, if there is one, stands in it. -/
  covers : ∀ inside : position ≠ text.endPos, ∃ front back,
    window.shown = front ++ String.singleton (position.get inside) ++ back ∧
      position.offset = (window.skipped ++ front).rawEndPos

end Window

namespace Place

/-- The window that the snippet of a place shows. -/
def window (place : Place) : Window where
  skipped := String.ofList place.lead.1
  shown := String.ofList (place.view.take width)
  remaining := String.ofList (place.view.drop width)

theorem lead_append (place : Place) : place.lead.1 ++ place.lead.2 = place.before := by
  have whole := congrArg List.reverse (splitAtByte_append reach place.before.reverse)
  rwa [List.reverse_append, List.reverse_reverse] at whole

theorem length_lead_le (place : Place) : place.lead.2.length ≤ reach := by
  rw [lead, List.length_reverse]
  exact length_splitAtByte_le reach place.before.reverse

/-- The window opens at least twenty bytes before the place, or where the text starts. -/
theorem lead_reaches (place : Place) :
    byteLength place.lead.1 ≤ byteLength place.before - reach := by
  have whole := congrArg byteLength place.lead_append
  rw [byteLength_append] at whole
  have reaches := splitAtByte_reaches reach place.before.reverse
  rw [← byteLength_reverse] at reaches
  rcases reaches with enough | none
  · have behind : reach ≤ byteLength place.lead.2 := enough
    omega
  · have start : place.lead.1 = [] := congrArg List.reverse none
    rw [start]
    exact Nat.zero_le _

/-- It opens no earlier than need be. -/
theorem le_lead {place : Place} {front back : List Char} (split : place.before = front ++ back)
    (far : byteLength front ≤ byteLength place.before - reach) :
    byteLength front ≤ byteLength place.lead.1 := by
  have whole := congrArg byteLength place.lead_append
  have pieces := congrArg byteLength split
  rw [byteLength_append] at whole pieces
  by_cases enough : reach ≤ byteLength back
  · have shortest : byteLength place.lead.2 ≤ byteLength back := by
      rw [lead, byteLength_reverse, split, List.reverse_append, ← byteLength_reverse back]
      exact splitAtByte_shortest _ (byteLength_reverse back ▸ enough)
    omega
  · omega

/-- The window reaches to the place and the character there. -/
theorem exists_take_view {place : Place} {first : Char} {rest : List Char}
    (goesOn : place.after = first :: rest) :
    ∃ back, place.view.take width = place.lead.2 ++ first :: back := by
  have near : place.lead.2.length ≤ reach := place.length_lead_le
  have wide : reach < width := by decide
  obtain ⟨more, room⟩ : ∃ more, width - place.lead.2.length = more + 1 :=
    Nat.exists_eq_add_one.mpr (by omega)
  refine ⟨rest.take more, ?_⟩
  rw [view, goesOn, List.take_append, List.take_of_length_le (by omega), room, List.take_succ_cons]

theorem filter_breaks (characters : List Char) :
    (characters.flatMap fun character =>
      if character = '\n' then ['\\', 'n'] else [character]).filter
        (· ≠ '\r') = characters.flatMap flatten := by
  rw [List.filter_flatMap]
  congr 1
  funext character
  fun_cases flatten character with
  | case1 => rfl
  | case2 => rfl
  | case3 _ noFeed noReturn =>
      have kept : character ≠ '\r' := noReturn
      rw [if_neg noFeed]
      exact List.filter_cons_of_pos (decide_eq_true kept)

theorem mark_eq (leftOut : List Char) :
    (if String.ofList leftOut = "" then "" else "[...]") =
      String.ofList (if leftOut.isEmpty then [] else ellipsis) := by
  cases leftOut with
  | nil => rfl
  | cons first rest => simp [ellipsis]

theorem snippet_eq (place : Place) : place.snippet = place.window.display := by
  have shown : place.window.shown.toList = place.view.take width := String.toList_ofList
  simp only [snippet, Window.display, shown, filter_breaks, String.ofList_append, ← mark_eq]
  rfl

end Place

section At

variable {place : Place} {text : String} {position : text.Pos} (stands : place.At position)
include stands

/-- The window opens at the last position that is at least twenty bytes before the place. -/
theorem lead_stands :
    (Place.mk place.lead.1 place.view).At (text.posLE ⟨position.offset.byteIdx - 20⟩) := by
  have whole : text.toList = place.lead.1 ++ place.view := by
    rw [stands.toList_eq, Place.view, ← List.append_assoc, Place.lead_append]
  obtain ⟨start, opens⟩ := Place.At.exists_position ⟨place.lead.1, place.view⟩ whole
  have last : text.posLE ⟨position.offset.byteIdx - 20⟩ = start := by
    refine String.posLE_eq_iff.mpr ⟨?_, fun earlier far => ?_⟩
    · rw [String.Pos.Raw.le_iff, opens.byteIdx_eq, stands.byteIdx_eq]
      exact place.lead_reaches
    · -- Any other position that is far enough back cuts off a front of the text before the place.
      obtain ⟨piece, cuts⟩ := Place.At.exists_place earlier
      have atMost : piece.offset ≤ place.offset - Place.reach := by
        rw [← cuts.byteIdx_eq, ← stands.byteIdx_eq]
        exact far
      obtain ⟨middle, split⟩ := exists_append_of_byteLength_le
        (cuts.toList_eq.symm.trans stands.toList_eq) (Nat.le_trans atMost (Nat.sub_le _ _))
      rw [String.Pos.le_iff, String.Pos.Raw.le_iff, opens.byteIdx_eq, cuts.byteIdx_eq]
      exact Place.le_lead split atMost
  exact last ▸ opens

theorem window_covers (inside : position ≠ text.endPos) :
    ∃ front back,
      place.window.shown = front ++ String.singleton (position.get inside) ++ back ∧
        position.offset = (place.window.skipped ++ front).rawEndPos := by
  obtain ⟨rest, goesOn⟩ := stands.exists_after_eq inside
  obtain ⟨back, shown⟩ := Place.exists_take_view goesOn
  refine ⟨String.ofList place.lead.2, String.ofList back, ?_, ?_⟩
  · rw [Place.window, shown, String.ofList_append, String.ofList_cons, String.append_assoc]
  · rw [Place.window, ← String.ofList_append, Place.lead_append]
    exact stands.offset_eq_rawEndPos

/-- **The window of a place is the one around its position.** -/
theorem window_around : place.window.Around position where
  opens := by
    refine ⟨_, searchBack?_eq text _, isGreatest_posLE text _, ?_⟩
    rw [Place.window, ← String.ofList_append, List.take_append_drop]
    exact lead_stands stands
  width := by
    rw [Place.window, String.length_ofList]
    exact List.length_take_le _ _
  full := fun more => by
    rw [Place.window, ne_eq, String.ofList_eq_empty_iff, List.drop_eq_nil_iff, Nat.not_le] at more
    rw [Place.window, String.length_ofList]
    exact List.length_take_of_le (Nat.le_of_lt more)
  covers := window_covers stands

end At

/-! ## Errors at a position -/

/-- A lexeme stands at a position of its text, before the end. -/
theorem exists_position_of_mem {text : String} {lexeme : Lexeme}
    (member : lexeme ∈ lexemes text.toList) :
    ∃ position : text.Pos, position ≠ text.endPos ∧
      (Place.ofEnd text.toList lexeme.start).At position := by
  obtain ⟨_, _, found⟩ := List.append_of_mem member
  obtain ⟨before, first, others, whole, _, rfl, _⟩ := exists_text_before found
  rw [readLexeme_start] at whole ⊢
  obtain ⟨position, stands⟩ := Place.At.exists_position ⟨before, first :: others⟩ whole
  rw [whole, ofEnd_append]
  exact ⟨position,
    fun ends => List.cons_ne_nil first others (stands.after_eq_nil_iff.mpr ends), stands⟩

end Lisplet.Source

namespace Lisplet

open Source

/-- **An error shows the window around its position and the character there**, whatever the position
is; and the error for a text that is no program is at a position before the end of the text. -/
theorem error_showsPlace :
    (∀ (text : String) (position : text.Pos) (kind : ParseErrorKind) (wording : String),
      ∃ window : Window, window.Around position ∧
        ParseError.atPlace kind wording (.atByte text.toList position.offset.byteIdx) =
          ⟨kind, wording, some window.display, position.get?.map String.singleton⟩) ∧
    ∀ (limit : Nat) (text : String) (error : Error), parseProgram limit text = .error error →
      let located := diagnose limit (readAll limit (lexemes text.toList)).2
      ∃ position : text.Pos, position ≠ text.endPos ∧
        position.offset.byteIdx = (Place.ofEnd text.toList located.start).offset ∧
        error = .parse (.atPlace located.defect.kind located.defect.text
          (.atByte text.toList position.offset.byteIdx)) := by
  refine ⟨fun text position kind wording => ?_, fun limit text error rejected => ?_⟩
  · obtain ⟨place, stands⟩ := Place.At.exists_place position
    refine ⟨place.window, window_around stands, ?_⟩
    rw [stands.atByte_eq, ParseError.atPlace, Place.snippet_eq, stands.found?_eq]
  · rw [parseProgram] at rejected
    cases result : program limit text.toList with
    | ok expressions =>
        rw [result] at rejected
        cases rejected
    | error parseError =>
        rw [result] at rejected
        obtain rfl : Error.parse parseError = error := Except.error.inj rejected
        obtain ⟨left, rfl⟩ := program_eq_error_iff.mp result
        obtain ⟨located, rfl, ⟨lexeme, member, start⟩, _⟩ := exists_leads_of_readAll left
        obtain ⟨position, inside, stands⟩ := exists_position_of_mem member
        rw [← start] at stands
        refine ⟨position, inside, stands.byteIdx_eq, ?_⟩
        rw [stands.atByte_eq]
        rfl

/-- Twenty bytes before the place is inside a letter: the window opens in front of that letter. -/
theorem error_showsPlace_multibyte :
    parseProgram 1 "aéééééééééé\n\n(é)" = .error (.parse
        ⟨.tooDeeplyNested, "expression too deeply nested (max depth: 1)",
          some "[...]ééééééééé\\n\\n(é)", some "é"⟩) ∧
      ∃ position : String.Pos "aéééééééééé\n\n(é)", ∃ window : Window, window.Around position ∧
        window.display = "[...]ééééééééé\\n\\n(é)" ∧
          position.get?.map String.singleton = some "é" := by
  have rejected : parseProgram 1 "aéééééééééé\n\n(é)" = .error (.parse
      ⟨.tooDeeplyNested, "expression too deeply nested (max depth: 1)",
        some "[...]ééééééééé\\n\\n(é)", some "é"⟩) := by
    decide +kernel
  obtain ⟨position, _, _, located⟩ := error_showsPlace.2 _ _ _ rejected
  obtain ⟨window, around, shown⟩ := error_showsPlace.1 _ position _ _
  rw [shown] at located
  have same := Error.parse.inj located
  exact ⟨rejected, position, window, around, Option.some.inj (ParseError.mk.inj same).2.2.1.symm,
    (ParseError.mk.inj same).2.2.2.symm⟩

end Lisplet
