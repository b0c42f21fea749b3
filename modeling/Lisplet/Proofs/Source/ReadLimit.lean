import Lisplet.Proofs.Source.Remainder

/-!
# Reading under another limit

The limit on the depth of expressions decides only how far a text is read. Under a greater limit the
same expressions are read, and perhaps more of them behind the others; and a text that is rejected
for anything but a token that is too deep is rejected in the same words under every greater limit
(`parse_limit`).

Two things have to be seen for that. The search for a defect asks for the limit only where it finds
a token too deep (`findDefect?_limit`). And reading stops at the same place under both limits when
something else is found there, since no expression is spelled through a token that does not fit
(`Stuck.of_defect`).
-/

set_option autoImplicit false

namespace Lisplet.Source

variable {limit greater : Nat}

theorem Spelled.mono {room more : Nat} {expressions : List Expr} {found : List Token}
    (spelled : Spelled room expressions found) (le : room ≤ more) :
    Spelled more expressions found := by
  induction spelled generalizing more with
  | done => exact .done
  | digits fits _ ih =>
      obtain ⟨more, rfl⟩ := Nat.exists_eq_add_one.mpr (Nat.lt_of_lt_of_le (Nat.succ_pos _) le)
      exact .digits fits (ih le)
  | word _ ih =>
      obtain ⟨more, rfl⟩ := Nat.exists_eq_add_one.mpr (Nat.lt_of_lt_of_le (Nat.succ_pos _) le)
      exact .word (ih le)
  | group _ _ inner outer =>
      obtain ⟨more, rfl⟩ := Nat.exists_eq_add_one.mpr (Nat.lt_of_lt_of_le (Nat.succ_pos _) le)
      exact .group (inner (Nat.le_of_succ_le_succ le)) (outer le)

/-! ## The search for a defect -/

/-- What a search finds under one limit beside what it finds under a greater one: the same, unless
it is a token too deep. -/
def SameUnlessDeep (limit : Nat) (found other : Option Located) : Prop :=
  found = other ∨ ∃ start, found = some ⟨.tooDeep limit, start⟩

theorem SameUnlessDeep.behind {found other : Option Located}
    (same : SameUnlessDeep limit found other) (complete : Bool) :
    SameUnlessDeep limit (if complete then none else found) (if complete then none else other) := by
  cases complete with
  | true => exact .inl rfl
  | false => exact same

/-- The search asks for the limit only where a token is too deep. The induction is on the tokens. -/
theorem findDefect?_limit (le : limit ≤ greater) (brackets : List OpenBracket)
    (input : List Lexeme) :
    SameUnlessDeep limit (findDefect? limit brackets input)
      (findDefect? greater brackets input) := by
  induction input generalizing brackets with
  | nil => cases brackets <;> exact .inl rfl
  | cons lexeme rest ih =>
      by_cases tooDeep : lexeme.token.isClosing = false ∧ limit ≤ brackets.length
      · exact .inr ⟨lexeme.start, findDefect?_tooDeep rest tooDeep.1 tooDeep.2⟩
      have below (opens : lexeme.token.isClosing = false) : ¬ limit ≤ brackets.length :=
        fun deep => tooDeep ⟨opens, deep⟩
      have belowGreater (opens : lexeme.token.isClosing = false) : ¬ greater ≤ brackets.length :=
        fun deep => below opens (Nat.le_trans le deep)
      obtain ⟨token, start⟩ := lexeme
      cases token with
      | closing closer =>
          cases brackets with
          | nil => exact .inl rfl
          | cons innermost outer =>
              simp only [findDefect?]
              split
              · exact (ih outer).behind outer.isEmpty
              · exact .inl rfl
      | opening bracket =>
          simp only [findDefect?, below rfl, belowGreater rfl, if_false]
          exact ih (⟨bracket, start⟩ :: brackets)
      | digits run =>
          simp only [findDefect?, below rfl, belowGreater rfl, if_false]
          split
          · exact .inl rfl
          · exact (ih brackets).behind brackets.isEmpty
      | word run =>
          simp only [findDefect?, below rfl, belowGreater rfl, if_false]
          exact (ih brackets).behind brackets.isEmpty

/-- A token that does not fit, and is not too deep, does not fit under another limit. -/
theorem Misfit.of_ne_tooDeep {opened : List Bracket} {token : Token} {defect : Defect}
    (misfit : Misfit limit opened token defect) (other : defect ≠ .tooDeep limit) :
    Misfit greater opened token defect := by
  cases misfit with
  | unexpected => exact .unexpected
  | mismatched different => exact .mismatched different
  | tooDeep _ _ => exact absurd rfl other
  | tooGreat great => exact .tooGreat great

/-- Where a defect is found that is no token too deep, no expression is spelled under a greater
limit. -/
theorem Stuck.of_defect {input : List Lexeme} {located : Located} (stuck : Stuck limit input)
    (found : findDefect? limit [] input = some located) (other : located.defect ≠ .tooDeep limit) :
    Stuck greater input := by
  rintro front rest expressions rfl spelled
  have whole := leads_nil_nil_iff.mpr ⟨expressions, spelled⟩
  obtain ⟨seen, unseen, opened, split, leads, ends⟩ :=
    (search_findDefect? limit [] (front ++ rest)).exists_leads_of_some found
  -- All tokens that the search has passed fit under the smaller limit.
  have passed (more : List Lexeme) (within : seen = front ++ more) : front = [] := by
    rw [within, List.map_append] at leads
    obtain ⟨middle, early, _⟩ := leads_append_iff.mp leads
    obtain rfl := Option.some.inj (whole.brackets.symm.trans early.brackets)
    obtain ⟨others, spelled⟩ := leads_nil_nil_iff.mp early
    exact stuck front rest others rfl spelled
  rcases List.append_eq_append_iff.mp split with ⟨more, within, _⟩ | ⟨more, within, behind⟩
  · exact passed more within
  · cases more with
    | nil => exact passed [] (by simpa using within.symm)
    | cons next more =>
        rcases ends with ⟨rfl, _⟩ | ⟨lexeme, others, rfl, _, misfit⟩
        · cases behind
        · obtain ⟨rfl, rfl⟩ := List.cons.inj behind
          rw [within, List.map_append, List.map_cons] at whole
          obtain ⟨middle, early, late⟩ := leads_append_iff.mp whole
          obtain rfl := Option.some.inj (leads.brackets.symm.trans early.brackets)
          exact absurd late ((misfit.of_ne_tooDeep other).not_leads _)

/-! ## Reading -/

/-- A greater limit lets more expressions be read behind those that are read under a smaller one. -/
theorem readText_limit (le : limit ≤ greater) (text : List Char) :
    (readText limit text).1 <+: (readText greater text).1 ∧
      ∃ between, (readText limit text).2 = between ++ (readText greater text).2 := by
  cases read : readAll limit (lexemes text) with
  | mk expressions rest =>
  cases readMore : readAll greater (lexemes text) with
  | mk all others =>
      obtain ⟨front, split, spelled, _⟩ := readAll_eq_iff_stuck.mp read
      obtain ⟨longer, splitMore, whole, stuck⟩ := readAll_eq_iff_stuck.mp readMore
      obtain ⟨more, rfl, rfl⟩ :=
        stuck.exists_longer (spelled.mono le) whole (split.symm.trans splitMore)
      rw [List.map_append] at whole
      obtain ⟨later, _, rfl⟩ := (spelled.mono le).exists_of_append whole
      obtain ⟨between, cut, _⟩ := exists_consumed (lexemes_remainder split)
      rw [readText_eq read, readText_eq readMore]
      exact ⟨List.prefix_append expressions later, between, cut⟩

theorem program_limit (le : limit ≤ greater) (text : List Char) :
    program limit text = program greater text ∨
      ∃ error, program limit text = .error error ∧ error.kind = .tooDeeplyNested := by
  cases result : program limit text with
  | ok expressions =>
      have spelled := (program_eq_ok_iff.mp result).mono le
      exact .inl (program_eq_ok_iff.mpr spelled).symm
  | error error =>
      obtain ⟨left, rfl⟩ := program_eq_error_iff.mp result
      obtain ⟨located, found⟩ := exists_findDefect? left
      have diagnosed : diagnose limit (readAll limit (lexemes text)).2 = located := by
        rw [diagnose, found]
        rfl
      rw [diagnosed]
      by_cases deep : located.defect = .tooDeep limit
      · exact .inr ⟨_, rfl, congrArg Defect.kind deep⟩
      · cases read : readAll limit (lexemes text) with
        | mk expressions rest =>
            rw [read] at left found
            obtain ⟨front, split, spelled, stuck⟩ := readAll_eq_iff_stuck.mp read
            have readMore : readAll greater (lexemes text) = (expressions, rest) :=
              readAll_eq_iff_stuck.mpr ⟨front, split, spelled.mono le, stuck.of_defect found deep⟩
            have foundMore : findDefect? greater [] rest = some located := by
              rcases findDefect?_limit le [] rest with same | ⟨start, tooDeep⟩
              · exact same.symm.trans found
              · cases found.symm.trans tooDeep
                exact absurd rfl deep
            refine .inl (program_eq_error_iff.mpr ?_).symm
            rw [readMore, diagnose, foundMore]
            exact ⟨left, rfl⟩

end Lisplet.Source

namespace Lisplet

open Source

/-- **The limit on the depth changes nothing but the error for reaching it.** A text that is
accepted under a limit, or rejected for another reason, is accepted or rejected alike under every
greater limit. What is read under a limit is read under every greater one, which leaves no more of
the text. -/
theorem parse_limit {limit greater : Nat} (le : limit ≤ greater) (text : String) :
    (parseProgram limit text = parseProgram greater text ∨
        ∃ error, parseProgram limit text = .error (.parse error) ∧ error.kind = .tooDeeplyNested) ∧
      (parse limit text).1 <+: (parse greater text).1 ∧
      ∃ between, (parse limit text).2 = between ++ (parse greater text).2 := by
  obtain ⟨front, between, rest⟩ := readText_limit le text.toList
  refine ⟨?_, front, String.ofList between, ?_⟩
  · rcases program_limit le text.toList with same | ⟨error, rejected, tooDeep⟩
    · exact .inl (by rw [parseProgram, parseProgram, same])
    · exact .inr ⟨error, by rw [parseProgram, rejected]; rfl, tooDeep⟩
  · exact (congrArg String.ofList rest).trans String.ofList_append

/-- A text with a bracket too many, which a small limit does not let be reached. -/
theorem parse_limit_group :
    let text := "x (y) ]"
    let group := Expr.form [.symbol "y"]
    1 ≤ 2 ∧ parse 1 text = ([.symbol "x"], "(y) ]") ∧ parse 2 text = ([.symbol "x", group], "]") ∧
      (∃ error, parseProgram 1 text = .error (.parse error) ∧ error.kind = .tooDeeplyNested) ∧
      [Expr.symbol "x"] <+: [.symbol "x", group] ∧ (∃ between, "(y) ]" = between ++ "]") ∧
      2 ≤ 3 ∧ parseProgram 2 text = parseProgram 3 text := by
  intro text group
  have readOne : parse 1 text = ([.symbol "x"], "(y) ]") := by decide +kernel
  have readTwo : parse 2 text = ([.symbol "x", group], "]") := by decide +kernel
  have unexpected : parseProgram 2 text = .error (.parse
      ⟨.invalidSyntax, "unexpected ']'", some "x (y) ]", some "]"⟩) := by decide +kernel
  have less : 1 ≤ 2 := by decide
  have more : 2 ≤ 3 := by decide
  obtain ⟨deep, front, between⟩ := parse_limit less text
  obtain ⟨alike, _⟩ := parse_limit more text
  rw [readOne, readTwo] at front between
  refine ⟨less, readOne, readTwo, deep.resolve_left (by decide +kernel), front, between, more, ?_⟩
  refine alike.resolve_right ?_
  rintro ⟨error, rejected, tooDeep⟩
  cases unexpected.symm.trans rejected
  cases tooDeep

end Lisplet
