import Lisplet.Proofs.Source.Continuation
import Lisplet.Proofs.Source.Location

/-!
# What is reported about a text that is no program

A text that is not read to its end is looked through a second time for a defect, from the expression
on where reading stopped. `Search` says what the search does at each token. The defect that is found
is the first token that does not fit where it stands, or an open bracket when every token fits and
the text ends too early (`Search.exists_leads_of_some`). A search without a defect would have seen
an expression that can be read, so there always is one (`exists_findDefect?`).

Together with what is known of texts that can be continued, this says what an error promises
(`parseProgram_explained`): input is incomplete exactly when more text can complete it, and in all
other cases the text before the place of the error can be completed while the text through the token
there cannot.
-/

set_option autoImplicit false

namespace Lisplet.Source

open Text

variable {limit : Nat}

/-! ## The reader stops at an expression that it cannot read -/

theorem ReadsSpelled.shorter {read : List Lexeme → Option (Expr × List Lexeme)} {room : Nat}
    (sound : ReadsSpelled room read) {input rest : List Lexeme} {expression : Expr}
    (result : read input = some (expression, rest)) : rest.length < input.length := by
  obtain ⟨front, rfl, spelled⟩ := sound input expression rest result
  cases front with
  | nil => cases spelled
  | cons lexeme front =>
      rw [List.length_append, List.length_cons]
      omega

/-- What is left when as many expressions are read as the input can hold starts with none. -/
theorem read_readMany {read : List Lexeme → Option (Expr × List Lexeme)} {room : Nat}
    (sound : ReadsSpelled room read) {bound : Nat} {input : List Lexeme}
    (enough : input.length ≤ bound) : read (readMany read bound input).2 = none := by
  induction bound generalizing input with
  | zero =>
      cases result : read input with
      | none => exact result
      | some next =>
          have shorter := sound.shorter result
          omega
  | succ bound ih =>
      rw [readMany]
      cases result : read input with
      | none => exact result
      | some next =>
          have shorter := sound.shorter result
          exact ih (by omega)

/-- A group at the front of its input is read, whatever comes behind it. -/
theorem readExpr_group {bound room : Nat} {bracket : Bracket} {elements : List Expr}
    {inside : List Lexeme} (spelled : Spelled room elements (inside.map Lexeme.token))
    (enough : inside.length ≤ bound) (start last : List Char) (after : List Lexeme) :
    readExpr bound (room + 1)
        (⟨.opening bracket, start⟩ :: (inside ++ ⟨.closing bracket, last⟩ :: after)) =
      some (bracket.group elements, after) := by
  have closes : Halts (⟨.closing bracket, last⟩ :: after) := ⟨bracket, rfl⟩
  have read := readMany_complete spelled rfl closes enough enough
  exact (readExpr_opening_eq_some_iff bound room start _).mpr ⟨elements, last, read, rfl⟩

/-- So is any expression. -/
theorem exists_readExpr {bound room : Nat} {expression : Expr} {expressions : List Expr}
    {front : List Lexeme}
    (spelled : Spelled room (expression :: expressions) (front.map Lexeme.token))
    (enough : front.length ≤ bound) (rest : List Lexeme) :
    ∃ after, readExpr bound room (front ++ rest) = some (expression, after) := by
  generalize same : front.map Lexeme.token = found at spelled
  cases spelled with
  | digits fits later =>
      obtain ⟨⟨_, start⟩, others, rfl, rfl, _⟩ := List.map_eq_cons_iff.mp same
      exact ⟨_, readExpr_digits_of_fits bound _ start (others ++ rest) fits⟩
  | word later =>
      obtain ⟨⟨_, start⟩, others, rfl, rfl, _⟩ := List.map_eq_cons_iff.mp same
      exact ⟨_, readExpr_word bound _ start (others ++ rest) _⟩
  | @group room bracket elements _ within found inner outer =>
      obtain ⟨⟨_, start⟩, others, rfl, rfl, later⟩ := List.map_eq_cons_iff.mp same
      obtain ⟨inside, closed, rfl, rfl, ends⟩ := List.map_eq_append_iff.mp later
      obtain ⟨⟨_, last⟩, after, rfl, rfl, _⟩ := List.map_eq_cons_iff.mp ends
      simp only [List.length_cons, List.length_append] at enough
      have enclosed : inside.length ≤ bound := by omega
      rw [List.cons_append, List.append_assoc, List.cons_append]
      exact ⟨_, readExpr_group inner enclosed start last (after ++ rest)⟩

/-! ## The search for a defect -/

/-- The kinds of some open brackets. -/
def kinds (brackets : List OpenBracket) : List Bracket := brackets.map OpenBracket.bracket

/-- Why a token does not fit where it stands. -/
inductive Misfit (limit : Nat) : List Bracket → Token → Defect → Prop where
  | unexpected {closer : Bracket} : Misfit limit [] (.closing closer) (.unexpected closer)
  | mismatched {closer innermost : Bracket} {outer : List Bracket} :
      closer ≠ innermost →
        Misfit limit (innermost :: outer) (.closing closer) (.mismatched closer innermost)
  | tooDeep {opened : List Bracket} {token : Token} :
      token.isClosing = false → limit ≤ opened.length → Misfit limit opened token (.tooDeep limit)
  | tooGreat {opened : List Bracket} {run : List Char} :
      maxNumber < digitsValue run → Misfit limit opened (.digits run) (.tooGreat run)

theorem Misfit.not_leads {opened inner : List Bracket} {token : Token} {defect : Defect}
    (misfit : Misfit limit opened token defect) (later : List Token) :
    ¬ Leads limit opened (token :: later) inner := by
  intro leads
  obtain ⟨fits, middle, step, _⟩ := leads_cons_iff.mp leads
  cases misfit with
  | unexpected => cases step
  | mismatched different =>
      rw [bracketStep?, if_neg different] at step
      cases step
  | tooDeep opens deep => exact absurd (fits.depth opens) (Nat.not_lt.mpr deep)
  | tooGreat great => exact absurd (fits.number _ rfl) (Nat.not_le.mpr great)

/-- What a search for a defect finds, said token by token: it goes on behind a token that fits as
long as brackets are open, and ends at a token that does not fit, at the end of the text, or behind
the last token of an expression. -/
inductive Search (limit : Nat) : List OpenBracket → List Lexeme → Option Located → Prop where
  | nothing : Search limit [] [] none
  | unterminated {innermost : OpenBracket} {outer : List OpenBracket} :
      Search limit (innermost :: outer) []
        (some ⟨.unterminated innermost.bracket, innermost.start⟩)
  | misfit {brackets : List OpenBracket} {lexeme : Lexeme} {rest : List Lexeme} {defect : Defect} :
      Misfit limit (kinds brackets) lexeme.token defect →
        Search limit brackets (lexeme :: rest) (some ⟨defect, lexeme.start⟩)
  | complete {brackets : List OpenBracket} {lexeme : Lexeme} {rest : List Lexeme} :
      Fits limit (kinds brackets) lexeme.token →
        bracketStep? (kinds brackets) lexeme.token = some [] →
          Search limit brackets (lexeme :: rest) none
  | fits {brackets inner : List OpenBracket} {lexeme : Lexeme} {rest : List Lexeme}
      {found : Option Located} :
      Fits limit (kinds brackets) lexeme.token →
        bracketStep? (kinds brackets) lexeme.token = some (kinds inner) →
          (∀ bracket ∈ inner, bracket ∈ brackets ∨ bracket.start = lexeme.start) →
            Search limit inner rest found → Search limit brackets (lexeme :: rest) found

/-- A token that fits is followed by the search for the brackets open behind it, if there are
any. -/
theorem Search.behind {brackets inner : List OpenBracket} {lexeme : Lexeme} {rest : List Lexeme}
    {found : Option Located} (fits : Fits limit (kinds brackets) lexeme.token)
    (step : bracketStep? (kinds brackets) lexeme.token = some (kinds inner))
    (known : ∀ bracket ∈ inner, bracket ∈ brackets ∨ bracket.start = lexeme.start)
    (later : Search limit inner rest found) :
    Search limit brackets (lexeme :: rest) (if inner.isEmpty then none else found) := by
  cases inner with
  | nil => exact .complete fits step
  | cons innermost outer => exact .fits fits step known later

theorem findDefect?_tooDeep {brackets : List OpenBracket} {lexeme : Lexeme} (rest : List Lexeme)
    (opens : lexeme.token.isClosing = false) (deep : limit ≤ brackets.length) :
    findDefect? limit brackets (lexeme :: rest) = some ⟨.tooDeep limit, lexeme.start⟩ := by
  obtain ⟨token, start⟩ := lexeme
  cases token with
  | closing closer => cases opens
  | opening bracket => simp [findDefect?, deep]
  | digits run => simp [findDefect?, deep]
  | word run => simp [findDefect?, deep]

/-- The search is made as `Search` says. The induction is on the tokens. -/
theorem search_findDefect? (limit : Nat) (brackets : List OpenBracket) (input : List Lexeme) :
    Search limit brackets input (findDefect? limit brackets input) := by
  induction input generalizing brackets with
  | nil =>
      cases brackets with
      | nil => exact .nothing
      | cons innermost outer => exact .unterminated
  | cons lexeme rest ih =>
      by_cases tooDeep : lexeme.token.isClosing = false ∧ limit ≤ brackets.length
      · have length : (kinds brackets).length = brackets.length := List.length_map _
        rw [findDefect?_tooDeep rest tooDeep.1 tooDeep.2]
        exact .misfit (.tooDeep tooDeep.1 (length ▸ tooDeep.2))
      have below : lexeme.token.isClosing = false → ¬ limit ≤ brackets.length :=
        fun opens deep => tooDeep ⟨opens, deep⟩
      have depth : lexeme.token.isClosing = false → (kinds brackets).length < limit := by
        intro opens
        rw [kinds, List.length_map]
        exact Nat.lt_of_not_le (below opens)
      obtain ⟨token, start⟩ := lexeme
      cases token with
      | closing closer =>
          cases brackets with
          | nil => exact .misfit .unexpected
          | cons innermost outer =>
              by_cases same : closer = innermost.bracket
              · have goesOn : findDefect? limit (innermost :: outer)
                    (⟨.closing closer, start⟩ :: rest) =
                    if outer.isEmpty then none else findDefect? limit outer rest := by
                  simp [findDefect?, same]
                rw [goesOn]
                refine .behind ⟨?_, ?_⟩ ?_ ?_ (ih outer)
                · rintro _ ⟨⟩
                · rintro ⟨⟩
                · simp [kinds, bracketStep?, same]
                · exact fun bracket member => .inl (List.mem_cons_of_mem innermost member)
              · have ends : findDefect? limit (innermost :: outer)
                    (⟨.closing closer, start⟩ :: rest) =
                    some ⟨.mismatched closer innermost.bracket, start⟩ := by
                  simp [findDefect?, same]
                rw [ends]
                exact .misfit (.mismatched same)
      | opening bracket =>
          have goesOn : findDefect? limit brackets (⟨.opening bracket, start⟩ :: rest) =
              findDefect? limit (⟨bracket, start⟩ :: brackets) rest := by
            simp [findDefect?, below rfl]
          rw [goesOn]
          refine .fits ⟨?_, depth⟩ rfl ?_ (ih _)
          · rintro _ ⟨⟩
          · intro other member
            rcases List.mem_cons.mp member with rfl | outer
            · exact .inr rfl
            · exact .inl outer
      | digits run =>
          by_cases great : maxNumber < digitsValue run
          · have ends : findDefect? limit brackets (⟨.digits run, start⟩ :: rest) =
                some ⟨.tooGreat run, start⟩ := by
              simp [findDefect?, below rfl, great]
            rw [ends]
            exact .misfit (.tooGreat great)
          · have goesOn : findDefect? limit brackets (⟨.digits run, start⟩ :: rest) =
                if brackets.isEmpty then none else findDefect? limit brackets rest := by
              simp [findDefect?, below rfl, great]
            rw [goesOn]
            refine .behind ⟨?_, depth⟩ rfl (fun _ => .inl) (ih brackets)
            rintro _ ⟨⟩
            exact Nat.le_of_not_lt great
      | word run =>
          have goesOn : findDefect? limit brackets (⟨.word run, start⟩ :: rest) =
              if brackets.isEmpty then none else findDefect? limit brackets rest := by
            simp [findDefect?, below rfl]
          rw [goesOn]
          refine .behind ⟨?_, depth⟩ rfl (fun _ => .inl) (ih brackets)
          rintro _ ⟨⟩

namespace Search

variable {brackets : List OpenBracket} {input : List Lexeme} {found : Option Located}

/-- A search without a defect has seen all the tokens of some expressions, and of one at least when
there are any tokens. -/
theorem exists_leads_of_none (search : Search limit brackets input found) (none : found = none) :
    ∃ front rest, input = front ++ rest ∧ (front = [] → input = []) ∧
      Leads limit (kinds brackets) (front.map Lexeme.token) [] := by
  induction search with
  | nothing => exact ⟨[], [], rfl, fun _ => rfl, leads_nil_iff.mpr rfl⟩
  | unterminated => cases none
  | misfit _ => cases none
  | @complete _ lexeme rest fits step =>
      refine ⟨[lexeme], rest, rfl, nofun, ?_⟩
      exact leads_cons_iff.mpr ⟨fits, _, step, leads_nil_iff.mpr rfl⟩
  | @fits _ _ lexeme _ _ fits step _ _ ih =>
      obtain ⟨front, rest, rfl, _, leads⟩ := ih none
      exact ⟨lexeme :: front, rest, rfl, nofun, leads_cons_iff.mpr ⟨fits, _, step, leads⟩⟩

/-- A defect is at the first token that does not fit, or the text ends too early when all of them
do. -/
theorem exists_leads_of_some {located : Located} (search : Search limit brackets input found)
    (some : found = some located) :
    ∃ front rest opened, input = front ++ rest ∧
      Leads limit (kinds brackets) (front.map Lexeme.token) opened ∧
      ((rest = [] ∧ ∃ opener, located.defect = .unterminated opener) ∨
        ∃ lexeme others, rest = lexeme :: others ∧ located.start = lexeme.start ∧
          Misfit limit opened lexeme.token located.defect) := by
  induction search with
  | nothing => cases some
  | unterminated =>
      cases some
      exact ⟨[], [], _, rfl, leads_nil_iff.mpr rfl, .inl ⟨rfl, _, rfl⟩⟩
  | @misfit _ lexeme rest _ misfit =>
      cases some
      exact ⟨[], lexeme :: rest, _, rfl, leads_nil_iff.mpr rfl,
        .inr ⟨lexeme, rest, rfl, rfl, misfit⟩⟩
  | complete _ _ => cases some
  | @fits _ _ lexeme _ _ fits step _ _ ih =>
      obtain ⟨front, rest, opened, rfl, leads, ends⟩ := ih some
      exact ⟨lexeme :: front, rest, opened, rfl, leads_cons_iff.mpr ⟨fits, _, step, leads⟩, ends⟩

/-- A defect is reported where one of the tokens stands. -/
theorem start_of_some {located : Located} (search : Search limit brackets input found)
    (some : found = some located) :
    (∃ bracket ∈ brackets, located.start = bracket.start) ∨
      ∃ lexeme ∈ input, located.start = lexeme.start := by
  induction search with
  | nothing => cases some
  | @unterminated innermost _ =>
      cases some
      exact .inl ⟨innermost, List.mem_cons_self, rfl⟩
  | @misfit _ lexeme _ _ _ =>
      cases some
      exact .inr ⟨lexeme, List.mem_cons_self, rfl⟩
  | complete _ _ => cases some
  | @fits _ _ lexeme _ _ _ _ known _ ih =>
      rcases ih some with ⟨bracket, member, same⟩ | ⟨later, member, same⟩
      · rcases known bracket member with old | new
        · exact .inl ⟨bracket, old, same⟩
        · exact .inr ⟨lexeme, List.mem_cons_self, same.trans new⟩
      · exact .inr ⟨later, List.mem_cons_of_mem lexeme member, same⟩

end Search

/-! ## What is reported -/

/-- The part of a text at an error that makes it one, by the kind of the error: a closing bracket,
the first character of a token that is too deep, or all the digits of a number that is too great. -/
inductive Offending : ParseErrorKind → List Char → List Char → Prop where
  | closing {bracket : Bracket} {rest : List Char} :
      Offending .invalidSyntax [bracket.closer] (bracket.closer :: rest)
  | tooDeep {first : Char} {rest : List Char} :
      isBlank first = false → (∀ bracket : Bracket, first ≠ bracket.closer) →
        Offending .tooDeeplyNested [first] (first :: rest)
  | tooGreat {run rest : List Char} :
      run ≠ [] → (∀ character ∈ run, character.isDigit = true) → Stops Char.isDigit rest →
        Offending .implementationLimit run (run ++ rest)

/-- The wording of a defect tells that its cause is known: the first three characters differ. -/
theorem Defect.text_ne_of_ne_unknown {defect : Defect} (known : defect ≠ .unknown) :
    defect.text ≠ Defect.unknown.text := by
  intro same
  have start := congrArg (fun text => text.toList.take 3) same
  unfold Defect.text at start
  cases defect with
  | unknown => exact absurd rfl known
  | unexpected closer => simp at start
  | mismatched closer opener => simp at start
  | tooDeep limit => simp at start
  | tooGreat run => simp at start
  | unterminated opener => simp at start

theorem Token.isClosing_eq_false_iff {token : Token} :
    token.isClosing = false ↔ ∀ bracket, token ≠ .closing bracket := by
  cases token <;> simp [Token.isClosing]

/-- What is wrong with a lexeme that does not fit is wrong with the offending part of its text,
whatever comes behind it. -/
theorem Misfit.exists_offending {opened : List Bracket} {first : Char} {rest : List Char}
    {token : Token} {defect : Defect} (misfit : Misfit limit opened token defect)
    (visible : isBlank first = false) (read : (readLexeme first rest).1.token = token) :
    ∃ part, Offending defect.kind part (first :: rest) ∧ StartsLike part (first :: rest) ∧
      ∃ found, tokens part = [found] ∧ ∃ same, Misfit limit opened found same := by
  cases misfit with
  | @unexpected closer =>
      obtain rfl := readLexeme_token_eq_closing_iff.mp read
      exact ⟨_, .closing, fun _ member => member, _, tokens_closers [closer], _, .unexpected⟩
  | @mismatched closer _ _ different =>
      obtain rfl := readLexeme_token_eq_closing_iff.mp read
      exact ⟨_, .closing, fun _ member => member, _, tokens_closers [closer], _,
        .mismatched different⟩
  | tooDeep opens deep =>
      rw [← read, Token.isClosing_eq_false_iff] at opens
      have noCloser : ∀ bracket : Bracket, first ≠ bracket.closer := fun bracket same =>
        opens bracket (readLexeme_token_eq_closing_iff.mpr same)
      have stillOpens : (readLexeme first []).1.token.isClosing = false :=
        Token.isClosing_eq_false_iff.mpr fun bracket same =>
          noCloser bracket (readLexeme_token_eq_closing_iff.mp same)
      exact ⟨_, .tooDeep visible noCloser, fun _ member => member, _, tokens_singleton visible, _,
        .tooDeep stillOpens deep⟩
  | @tooGreat _ run great =>
      obtain ⟨after, same, some, digits, stops⟩ := exists_readLexeme_digits read
      have alone :=
        tokens_digits some digits (fun _ member => nomatch member : Stops Char.isDigit [])
      rw [List.append_nil, tokens_nil] at alone
      rw [same]
      refine ⟨run, .tooGreat some digits stops, ?_, _, alone, _, .tooGreat great⟩
      obtain ⟨digit, others, rfl⟩ := List.exists_cons_of_ne_nil some
      exact fun character member => member

/-- There is a defect in what is left when reading stops before the end: without one, an expression
would have been read. -/
theorem exists_findDefect? {input : List Lexeme} (left : (readAll limit input).2 ≠ []) :
    ∃ located, findDefect? limit [] (readAll limit input).2 = some located := by
  have sound := readExpr_sound input.length limit
  have stopped : readExpr input.length limit (readAll limit input).2 = none :=
    read_readMany sound (Nat.le_refl input.length)
  obtain ⟨before, taken, _⟩ := readMany_sound sound input.length input
  cases result : findDefect? limit [] (readAll limit input).2 with
  | some located => exact ⟨located, rfl⟩
  | none =>
      obtain ⟨front, rest, split, whole, leads⟩ :=
        (search_findDefect? limit [] _).exists_leads_of_none result
      obtain ⟨expressions, spelled⟩ := leads_nil_nil_iff.mp leads
      generalize same : front.map Lexeme.token = found at spelled
      cases expressions with
      | nil =>
          cases spelled
          exact absurd (whole (List.map_eq_nil_iff.mp same)) left
      | cons expression expressions =>
          have enough : front.length ≤ input.length := by
            have length := congrArg List.length taken
            rw [← readAll, split] at length
            simp only [List.length_append] at length
            omega
          obtain ⟨after, read⟩ := exists_readExpr (same ▸ spelled) enough rest
          rw [split, read] at stopped
          cases stopped

theorem program_eq_error_iff {text : List Char} {error : ParseError} :
    program limit text = .error error ↔
      (readAll limit (lexemes text)).2 ≠ [] ∧
        error = (diagnose limit (readAll limit (lexemes text)).2).error text := by
  rw [program]
  generalize readAll limit (lexemes text) = read
  obtain ⟨expressions, rest⟩ := read
  cases rest with
  | nil =>
      refine ⟨fun rejected => ?_, fun rejected => absurd rfl rejected.1⟩
      cases rejected
  | cons lexeme rest =>
      exact ⟨fun rejected => ⟨List.cons_ne_nil lexeme rest, (Except.error.inj rejected).symm⟩,
        fun rejected => congrArg _ rejected.2.symm⟩

/-- The tokens of a rejected text lead to its defect, which is at one of them. -/
theorem exists_leads_of_readAll {text : List Char} (left : (readAll limit (lexemes text)).2 ≠ []) :
    ∃ located, diagnose limit (readAll limit (lexemes text)).2 = located ∧
      (∃ lexeme ∈ lexemes text, located.start = lexeme.start) ∧
      ∃ front rest opened, lexemes text = front ++ rest ∧
        Leads limit [] (front.map Lexeme.token) opened ∧
        ((rest = [] ∧ ∃ opener, located.defect = .unterminated opener) ∨
          ∃ lexeme others, rest = lexeme :: others ∧ located.start = lexeme.start ∧
            Misfit limit opened lexeme.token located.defect) := by
  obtain ⟨located, found⟩ := exists_findDefect? left
  obtain ⟨before, taken, spelled⟩ :=
    readMany_sound (readExpr_sound (lexemes text).length limit) (lexemes text).length (lexemes text)
  rw [← readAll] at taken spelled
  have search := search_findDefect? limit [] (readAll limit (lexemes text)).2
  obtain ⟨front, rest, opened, split, leads, ends⟩ := search.exists_leads_of_some found
  refine ⟨located, by rw [diagnose, found]; rfl, ?_, before ++ front, rest, opened, ?_, ?_, ends⟩
  · rcases search.start_of_some found with ⟨bracket, member, _⟩ | ⟨lexeme, member, same⟩
    · cases member
    · exact ⟨lexeme, taken ▸ List.mem_append_right before member, same⟩
  · rw [List.append_assoc, ← split]
    exact taken
  · rw [List.map_append]
    exact leads_append_iff.mpr ⟨[], leads_nil_nil_iff.mpr ⟨_, spelled⟩, leads⟩

theorem Misfit.kind_ne_incomplete {opened : List Bracket} {token : Token} {defect : Defect}
    (misfit : Misfit limit opened token defect) : defect.kind ≠ .incomplete := by
  cases misfit <;> exact nofun

theorem Misfit.ne_unknown {opened : List Bracket} {token : Token} {defect : Defect}
    (misfit : Misfit limit opened token defect) : defect ≠ .unknown := by
  cases misfit <;> exact nofun

/-- Behind tokens that lead to some open brackets, a token that does not fit there spoils all. -/
theorem Misfit.not_continues {text : List Char} {front later : List Token} {opened : List Bracket}
    {token : Token} {defect : Defect} (misfit : Misfit limit opened token defect)
    (leads : Leads limit [] front opened) (split : tokens text = front ++ token :: later) :
    ¬ Continues limit (String.ofList text) := by
  rw [continues_iff, String.toList_ofList, split]
  rintro ⟨inner, whole⟩
  obtain ⟨middle, start, rest⟩ := leads_append_iff.mp whole
  obtain rfl := Option.some.inj (start.brackets.symm.trans leads.brackets)
  exact misfit.not_leads later rest

/-- Before a token that does not fit a text can be continued, and with the offending part of that
token it cannot, nor can the whole text. -/
theorem Misfit.divides {text : List Char} {front rest : List Lexeme} {lexeme : Lexeme}
    {opened : List Bracket} {defect : Defect} (misfit : Misfit limit opened lexeme.token defect)
    (leads : Leads limit [] (front.map Lexeme.token) opened)
    (split : lexemes text = front ++ lexeme :: rest) :
    ∃ before, text = before ++ lexeme.start ∧ Continues limit (String.ofList before) ∧
      (∃ part, Offending defect.kind part lexeme.start ∧
        ¬ Continues limit (String.ofList (before ++ part))) ∧
      ¬ Continues limit (String.ofList text) := by
  obtain ⟨before, first, more, whole, visible, rfl, behind⟩ := exists_text_before split
  obtain ⟨part, offending, like, found, alone, _, spoils⟩ := misfit.exists_offending visible rfl
  rw [readLexeme_start] at whole behind ⊢
  refine ⟨before, whole, ?_, ⟨part, offending, ?_⟩, ?_⟩
  · have tokensBefore := behind [] nofun
    rw [List.append_nil, tokens_nil, List.append_nil] at tokensBefore
    rw [continues_iff, String.toList_ofList, tokensBefore]
    exact ⟨opened, leads⟩
  · have tokensThrough := behind part like
    rw [alone] at tokensThrough
    exact spoils.not_continues leads tokensThrough
  · have tokensWhole : tokens text =
        front.map Lexeme.token ++ (readLexeme first more).1.token :: rest.map Lexeme.token := by
      rw [tokens, split, List.map_append, List.map_cons]
    exact misfit.not_continues leads tokensWhole

/-- The place of a lexeme is found again at its byte offset. -/
theorem atByte_offset_of_mem {text : List Char} {lexeme : Lexeme} (member : lexeme ∈ lexemes text) :
    Place.atByte text (Place.ofEnd text lexeme.start).offset = .ofEnd text lexeme.start := by
  obtain ⟨_, _, found⟩ := List.append_of_mem member
  obtain ⟨before, _, _, whole, _⟩ := exists_text_before found
  rw [whole, ofEnd_append]
  exact atByte_offset ⟨before, lexeme.start⟩

end Lisplet.Source

namespace Lisplet

open Source

/-- Equality of results is decided. -/
instance decidableEqResult {ε α : Type} [DecidableEq ε] [DecidableEq α] :
    DecidableEq (Except ε α)
  | .ok first, .ok second => decidable_of_iff (first = second) ⟨congrArg _, Except.ok.inj⟩
  | .error first, .error second => decidable_of_iff (first = second) ⟨congrArg _, Except.error.inj⟩
  | .ok _, .error _ => isFalse nofun
  | .error _, .ok _ => isFalse nofun

/-- What the error for a rejected text says about it. -/
structure Explained (limit : Nat) (text : String) (error : ParseError) (place : Place) : Prop where
  /-- The place is where the search for a defect ends. -/
  located : place =
    .ofEnd text.toList (diagnose limit (readAll limit (lexemes text.toList)).2).start
  /-- The error shows this place. -/
  shown : error = .atPlace error.kind error.text place
  /-- The place is one of the text, at its byte offset. -/
  offset : Place.atByte text.toList place.offset = place
  /-- Input is incomplete when more text can complete it. -/
  incomplete : error.kind = .incomplete ↔ Continues limit text
  /-- All other errors have a text before them that can be continued, -/
  before : error.kind ≠ .incomplete → Continues limit (String.ofList place.before)
  /-- and a part at their place with which it cannot. -/
  through : error.kind ≠ .incomplete → ∃ part, Offending error.kind part place.after ∧
    ¬ Continues limit (String.ofList (place.before ++ part))
  /-- The cause of an error is always known. -/
  known : error.text ≠ "invalid syntax"

section Located

variable {limit : Nat} {text : String} {located : Located} {opened : List Bracket}
variable (diagnosed : diagnose limit (readAll limit (lexemes text.toList)).2 = located)
  (offset : Place.atByte text.toList (Place.ofEnd text.toList located.start).offset =
    .ofEnd text.toList located.start)
include diagnosed offset

/-- A text that leads to some open brackets is explained by one of them. -/
theorem explained_of_unterminated {opener : Bracket}
    (defect : located.defect = .unterminated opener)
    (leads : Leads limit [] (tokens text.toList) opened) :
    Explained limit text (located.error text.toList) (.ofEnd text.toList located.start) := by
  have incomplete : located.defect.kind = .incomplete := by rw [defect]; rfl
  have continues : Continues limit text := continues_iff.mpr ⟨opened, leads⟩
  exact {
    located := by rw [diagnosed]
    shown := rfl
    offset := offset
    incomplete := ⟨fun _ => continues, fun _ => incomplete⟩
    before := fun other => absurd incomplete other
    through := fun other => absurd incomplete other
    known := Defect.text_ne_of_ne_unknown (by rw [defect]; exact nofun) }

/-- A text with a token that does not fit is explained by that token. -/
theorem explained_of_misfit {front rest : List Lexeme} {lexeme : Lexeme}
    (misfit : Misfit limit opened lexeme.token located.defect)
    (start : located.start = lexeme.start) (leads : Leads limit [] (front.map Lexeme.token) opened)
    (split : lexemes text.toList = front ++ lexeme :: rest) :
    Explained limit text (located.error text.toList) (.ofEnd text.toList located.start) := by
  obtain ⟨before, whole, continues, through, spoilt⟩ := misfit.divides leads split
  rw [String.ofList_toList] at spoilt
  have different := misfit.kind_ne_incomplete
  have place : Place.ofEnd text.toList located.start = ⟨before, lexeme.start⟩ := by
    rw [start, whole, ofEnd_append]
  rw [place] at offset ⊢
  exact {
    located := by rw [diagnosed, place]
    shown := by rw [← place]; rfl
    offset := offset
    incomplete := ⟨fun incomplete => absurd incomplete different,
      fun continues => absurd continues spoilt⟩
    before := fun _ => continues
    through := fun _ => through
    known := Defect.text_ne_of_ne_unknown misfit.ne_unknown }

end Located

/-- **An error is at the first token with which a text is no longer the front of a program**, and
there is no such token when the input is incomplete. -/
theorem parseProgram_explained {limit : Nat} {text : String} {error : Error}
    (rejected : parseProgram limit text = .error error) :
    ∃ parseError place, error = .parse parseError ∧ Explained limit text parseError place := by
  rw [parseProgram] at rejected
  cases result : program limit text.toList with
  | ok expressions =>
      rw [result] at rejected
      cases rejected
  | error parseError =>
      rw [result] at rejected
      obtain rfl : Error.parse parseError = error := Except.error.inj rejected
      obtain ⟨left, same⟩ := program_eq_error_iff.mp result
      obtain ⟨located, diagnosed, ⟨shown, member, atShown⟩, front, rest, opened, split, leads,
        ends⟩ :=
        exists_leads_of_readAll left
      rw [diagnosed] at same
      subst same
      refine ⟨_, .ofEnd text.toList located.start, rfl, ?_⟩
      have offset := atShown ▸ atByte_offset_of_mem member
      rcases ends with ⟨rfl, opener, unterminated⟩ | ⟨lexeme, others, rfl, start, misfit⟩
      · rw [List.append_nil] at split
        exact explained_of_unterminated diagnosed offset unterminated (split ▸ leads)
      · exact explained_of_misfit diagnosed offset misfit start leads split

/-- A bracket of the wrong kind closes what is open. -/
theorem parseProgram_explained_mismatched :
    parseProgram 3 "f (g [1)" = .error (.parse
        ⟨.invalidSyntax, "mismatched ')', expected ']'", some "f (g [1)", some ")"⟩) ∧
      ∃ parseError place, Error.parse
          ⟨.invalidSyntax, "mismatched ')', expected ']'", some "f (g [1)", some ")"⟩ =
            .parse parseError ∧
        Explained 3 "f (g [1)" parseError place := by
  have rejected : parseProgram 3 "f (g [1)" = .error (.parse
      ⟨.invalidSyntax, "mismatched ')', expected ']'", some "f (g [1)", some ")"⟩) := by
    decide +kernel
  exact ⟨rejected, parseProgram_explained rejected⟩

end Lisplet
