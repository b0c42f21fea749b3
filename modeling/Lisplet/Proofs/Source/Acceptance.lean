import Lisplet.Proofs.Source.Grammar

/-!
# Which programs are accepted

Whether a program is accepted can be told from its tokens one after the other, without a grammar:
the brackets balance, no number is too great, and no token stands inside too many brackets. The
expressions of an accepted program are found in one pass with a stack of the groups that are open
(`forest?`).

Both are compared with the grammar of `Spelled`. A spelling leaves the open brackets as they were
and adds its expressions to the innermost open group, by induction on the spelling. In the other
direction, tokens that close all of the open brackets are a spelling in front of each of the closing
brackets (`Completes`), by induction on the tokens.
-/

set_option autoImplicit false

namespace Lisplet.Source

/-! ## Conditions on the tokens -/

/-- The brackets that are open after a token, innermost first. A closing bracket closes the
innermost of them, which is of the same kind. -/
def bracketStep? : List Bracket → Token → Option (List Bracket)
  | opened, .opening bracket => some (bracket :: opened)
  | innermost :: outer, .closing closer => if closer = innermost then some outer else none
  | [], .closing _ => none
  | opened, .digits _ => some opened
  | opened, .word _ => some opened

/-- The brackets that are open after some tokens, if every closing bracket closes one of its
kind. -/
def openAfter? (opened : List Bracket) (found : List Token) : Option (List Bracket) :=
  found.foldlM bracketStep? opened

/-- Every bracket is closed by one of its kind, and nothing else is closed. -/
def Balanced (found : List Token) : Prop := openAfter? [] found = some []

/-- Every number fits into the integers. -/
def NumbersFit (found : List Token) : Prop :=
  ∀ run, .digits run ∈ found → digitsValue run ≤ maxNumber

/-- A token that closes a group. -/
def Token.isClosing : Token → Bool
  | .closing _ => true
  | _ => false

/-- Fewer than `limit` brackets are open before every token that is no closing bracket, when
`opened` are open before the first one. -/
def WithinDepth (limit : Nat) (opened : List Bracket) (found : List Token) : Prop :=
  ∀ front token rest inner, found = front ++ token :: rest → token.isClosing = false →
    openAfter? opened front = some inner → inner.length < limit

instance (found : List Token) : Decidable (Balanced found) :=
  inferInstanceAs (Decidable (openAfter? [] found = some []))

theorem openAfter?_cons (opened : List Bracket) (token : Token) (found : List Token) :
    openAfter? opened (token :: found) = (bracketStep? opened token).bind (openAfter? · found) :=
  List.foldlM_cons

theorem NumbersFit.tail {token : Token} {found : List Token} (fits : NumbersFit (token :: found)) :
    NumbersFit found :=
  fun run member => fits run (List.mem_cons_of_mem token member)

theorem withinDepth_nil (limit : Nat) (opened : List Bracket) : WithinDepth limit opened [] := by
  intro front token rest inner same
  exact absurd same.symm (List.append_ne_nil_of_right_ne_nil front (List.cons_ne_nil token rest))

/-- The depth is checked one token at a time. -/
theorem withinDepth_cons_iff {limit : Nat} {opened : List Bracket} {token : Token}
    {found : List Token} :
    WithinDepth limit opened (token :: found) ↔
      (token.isClosing = false → opened.length < limit) ∧
        ∀ inner, bracketStep? opened token = some inner → WithinDepth limit inner found := by
  constructor
  · intro within
    refine ⟨fun opens => within [] token found opened rfl opens rfl, ?_⟩
    rintro inner step front other rest innermost rfl opens after
    refine within (token :: front) other rest innermost rfl opens ?_
    rw [openAfter?_cons, step]
    exact after
  · rintro ⟨first, later⟩ front other rest innermost same opens after
    cases front with
    | nil =>
        obtain ⟨rfl, rfl⟩ := List.cons.inj same
        obtain rfl := Option.some.inj after
        exact first opens
    | cons head front =>
        obtain ⟨rfl, rfl⟩ := List.cons.inj same
        rw [openAfter?_cons] at after
        obtain ⟨inner, step, after⟩ := Option.bind_eq_some_iff.mp after
        exact later inner step front other rest innermost rfl opens after

/-! ## Reading with a stack -/

/-- A group that is open, and the expressions that stand before it in the group around it. -/
structure Frame where
  bracket : Bracket
  before : List Expr

/-- What is known in the middle of a text: the groups that are open, innermost first, and the
expressions read so far in the innermost one. -/
structure Reading where
  stack : List Frame
  current : List Expr

namespace Reading

/-- A reading with one expression more in the innermost group. -/
def push (reading : Reading) (expression : Expr) : Reading :=
  { reading with current := reading.current ++ [expression] }

/-- An opening bracket starts a group inside, and a closing bracket of its kind adds the whole group
to the one around it. -/
def step? (reading : Reading) : Token → Option Reading
  | .opening bracket => some ⟨⟨bracket, reading.current⟩ :: reading.stack, []⟩
  | .closing closer =>
      match reading.stack with
      | [] => none
      | ⟨bracket, before⟩ :: outer =>
          if closer = bracket then some (push ⟨outer, before⟩ (bracket.group reading.current))
          else none
  | .digits run => some (reading.push (.number (Int64.ofNat (digitsValue run))))
  | .word run => some (reading.push (.symbol (String.ofList run)))

end Reading

/-- The expressions that some tokens stand for, if their brackets balance. -/
def forest? (found : List Token) : Option (List Expr) :=
  match found.foldlM Reading.step? ⟨[], []⟩ with
  | some ⟨[], expressions⟩ => some expressions
  | _ => none

/-! ## What a spelling does to the brackets and to the stack -/

namespace Spelled

variable {room : Nat} {expressions : List Expr} {found : List Token}

theorem numbersFit (spelled : Spelled room expressions found) : NumbersFit found := by
  induction spelled with
  | done => exact fun run member => nomatch member
  | digits fits _ ih =>
      intro run member
      rcases List.mem_cons.mp member with same | later
      · obtain rfl := Token.digits.inj same
        exact fits
      · exact ih run later
  | word _ ih =>
      intro run member
      rcases List.mem_cons.mp member with same | later
      · cases same
      · exact ih run later
  | group _ _ inner outer =>
      intro run member
      rcases List.mem_cons.mp member with same | member
      · cases same
      rcases List.mem_append.mp member with inside | member
      · exact inner run inside
      rcases List.mem_cons.mp member with same | later
      · cases same
      · exact outer run later

theorem openAfter?_append (spelled : Spelled room expressions found) (opened : List Bracket)
    (later : List Token) : openAfter? opened (found ++ later) = openAfter? opened later := by
  induction spelled generalizing opened later with
  | done => rfl
  | digits _ _ ih => exact ih opened later
  | word _ ih => exact ih opened later
  | @group room bracket _ _ _ _ _ _ inner outer =>
      rw [List.cons_append, List.append_assoc, openAfter?_cons]
      show openAfter? (bracket :: opened) _ = _
      rw [inner, List.cons_append, openAfter?_cons]
      simp only [bracketStep?, if_true, Option.bind_some]
      exact outer opened later

theorem withinDepth_append {limit : Nat} (spelled : Spelled room expressions found)
    {opened : List Bracket} {later : List Token} (depth : opened.length + room = limit)
    (within : WithinDepth limit opened later) : WithinDepth limit opened (found ++ later) := by
  induction spelled generalizing opened later with
  | done => exact within
  | digits _ _ ih =>
      refine withinDepth_cons_iff.mpr ⟨fun _ => by omega, ?_⟩
      rintro _ ⟨⟩
      exact ih depth within
  | word _ ih =>
      refine withinDepth_cons_iff.mpr ⟨fun _ => by omega, ?_⟩
      rintro _ ⟨⟩
      exact ih depth within
  | @group room bracket _ _ inside found _ _ inner outer =>
      refine withinDepth_cons_iff.mpr ⟨fun _ => by omega, ?_⟩
      rintro _ ⟨⟩
      show WithinDepth limit (bracket :: opened) (inside ++ .closing bracket :: found ++ later)
      rw [List.append_assoc]
      refine inner (by rw [List.length_cons]; omega) (withinDepth_cons_iff.mpr ⟨nofun, ?_⟩)
      intro outermost step
      simp only [bracketStep?, if_true, Option.some.injEq] at step
      subst step
      exact outer depth within

theorem foldlM_step?_append (spelled : Spelled room expressions found) (stack : List Frame)
    (current : List Expr) (later : List Token) :
    (found ++ later).foldlM Reading.step? ⟨stack, current⟩ =
      later.foldlM Reading.step? ⟨stack, current ++ expressions⟩ := by
  induction spelled generalizing stack current later with
  | done => rw [List.append_nil, List.nil_append]
  | @digits room run expressions found _ _ ih =>
      rw [List.cons_append, List.foldlM_cons, List.append_cons]
      exact ih stack _ later
  | word _ ih =>
      rw [List.cons_append, List.foldlM_cons, List.append_cons]
      exact ih stack _ later
  | @group room bracket elements expressions inside found _ _ inner outer =>
      rw [List.cons_append, List.foldlM_cons, List.append_assoc]
      show (inside ++ _).foldlM Reading.step? ⟨⟨bracket, current⟩ :: stack, []⟩ = _
      rw [inner, List.cons_append, List.foldlM_cons, List.nil_append, List.append_cons]
      simp only [Reading.step?, if_true]
      exact outer stack _ later

theorem balanced (spelled : Spelled room expressions found) : Balanced found := by
  have after := spelled.openAfter?_append [] []
  rw [List.append_nil] at after
  exact after

theorem withinDepth (spelled : Spelled room expressions found) : WithinDepth room [] found := by
  have within : WithinDepth room [] (found ++ []) :=
    spelled.withinDepth_append (Nat.zero_add room) (withinDepth_nil room [])
  rw [List.append_nil] at within
  exact within

theorem forest?_eq (spelled : Spelled room expressions found) :
    forest? found = some expressions := by
  have read := spelled.foldlM_step?_append [] [] []
  rw [List.append_nil] at read
  rw [forest?, read]
  rfl

/-- Tokens spell one list of expressions at most, under whatever limits. -/
theorem unique {other : Nat} {others : List Expr} (spelled : Spelled room expressions found)
    (again : Spelled other others found) : expressions = others :=
  Option.some.inj (spelled.forest?_eq.symm.trans again.forest?_eq)

end Spelled

/-! ## Tokens that meet the conditions are a spelling -/

/-- Tokens that close some open brackets: a spelling in front of every closing bracket, and one
behind the last. -/
inductive Completes (limit : Nat) : List Bracket → List Token → Prop where
  | outermost {expressions : List Expr} {found : List Token} :
      Spelled limit expressions found → Completes limit [] found
  | inside {bracket : Bracket} {outer : List Bracket} {expressions : List Expr}
      {found rest : List Token} :
      Spelled (limit - (outer.length + 1)) expressions found → Completes limit outer rest →
        Completes limit (bracket :: outer) (found ++ .closing bracket :: rest)

/-- What spells expressions at the depth of the open brackets can stand in front. -/
theorem Completes.prepend {limit : Nat} {opened : List Bracket} {expressions : List Expr}
    {front found : List Token} (completes : Completes limit opened found)
    (spelled : Spelled (limit - opened.length) expressions front) :
    Completes limit opened (front ++ found) := by
  cases completes with
  | outermost rest => exact .outermost (spelled.append rest)
  | inside first rest =>
      rw [← List.append_assoc]
      exact .inside (spelled.append first) rest

theorem Completes.prepend_atom {limit : Nat} {opened : List Bracket} {atom : Expr} {token : Token}
    {found : List Token} (completes : Completes limit opened found) (below : opened.length < limit)
    (spelled : ∀ room, Spelled (room + 1) [atom] [token]) :
    Completes limit opened (token :: found) := by
  obtain ⟨room, left⟩ := Nat.exists_eq_add_one.mpr (Nat.sub_pos_of_lt below)
  have here := spelled room
  rw [← left] at here
  exact completes.prepend here

/-- A bracket opens the group that the tokens behind it complete first. -/
theorem Completes.prepend_opening {limit : Nat} {opened : List Bracket} {bracket : Bracket}
    {found : List Token} (completes : Completes limit (bracket :: opened) found)
    (below : opened.length < limit) : Completes limit opened (.opening bracket :: found) := by
  cases completes with
  | inside elements rest =>
      have group : Spelled _ [bracket.group _] _ := .group elements .done
      rw [Nat.sub_add_eq, Nat.sub_add_cancel (Nat.sub_pos_of_lt below)] at group
      have whole := rest.prepend group
      rw [List.cons_append, List.append_assoc, List.singleton_append] at whole
      exact whole

/-- The induction is on the tokens, from the end of the text backwards: each token is put in front
of the spellings that the tokens behind it complete. -/
theorem completes_of_openAfter? {limit : Nat} {opened : List Bracket} {found : List Token}
    (closed : openAfter? opened found = some []) (fits : NumbersFit found)
    (within : WithinDepth limit opened found) : Completes limit opened found := by
  induction found generalizing opened with
  | nil =>
      obtain rfl := Option.some.inj closed
      exact .outermost .done
  | cons token found ih =>
      rw [openAfter?_cons] at closed
      obtain ⟨inner, step, closed⟩ := Option.bind_eq_some_iff.mp closed
      obtain ⟨depth, within⟩ := withinDepth_cons_iff.mp within
      have later := ih closed fits.tail (within inner step)
      cases token with
      | digits run =>
          obtain rfl := Option.some.inj step
          exact later.prepend_atom (depth rfl) fun room =>
            .digits (fits run List.mem_cons_self) .done
      | word run =>
          obtain rfl := Option.some.inj step
          exact later.prepend_atom (depth rfl) fun room => .word .done
      | opening bracket =>
          obtain rfl := Option.some.inj step
          exact later.prepend_opening (depth rfl)
      | closing closer =>
          cases opened with
          | nil => cases step
          | cons innermost outer =>
              rw [bracketStep?] at step
              split at step
              · rename_i same
                obtain rfl := Option.some.inj step
                rw [same]
                exact .inside .done later
              · cases step

/-- The grammar, as conditions on the tokens. -/
theorem exists_spelled_iff {limit : Nat} {found : List Token} :
    (∃ expressions, Spelled limit expressions found) ↔
      Balanced found ∧ NumbersFit found ∧ WithinDepth limit [] found := by
  constructor
  · rintro ⟨expressions, spelled⟩
    exact ⟨spelled.balanced, spelled.numbersFit, spelled.withinDepth⟩
  · rintro ⟨balanced, fits, within⟩
    cases completes_of_openAfter? balanced fits within with
    | outermost spelled => exact ⟨_, spelled⟩

end Lisplet.Source

namespace Lisplet

open Source

/-- **A program is accepted exactly when its brackets balance, its numbers fit and no token stands
too deep.** The tokens that this is about are the only ones that the text has, and the expressions
of an accepted program are those that a reader with a stack finds in them. -/
theorem parseProgram_accepts_iff (limit : Nat) (text : String) :
    ∃ found, (∀ other, Tokenized text.toList other ↔ other = found) ∧
      ((∃ expressions, parseProgram limit text = .ok expressions) ↔
        Balanced found ∧ NumbersFit found ∧ WithinDepth limit [] found) ∧
      ∀ expressions, parseProgram limit text = .ok expressions →
        forest? found = some expressions := by
  refine ⟨tokens text.toList, fun other => tokenized_iff.trans eq_comm, ?_, ?_⟩
  · rw [← exists_spelled_iff]
    exact exists_congr fun expressions => parseProgram_eq_ok_iff
  · intro expressions accepted
    exact (parseProgram_eq_ok_iff.mp accepted).forest?_eq

/-- Groups do not cross. -/
example : ¬ Balanced [.opening .round, .opening .square, .closing .round, .closing .square] := by
  decide

end Lisplet
