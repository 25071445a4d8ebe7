import ProseRules.Proofs.Regex.SourceSteps

namespace ProseRules.Regex

/-!
# The parts of a sequence on two sources

Sets, repetitions and the openings of groups track themselves as the steps that they are made of.
-/

namespace Parser

variable {α β : Type}

/-- A step that does not take a closing parenthesis. -/
def Spares (parser : Parser α) : Prop :=
  ∀ tail reading answer later,
    parser.run reading = .ok (answer, later) →
      .plain ')' :: tail <:+ reading.rest → .plain ')' :: tail <:+ later.rest

namespace Spares

theorem pure
    (answer : α) :
    Spares (Pure.pure answer : Parser α) := by
  rintro _ _ _ _ ⟨⟩ ahead
  exact ahead

theorem bind
    {first : Parser α}
    {next : α → Parser β}
    (firstSpares : Spares first)
    (nextSpares : ∀ answer, Spares (next answer)) :
    Spares (first >>= next) := by
  intro tail reading answer later succeeds ahead
  obtain ⟨value, between, ofFirst, ofNext⟩ := run_bind_eq_ok_iff.mp succeeds
  exact nextSpares value _ _ _ _ ofNext (firstSpares _ _ _ _ ofFirst ahead)

theorem peek :
    Spares Parser.peek := by
  rintro _ _ _ _ ⟨⟩ ahead
  exact ahead

theorem get :
    Spares (MonadState.get : Parser Reading) := by
  rintro _ _ _ _ ⟨⟩ ahead
  exact ahead

/-- Taking a different character leaves the parenthesis ahead. -/
theorem of_take
    {reading later : Reading}
    {character : Char}
    {answer : Option Lexeme}
    {tail : List Lexeme}
    (different : character ≠ ')')
    (comesNext : reading.rest.head? = some (.plain character))
    (taken : Parser.take.run reading = .ok (answer, later))
    (ahead : .plain ')' :: tail <:+ reading.rest) :
    .plain ')' :: tail <:+ later.rest := by
  rcases run_take_eq_ok_iff.mp taken with ⟨isNil, _⟩ | ⟨lexeme, rest, isCons, _, _, rfl⟩
  · simp [isNil] at comesNext
  · rw [isCons] at comesNext ahead
    rcases List.suffix_cons_iff.mp ahead with same | within
    · rw [← (List.cons.inj same).1] at comesNext
      cases comesNext
      exact (different rfl).elim
    · exact within

theorem takeClass
    {inClass : Char → Bool}
    (isOutside : inClass ')' = false)
    (limit : Nat) :
    Spares (Parser.takeClass inClass limit) := by
  induction limit with
  | zero =>
      exact pure _
  | succ limit inductionHypothesis =>
      intro tail reading answer later succeeds ahead
      obtain ⟨next, _, peeked, succeeds⟩ := run_bind_eq_ok_iff.mp succeeds
      obtain ⟨rfl, rfl⟩ := Prod.mk.inj (Except.ok.inj peeked)
      split at succeeds
      · rename_i character comesNext
        split at succeeds
        · rename_i isInside
          have different : character ≠ ')' := by
            rintro rfl
            exact absurd isInside (by simp [isOutside])
          obtain ⟨_, between, taken, succeeds⟩ := run_bind_eq_ok_iff.mp succeeds
          exact
            (inductionHypothesis.bind fun _ => pure _) _ _ _ _ succeeds
              (of_take different comesNext taken ahead)
        · exact pure _ _ _ _ _ succeeds ahead
      · exact pure _ _ _ _ _ succeeds ahead

theorem takeWhole
    {inClass : Char → Bool}
    (isOutside : inClass ')' = false) :
    Spares (Parser.takeWhole inClass) :=
  get.bind fun _ => takeClass isOutside _

theorem accept
    {character : Char}
    (different : character ≠ ')') :
    Spares (Parser.accept character) := by
  intro tail reading answer later succeeds ahead
  obtain ⟨next, _, peeked, succeeds⟩ := run_bind_eq_ok_iff.mp succeeds
  obtain ⟨rfl, rfl⟩ := Prod.mk.inj (Except.ok.inj peeked)
  split at succeeds
  · rename_i comesNext
    obtain ⟨_, between, taken, succeeds⟩ := run_bind_eq_ok_iff.mp succeeds
    exact pure _ _ _ _ _ succeeds (of_take different comesNext taken ahead)
  · exact pure _ _ _ _ _ succeeds ahead

end Spares

/-- A step that does not leave the end of a given row of lexemes. -/
def StaysWithin (rest : List Lexeme) (parser : Parser α) : Prop :=
  ∀ reading answer later,
    parser.run reading = .ok (answer, later) → reading.rest <:+ rest → later.rest <:+ rest

namespace StaysWithin

variable {rest : List Lexeme}

theorem bind
    {first : Parser α}
    {next : α → Parser β}
    (firstStays : StaysWithin rest first)
    (nextStays : ∀ answer, StaysWithin rest (next answer)) :
    StaysWithin rest (first >>= next) := by
  intro reading answer later succeeds within
  obtain ⟨value, between, ofFirst, ofNext⟩ := run_bind_eq_ok_iff.mp succeeds
  exact nextStays value _ _ _ ofNext (firstStays _ _ _ ofFirst within)

theorem set
    {reading : Reading}
    (within : reading.rest <:+ rest) :
    StaysWithin rest (MonadStateOf.set reading : Parser PUnit) := by
  rintro _ _ _ ⟨⟩ _
  exact within

end StaysWithin

theorem Shortens.staysWithin
    {parser : Parser α}
    (shortens : Shortens parser)
    (rest : List Lexeme) :
    StaysWithin rest parser :=
  fun reading answer later succeeds within => (shortens reading answer later succeeds).trans within

theorem Shortens.get_bind_of_staysWithin
    {next : Reading → Parser α}
    (nextStays : ∀ reading, StaysWithin reading.rest (next reading)) :
    Shortens (get >>= next) :=
  fun reading answer later succeeds =>
    nextStays reading reading answer later succeeds List.suffix_rfl

theorem Follows.get_bind
    {pair : SourcePair}
    {related : α → α → Prop}
    {reading reading' : Reading}
    {next next' : Reading → Parser α}
    (follows : Follows pair related reading reading' (next reading) (next' reading')) :
    Follows pair related reading reading' (get >>= next) (get >>= next') :=
  follows

/-- A step that spares the parenthesis stays before it, whatever comes after the step. -/
theorem Follows.bind_of_spares
    {pair : SourcePair}
    {related : β → β → Prop}
    {front : List Lexeme}
    {reading reading' : Reading}
    {first : Parser α}
    {next next' : α → Parser β}
    (alike : pair.Alike front reading reading')
    (spares : Spares first)
    (tracks : Tracks pair Eq first first)
    (nextFollows :
      ∀ answer later later' front,
        pair.Alike front later later' →
          Follows pair related later later' (next answer) (next' answer)) :
    Follows pair related reading reading' (first >>= next) (first >>= next') := by
  intro answer later succeeds stays
  obtain ⟨value, between, ofFirst, ofNext⟩ := run_bind_eq_ok_iff.mp succeeds
  have staysBetween : .plain ')' :: pair.firstTail <:+ between.rest :=
    spares _ _ _ _ ofFirst (alike.firstRest ▸ List.suffix_append _ _)
  obtain ⟨_, between', front, ofSecond, rfl, alikeBetween⟩ :=
    tracks.follows _ _ _ alike value between ofFirst staysBetween
  obtain ⟨answer', later', front', ofNext', isRelated, alikeLater⟩ :=
    nextFollows value between between' front alikeBetween answer later ofNext stays
  exact
    ⟨answer', later', front', run_bind_eq_ok_iff.mpr ⟨value, between', ofSecond, ofNext'⟩,
      isRelated, alikeLater⟩

/-- A step that never succeeds. -/
def Refuses (parser : Parser α) : Prop :=
  ∀ reading answer later, parser.run reading ≠ .ok (answer, later)

theorem Refuses.failBefore
    (defect : Defect)
    (remaining : Nat) :
    Refuses (Parser.failBefore defect remaining : Parser α) := by
  intro reading answer later succeeds
  rw [Parser.failBefore, run_throw] at succeeds
  cases succeeds

theorem Refuses.bind
    {next : α → Parser β}
    (refuses : ∀ answer, Refuses (next answer))
    (first : Parser α) :
    Refuses (first >>= next) := by
  intro reading answer later succeeds
  obtain ⟨value, between, _, ofNext⟩ := run_bind_eq_ok_iff.mp succeeds
  exact refuses value between answer later ofNext

namespace Tracks

variable {pair : SourcePair} {related : α → α → Prop} {flags flags' : Flags}

theorem staysWithin
    {first second : Parser α}
    (tracks : Tracks pair related first second)
    (rest : List Lexeme) :
    StaysWithin rest first :=
  tracks.shortens.staysWithin rest

/-- Anything tracks a step that never succeeds. -/
theorem of_refuses
    {first : Parser α}
    (refuses : Refuses first)
    (second : Parser α) :
    Tracks pair related first second where
  shortens reading answer later succeeds := (refuses reading answer later succeeds).elim
  follows _ reading _ _ := .of_fails (refuses reading)

/-! ## Sets -/

theorem setMember
    (lexeme : Lexeme) :
    Tracks pair Eq (Parser.setMember lexeme) (Parser.setMember lexeme) := by
  unfold Parser.setMember
  split
  · refine (setEscape _).bind_eq fun found => ?_
    split <;> exact .pure rfl
  · exact .pure rfl
  · exact .pure rfl

theorem setMembers
    (start start' : Nat)
    (members : List Member)
    (limit : Nat) :
    Tracks pair Eq
      (Parser.setMembers start members limit) (Parser.setMembers start' members limit) := by
  induction limit generalizing members with
  | zero =>
      exact .failBefore _ _ _
  | succ limit inductionHypothesis =>
      simp only [Parser.setMembers]
      refine take.bind_eq fun next => ?_
      split
      · exact .failBefore _ _ _
      · split
        · exact .pure rfl
        · refine (setMember _).bind_eq fun first => (accept _).bind_eq fun isRange => ?_
          split
          · refine take.bind_eq fun next => ?_
            split
            · exact .failBefore _ _ _
            · exact .pure rfl
            · refine (setMember _).bind_eq fun last => ?_
              split
              · split
                · exact .fail _ _ _
                · exact inductionHypothesis _
              · exact .fail _ _ _
          · exact inductionHypothesis _

end Tracks

/-- The bounds from the least one and the digits of the other. -/
def boundsFrom (least : Nat) (high : List Char) (before : Nat) :
    Parser (Option (Nat × Option Nat)) := do
  if high.isEmpty then
    return some (least, none)
  let most ← bound high
  if most < least then
    failBefore .crossedBounds before
  return some (least, some most)

/-- The bounds of a repetition by their digits; `before` characters followed the brace. -/
def boundsOf (low high : List Char) (before : Nat) : Parser (Option (Nat × Option Nat)) :=
  if low.isEmpty then boundsFrom 0 high before
  else bound low >>= fun least => boundsFrom least high before

/-- The bounds after their digits, or a brace that was an ordinary character after all. -/
def boundsUpToBrace (before : Reading) (low high : List Char) :
    Parser (Option (Nat × Option Nat)) := do
  if ← accept '\x7d' then
    boundsOf low high before.remaining
  else
    set before
    return none

theorem ignoresLimit_setMembers
    (start : Nat)
    (members : List Member) :
    IgnoresLimit (setMembers start members) := by
  refine
    ignoresLimit_of_round (setMembers start)
      (fun members reading limit limit' agree => ?_) members
  have memberShortens (lexeme : Lexeme) : Shortens (setMember lexeme) :=
    (Tracks.setMember lexeme : Tracks ⟨[], [], {}, True⟩ Eq _ _).shortens
  have acceptShortens : Shortens (accept '-') :=
    (Tracks.accept '-' : Tracks ⟨[], [], {}, True⟩ Eq _ _).shortens
  simp only [setMembers]
  refine run_bind_congr fun next later taken => ?_
  split
  · rfl
  · have shorter := length_rest_lt_of_take taken
    split
    · rfl
    · refine run_bind_congr fun first later ofFirst => ?_
      have noLonger := (memberShortens _ _ _ _ ofFirst).length_le
      refine run_bind_congr fun isRange later accepted => ?_
      have noLonger := (acceptShortens _ _ _ accepted).length_le
      split
      · refine run_bind_congr fun next later taken => ?_
        split
        · rfl
        · rfl
        · have shorter := length_rest_lt_of_take taken
          refine run_bind_congr fun last later ofLast => ?_
          have noLonger := (memberShortens _ _ _ _ ofLast).length_le
          split
          · split
            · rfl
            · exact agree _ _ (by omega)
          · rfl
      · exact agree _ _ (by omega)

namespace Tracks

variable {pair : SourcePair} {related : α → α → Prop} {flags flags' : Flags}

theorem setPiece
    (alike : Flags.Alike pair.sameTrees flags flags') :
    Tracks pair (Piece.Alike pair.sameTrees) (Parser.setPiece flags) (Parser.setPiece flags') := by
  refine remaining.bind (fun _ => trivial) fun here here' _ => (accept _).bind_eq fun negated => ?_
  refine
    limited_bind (ignoresLimit_setMembers _ _) (ignoresLimit_setMembers _ _)
      (setMembers _ _ []) fun members => ?_
  split
  · exact .pure (characterPiece_alike alike _)
  · exact .pure (characterPiece_alike alike _)

/-! ## Repetitions -/

theorem bound
    (digits : List Char) :
    Tracks pair Eq (Parser.bound digits) (Parser.bound digits) := by
  unfold Parser.bound
  simp only
  split
  · exact (throw _ _).bind_eq fun _ => by
      split
      · exact (throw _ _).bind_eq fun _ => .pure rfl
      · exact .pure rfl
  · split
    · exact (throw _ _).bind_eq fun _ => .pure rfl
    · exact .pure rfl

theorem boundsFrom
    (least : Nat)
    (high : List Char)
    (before before' : Nat) :
    Tracks pair Eq
      (Parser.boundsFrom least high before) (Parser.boundsFrom least high before') := by
  simp only [Parser.boundsFrom, failBefore_bind]
  split
  · exact .pure rfl
  · refine (bound high).bind_eq fun most => ?_
    split
    · exact .failBefore _ _ _
    · exact .pure rfl

theorem boundsOf
    (low high : List Char)
    (before before' : Nat) :
    Tracks pair Eq (Parser.boundsOf low high before) (Parser.boundsOf low high before') := by
  unfold Parser.boundsOf
  split
  · exact boundsFrom 0 high before before'
  · exact (bound low).bind_eq fun least => boundsFrom least high before before'

theorem staysWithin_boundsUpToBrace
    (before : Reading)
    (low high : List Char) :
    StaysWithin before.rest (boundsUpToBrace before low high) := by
  refine (accept _ : Tracks ⟨[], [], {}, True⟩ Eq _ _).staysWithin _ |>.bind fun closes => ?_
  split
  · exact (boundsOf low high _ 0 : Tracks ⟨[], [], {}, True⟩ Eq _ _).staysWithin _
  · exact (StaysWithin.set List.suffix_rfl).bind fun _ => (Shortens.pure _).staysWithin _

theorem follows_boundsUpToBrace
    {before before' later later' : Reading}
    {front frontLater : List Lexeme}
    (alike : pair.Alike front before before')
    (alikeLater : pair.Alike frontLater later later')
    (low high : List Char) :
    Follows pair Eq later later'
      (boundsUpToBrace before low high) (boundsUpToBrace before' low high) := by
  refine .bind_of_spares alikeLater (.accept (by decide)) (accept _) ?_
  intro closes _ _ _ alikeClosed
  split
  · exact (boundsOf low high _ _).follows _ _ _ alikeClosed
  · exact .of_succeeds rfl rfl rfl alike

theorem bracedBounds :
    Tracks pair Eq Parser.bracedBounds Parser.bracedBounds where
  shortens := by
    refine .get_bind_of_staysWithin fun before => ?_
    refine (peek : Tracks pair Eq _ _).staysWithin _ |>.bind fun next => ?_
    split
    · exact (Shortens.pure _).staysWithin _
    · refine (takeWhole _ : Tracks pair Eq _ _).staysWithin _ |>.bind fun low => ?_
      refine (accept _ : Tracks pair Eq _ _).staysWithin _ |>.bind fun hasComma => ?_
      have closes := staysWithin_boundsUpToBrace before low
      simp only
      split
      · exact (takeWhole _ : Tracks pair Eq _ _).staysWithin _ |>.bind closes
      · exact (Shortens.pure _).staysWithin _ |>.bind closes
  follows front before before' alike := by
    have outside : Text.isPlainDigit ')' = false := by decide
    refine .get_bind (.bind_of_spares alike .peek peek fun next _ _ _ alikePeeked => ?_)
    split
    · exact .pure alikePeeked rfl
    · refine .bind_of_spares alikePeeked (.takeWhole outside) (takeWhole _) ?_
      intro low _ _ _ alikeLow
      refine .bind_of_spares alikeLow (.accept (by decide)) (accept _) ?_
      intro hasComma _ _ _ alikeComma
      simp only
      split
      · refine .bind_of_spares alikeComma (.takeWhole outside) (takeWhole _) ?_
        intro high _ _ _ alikeHigh
        exact follows_boundsUpToBrace alike alikeHigh low high
      · exact follows_boundsUpToBrace alike alikeComma low low

theorem bounds
    (mark : Char) :
    Tracks pair Eq (Parser.bounds mark) (Parser.bounds mark) := by
  unfold Parser.bounds
  split
  · exact .pure rfl
  · exact .pure rfl
  · exact .pure rfl
  · exact bracedBounds

theorem eagerness :
    Tracks pair Eq Parser.eagerness Parser.eagerness := by
  refine (accept _).bind_eq fun isLazy => ?_
  split
  · exact .pure rfl
  · refine (accept _).bind_eq fun isPossessive => ?_
    split <;> exact .pure rfl

theorem repeatLast
    (alike : Flags.Alike pair.sameTrees flags flags')
    (mark : Char)
    {pieces pieces' : List Piece}
    (piecesAlike : List.Forall₂ (Piece.Alike pair.sameTrees) pieces pieces') :
    Tracks pair (List.Forall₂ (Piece.Alike pair.sameTrees))
      (Parser.repeatLast flags mark pieces) (Parser.repeatLast flags' mark pieces') := by
  refine remaining.bind (fun _ => trivial) fun here here' _ => (bounds _).bind_eq fun found => ?_
  split
  · exact .pure (.cons (characterPiece_alike alike _) piecesAlike)
  · cases piecesAlike with
    | nil =>
        exact .failBefore _ _ _
    | cons lastAlike earlierAlike =>
        simp only [lastAlike.role]
        split
        · exact .failBefore _ _ _
        · exact .failBefore _ _ _
        · refine eagerness.bind_eq fun eagerness => .pure (.cons ⟨?_, rfl, fun wanted => ?_⟩ ?_)
          · simp only [lastAlike.width]
          · simp only [lastAlike.tree wanted]
          · exact earlierAlike

end Tracks
end Parser
end ProseRules.Regex
