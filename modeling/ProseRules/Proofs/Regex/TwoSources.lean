import ProseRules.Proofs.Outcome
import ProseRules.Proofs.Regex.LiteralSource

namespace ProseRules.Regex

/-!
# Two sources that agree up to a closing parenthesis

A source is read from left to right, and no step looks further than it has to. So where reading
stops before a closing parenthesis, it stops there whatever comes after the parenthesis.
`Parser.Tracks` says so of one step: if the first of two readings stays in the part that both
sources share, the second one goes on in the same way.
-/

/-- Two sources that agree up to a closing parenthesis, and how they are read. -/
structure SourcePair where
  /-- What comes after the parenthesis in the first source. -/
  firstTail : List Lexeme
  /-- What comes after the parenthesis in the second source. -/
  secondTail : List Lexeme
  /-- The flags of the second expression as a whole. -/
  secondFlags : Flags
  /-- Both are read under the same flags, so their trees are the same. -/
  sameTrees : Prop

/--
Two readings stand at the same place before the parenthesis, with the same lexemes in front of
it, and know of the same groups.
-/
structure SourcePair.Alike
    (pair : SourcePair)
    (front : List Lexeme)
    (first second : Reading) :
    Prop where
  firstRest : first.rest = front ++ .plain ')' :: pair.firstTail
  secondRest : second.rest = front ++ .plain ')' :: pair.secondTail
  flags : second.flags = pair.secondFlags
  names : first.names = second.names
  widths : first.widths = second.widths
  lookbehindGroups : first.lookbehindGroups = second.lookbehindGroups
  awaited : first.awaited.map Prod.fst = second.awaited.map Prod.fst

namespace SourcePair.Alike

variable {pair : SourcePair} {front : List Lexeme} {first second : Reading}

theorem groupCount
    (alike : pair.Alike front first second) :
    first.groupCount = second.groupCount := by
  rw [Reading.groupCount, alike.widths, Reading.groupCount]

theorem closedWidth?
    (alike : pair.Alike front first second)
    (group : Nat) :
    first.closedWidth? group = second.closedWidth? group := by
  rw [Reading.closedWidth?, alike.widths, Reading.closedWidth?]

/-- The same groups are awaited, even if from different places. -/
theorem isSome_lookup_awaited
    (alike : pair.Alike front first second)
    (group : Nat) :
    (first.awaited.lookup group).isSome = (second.awaited.lookup group).isSome := by
  have isListed (awaited : List (Nat × Nat)) :
      (awaited.lookup group).isSome = true ↔ group ∈ awaited.map Prod.fst := by
    rw [List.lookup_isSome_iff, List.mem_map]
    exact exists_congr fun entry => and_congr_right fun _ => beq_iff_eq.trans eq_comm
  rw [Bool.eq_iff_iff, isListed, isListed, alike.awaited]

/-- Nothing stands in front of a reading that has come to the parenthesis. -/
theorem front_eq_nil
    (alike : pair.Alike front first second)
    (stops : first.rest = .plain ')' :: pair.firstTail) :
    front = [] := by
  have same := alike.firstRest.symm.trans stops
  simpa using same

end SourcePair.Alike

namespace Parser

variable {α β : Type}

/-- A step after another one succeeds exactly if both succeed. -/
theorem run_bind_eq_ok_iff
    {first : Parser α}
    {next : α → Parser β}
    {reading : Reading}
    {outcome : β × Reading} :
    (first >>= next).run reading = .ok outcome ↔
      ∃ answer later,
        first.run reading = .ok (answer, later) ∧ (next answer).run later = .ok outcome := by
  rw [StateT.run_bind, Outcome.bind_eq_ok_iff]
  exact Prod.exists

/-- Steps agree if they begin alike and agree wherever that leads to. -/
theorem run_bind_eq_of_eq
    {first first' : Parser α}
    {next next' : α → Parser β}
    {reading : Reading}
    (sameFirst : first.run reading = first'.run reading)
    (agree :
      ∀ answer later,
        first'.run reading = .ok (answer, later) →
          (next answer).run later = (next' answer).run later) :
    (first >>= next).run reading = (first' >>= next').run reading := by
  rw [StateT.run_bind, StateT.run_bind, sameFirst]
  cases ran : first'.run reading with
  | error => rfl
  | ok outcome => exact agree outcome.1 outcome.2 ran

/-- Steps after the same step agree if they agree wherever it leads to. -/
theorem run_bind_congr
    {first : Parser α}
    {next next' : α → Parser β}
    {reading : Reading}
    (agree :
      ∀ answer later,
        first.run reading = .ok (answer, later) →
          (next answer).run later = (next' answer).run later) :
    (first >>= next).run reading = (first >>= next').run reading :=
  run_bind_eq_of_eq rfl agree

/-- Nothing comes after a step that fails. -/
theorem fail_bind
    (defect : Defect)
    (back : Nat)
    (next : α → Parser β) :
    (fail defect back >>= next) = fail defect back :=
  rfl

/-- Nothing comes after a step that fails at a known place. -/
theorem failBefore_bind
    (defect : Defect)
    (remaining : Nat)
    (next : α → Parser β) :
    (failBefore defect remaining >>= next) = failBefore defect remaining :=
  rfl

theorem run_throw
    (flaw : Flaw)
    (reading : Reading) :
    (throw flaw : Parser α).run reading = .error flaw :=
  rfl

/-- Taking answers nothing at the end, and the next lexeme unless a lone backslash is after it. -/
theorem run_take_eq_ok_iff
    {reading later : Reading}
    {answer : Option Lexeme} :
    take.run reading = .ok (answer, later) ↔
      (reading.rest = [] ∧ answer = none ∧ later = reading) ∨
        ∃ lexeme rest,
          reading.rest = lexeme :: rest ∧
            rest ≠ [.dangling] ∧ answer = some lexeme ∧ later = { reading with rest := rest } := by
  obtain ⟨lexemes, flags, names, widths, lookbehindGroups, awaited⟩ := reading
  rcases lexemes with _ | ⟨lexeme, rest⟩
  · constructor
    · rintro ⟨⟩
      exact .inl ⟨rfl, rfl, rfl⟩
    · rintro (⟨-, rfl, rfl⟩ | ⟨_, _, isCons, _⟩)
      · rfl
      · cases isCons
  · by_cases noDangling : rest = [.dangling]
    · subst noDangling
      constructor
      · rintro ⟨⟩
      · rintro (⟨isNil, -⟩ | ⟨_, _, isCons, notDangling, _⟩)
        · cases isNil
        · cases isCons
          exact (notDangling rfl).elim
    · rw [run_take rfl noDangling]
      constructor
      · rintro ⟨⟩
        exact .inr ⟨_, _, rfl, noDangling, rfl, rfl⟩
      · rintro (⟨isNil, -⟩ | ⟨_, _, isCons, _, rfl, rfl⟩)
        · cases isNil
        · cases isCons
          rfl

/-- A character that was accepted came next. -/
theorem rest_of_accept
    {character : Char}
    {reading later : Reading}
    (accepted : (accept character).run reading = .ok (true, later)) :
    ∃ rest,
      reading.rest = .plain character :: rest ∧
        rest ≠ [.dangling] ∧ later = { reading with rest := rest } := by
  obtain ⟨next, _, peeked, accepted⟩ := run_bind_eq_ok_iff.mp accepted
  obtain ⟨rfl, rfl⟩ := Prod.mk.inj (Except.ok.inj peeked)
  split at accepted
  · rename_i comesNext
    obtain ⟨answer, between, taken, ended⟩ := run_bind_eq_ok_iff.mp accepted
    obtain ⟨-, rfl⟩ := Prod.mk.inj (Except.ok.inj ended)
    rcases run_take_eq_ok_iff.mp taken with ⟨isNil, _⟩ | ⟨lexeme, rest, isCons, noDangling, _, rfl⟩
    · simp [isNil] at comesNext
    · rw [isCons] at comesNext
      cases comesNext
      exact ⟨rest, isCons, noDangling, rfl⟩
  · cases accepted

/-- A lexeme that was taken does not follow any more. -/
theorem length_rest_lt_of_take
    {reading later : Reading}
    {lexeme : Lexeme}
    (taken : take.run reading = .ok (some lexeme, later)) :
    later.rest.length < reading.rest.length := by
  rcases run_take_eq_ok_iff.mp taken with ⟨_, isNone, _⟩ | ⟨_, rest, isCons, _, _, rfl⟩
  · cases isNone
  · simp [isCons]

/-- Where a lexeme comes next, taking leaves less. -/
theorem length_rest_lt_of_take_of_next
    {reading later : Reading}
    {next : Lexeme}
    {answer : Option Lexeme}
    (comesNext : reading.rest.head? = some next)
    (taken : take.run reading = .ok (answer, later)) :
    later.rest.length < reading.rest.length := by
  rcases run_take_eq_ok_iff.mp taken with ⟨isNil, _⟩ | ⟨_, rest, isCons, _, _, rfl⟩
  · simp [isNil] at comesNext
  · simp [isCons]

/-- A limit above the number of lexemes that follow is never reached. -/
def IgnoresLimit (step : Nat → Parser α) : Prop :=
  ∀ reading limit limit',
    reading.rest.length < limit →
      reading.rest.length < limit' → (step limit).run reading = (step limit').run reading

/-- A limit is never reached if each round that goes on with one limit less took a lexeme. -/
theorem ignoresLimit_of_round
    {Found : Type}
    (step : Found → Nat → Parser α)
    (round :
      ∀ found reading limit limit',
        (∀ more later,
            later.rest.length < reading.rest.length →
              (step more limit).run later = (step more limit').run later) →
          (step found (limit + 1)).run reading = (step found (limit' + 1)).run reading)
    (found : Found) :
    IgnoresLimit (step found) := by
  intro reading limit
  induction limit generalizing reading found with
  | zero =>
      intro _ below
      exact absurd below (Nat.not_lt_zero _)
  | succ limit inductionHypothesis =>
      rintro (_ | limit') below below'
      · exact absurd below' (Nat.not_lt_zero _)
      · exact round found reading limit limit' fun more later shorter =>
          inductionHypothesis more later limit' (by omega) (by omega)

/-- A step leaves an end of what it finds. -/
def Shortens (parser : Parser α) : Prop :=
  ∀ reading answer later, parser.run reading = .ok (answer, later) → later.rest <:+ reading.rest

namespace Shortens

theorem pure
    (answer : α) :
    Shortens (Pure.pure answer : Parser α) := by
  rintro reading _ _ ⟨⟩
  exact List.suffix_rfl

theorem bind
    {first : Parser α}
    {next : α → Parser β}
    (firstShortens : Shortens first)
    (nextShortens : ∀ answer, Shortens (next answer)) :
    Shortens (first >>= next) := by
  intro reading answer later succeeds
  obtain ⟨value, between, ofFirst, ofNext⟩ := run_bind_eq_ok_iff.mp succeeds
  exact (nextShortens value _ _ _ ofNext).trans (firstShortens _ _ _ ofFirst)

theorem get_bind
    {next : Reading → Parser β}
    (nextShortens : ∀ reading, Shortens (next reading)) :
    Shortens (get >>= next) := by
  refine bind ?_ nextShortens
  rintro reading _ _ ⟨⟩
  exact List.suffix_rfl

theorem throw
    (flaw : Flaw) :
    Shortens (MonadExcept.throw flaw : Parser α) := by
  intro reading answer later succeeds
  rw [run_throw] at succeeds
  cases succeeds

theorem fail
    (defect : Defect)
    (back : Nat) :
    Shortens (Parser.fail defect back : Parser α) :=
  get_bind fun _ => throw _

theorem modify
    {change : Reading → Reading}
    (keepsRest : ∀ reading, (change reading).rest = reading.rest) :
    Shortens (modify change) := by
  rintro reading _ _ ⟨⟩
  exact (keepsRest reading).symm ▸ List.suffix_rfl

theorem take :
    Shortens Parser.take := by
  intro reading answer later succeeds
  rcases run_take_eq_ok_iff.mp succeeds with ⟨_, _, rfl⟩ | ⟨lexeme, rest, isCons, _, _, rfl⟩
  · exact List.suffix_rfl
  · rw [isCons]
    exact List.suffix_cons lexeme rest

end Shortens

/--
If the first step stays before the parenthesis, the second one succeeds with a related answer
and stays before it too.
-/
def Follows
    (pair : SourcePair)
    (related : α → α → Prop)
    (reading reading' : Reading)
    (first second : Parser α) :
    Prop :=
  ∀ answer later,
    first.run reading = .ok (answer, later) →
      .plain ')' :: pair.firstTail <:+ later.rest →
        ∃ answer' later' front,
          second.run reading' = .ok (answer', later') ∧
            related answer answer' ∧ pair.Alike front later later'

/-- One step follows another one from wherever both stand at the same place. -/
structure Tracks
    (pair : SourcePair)
    (related : α → α → Prop)
    (first second : Parser α) :
    Prop where
  shortens : Shortens first
  follows :
    ∀ front reading reading',
      pair.Alike front reading reading' → Follows pair related reading reading' first second

namespace Follows

variable {pair : SourcePair} {related : α → α → Prop} {relatedNext : β → β → Prop}
  {front : List Lexeme} {reading reading' : Reading}

/-- Steps after one another follow each other if both do. -/
theorem bind
    {first second : Parser α}
    {next next' : α → Parser β}
    (firstFollows : Follows pair related reading reading' first second)
    (nextShortens : ∀ answer, Shortens (next answer))
    (nextFollows :
      ∀ answer answer' later later' front,
        related answer answer' →
          pair.Alike front later later' →
            Follows pair relatedNext later later' (next answer) (next' answer')) :
    Follows pair relatedNext reading reading' (first >>= next) (second >>= next') := by
  intro answer later succeeds stays
  obtain ⟨value, between, ofFirst, ofNext⟩ := run_bind_eq_ok_iff.mp succeeds
  have staysBetween := stays.trans (nextShortens value _ _ _ ofNext)
  obtain ⟨value', between', front, ofSecond, isRelated, alikeBetween⟩ :=
    firstFollows value between ofFirst staysBetween
  obtain ⟨answer', later', front', ofNext', isRelatedNext, alikeLater⟩ :=
    nextFollows value value' between between' front isRelated alikeBetween answer later ofNext stays
  exact
    ⟨answer', later', front', run_bind_eq_ok_iff.mpr ⟨value', between', ofSecond, ofNext'⟩,
      isRelatedNext, alikeLater⟩

/-- Only what the steps do in the two readings matters. -/
theorem congr
    {first first' second second' : Parser α}
    (sameFirst : first.run reading = first'.run reading)
    (sameSecond : second.run reading' = second'.run reading')
    (follows : Follows pair related reading reading' first' second') :
    Follows pair related reading reading' first second := by
  intro answer later succeeds stays
  rw [sameFirst] at succeeds
  rw [sameSecond]
  exact follows answer later succeeds stays

/-- A first step that takes the parenthesis does not stay before it. -/
theorem take
    (alike : pair.Alike front reading reading') :
    Follows pair Eq reading reading' Parser.take Parser.take := by
  intro answer later taken stays
  rcases run_take_eq_ok_iff.mp taken with ⟨atEnd, _⟩ | ⟨lexeme, rest, isCons, _, rfl, rfl⟩
  · simp [alike.firstRest] at atEnd
  · rw [alike.firstRest] at isCons
    cases front with
    | nil =>
        cases isCons
        exact absurd stays.length_le (by simp)
    | cons found front =>
        obtain ⟨rfl, rfl⟩ := List.cons.inj isCons
        have secondTaken :
            Parser.take.run reading' =
              .ok (some found,
                { reading' with rest := front ++ .plain ')' :: pair.secondTail }) :=
          run_take alike.secondRest (by cases front <;> simp)
        exact
          ⟨some found, _, front, secondTaken, rfl, rfl, rfl, alike.flags, alike.names,
            alike.widths, alike.lookbehindGroups, alike.awaited⟩

/-- Nothing follows from a first step that fails. -/
theorem of_fails
    {first second : Parser α}
    (fails : ∀ answer later, first.run reading ≠ .ok (answer, later)) :
    Follows pair related reading reading' first second :=
  fun answer later succeeds => (fails answer later succeeds).elim

/-- Steps that succeed follow each other if they answer and end alike. -/
theorem of_succeeds
    {first second : Parser α}
    {answer answer' : α}
    {later later' : Reading}
    (succeeds : first.run reading = .ok (answer, later))
    (succeeds' : second.run reading' = .ok (answer', later'))
    (isRelated : related answer answer')
    (alike : pair.Alike front later later') :
    Follows pair related reading reading' first second := by
  intro _ _ ran _
  obtain ⟨rfl, rfl⟩ := Prod.mk.inj (Except.ok.inj (succeeds.symm.trans ran))
  exact ⟨answer', later', front, succeeds', isRelated, alike⟩

theorem pure
    (alike : pair.Alike front reading reading')
    {answer answer' : α}
    (isRelated : related answer answer') :
    Follows pair related reading reading' (Pure.pure answer) (Pure.pure answer') :=
  .of_succeeds rfl rfl isRelated alike

end Follows

namespace Tracks

variable {pair : SourcePair} {related : α → α → Prop} {relatedNext : β → β → Prop}

theorem pure
    {answer answer' : α}
    (isRelated : related answer answer') :
    Tracks pair related (Pure.pure answer) (Pure.pure answer') where
  shortens := .pure answer
  follows _ _ _ alike := .pure alike isRelated

theorem throw
    (flaw : Flaw)
    (second : Parser α) :
    Tracks pair related (MonadExcept.throw flaw) second where
  shortens := .throw flaw
  follows _ reading _ _ := .of_fails fun answer later succeeds => by
    rw [run_throw] at succeeds
    cases succeeds

theorem fail
    (defect : Defect)
    (back : Nat)
    (second : Parser α) :
    Tracks pair related (Parser.fail defect back) second where
  shortens := .fail defect back
  follows _ _ _ _ := .of_fails nofun

theorem failBefore
    (defect : Defect)
    (remaining : Nat)
    (second : Parser α) :
    Tracks pair related (Parser.failBefore defect remaining) second :=
  throw _ second

theorem bind
    {first second : Parser α}
    {next next' : α → Parser β}
    (reflexive : ∀ answer, related answer answer)
    (firstTracks : Tracks pair related first second)
    (nextTracks :
      ∀ answer answer',
        related answer answer' → Tracks pair relatedNext (next answer) (next' answer')) :
    Tracks pair relatedNext (first >>= next) (second >>= next') where
  shortens :=
    firstTracks.shortens.bind fun answer => (nextTracks answer answer (reflexive answer)).shortens
  follows _ _ _ alike :=
    .bind (firstTracks.follows _ _ _ alike)
      (fun answer => (nextTracks answer answer (reflexive answer)).shortens)
      fun answer answer' _ _ _ isRelated alikeLater =>
        (nextTracks answer answer' isRelated).follows _ _ _ alikeLater

/-- Steps whose answers agree are followed by the same step. -/
theorem bind_eq
    {first second : Parser α}
    {next next' : α → Parser β}
    (firstTracks : Tracks pair Eq first second)
    (nextTracks : ∀ answer, Tracks pair relatedNext (next answer) (next' answer)) :
    Tracks pair relatedNext (first >>= next) (second >>= next') :=
  bind (fun _ => rfl) firstTracks fun answer _ same => same ▸ nextTracks answer

/-- What is known of the readings can be used. -/
theorem get_bind
    {next next' : Reading → Parser β}
    (nextShortens : ∀ reading, Shortens (next reading))
    (nextFollows :
      ∀ front reading reading',
        pair.Alike front reading reading' →
          Follows pair relatedNext reading reading' (next reading) (next' reading')) :
    Tracks pair relatedNext (get >>= next) (get >>= next') where
  shortens := .get_bind nextShortens
  follows front reading reading' alike := nextFollows front reading reading' alike

/-- What readings at the same place do not share must not matter. -/
theorem get_bind_of_eq
    {next next' : Reading → Parser β}
    (nextTracks : ∀ reading, Tracks pair relatedNext (next reading) (next' reading))
    (sees :
      ∀ front reading reading',
        pair.Alike front reading reading' → next' reading = next' reading') :
    Tracks pair relatedNext (get >>= next) (get >>= next') :=
  get_bind (fun reading => (nextTracks reading).shortens) fun front reading reading' alike =>
    sees front reading reading' alike ▸ (nextTracks reading).follows front reading reading' alike

/-- Readings that stand at the same place are changed so that they still do. -/
theorem modify
    {change change' : Reading → Reading}
    (keepsRest : ∀ reading, (change reading).rest = reading.rest)
    (keepsAlike :
      ∀ front reading reading',
        pair.Alike front reading reading' →
          pair.Alike front (change reading) (change' reading')) :
    Tracks pair Eq (modify change) (modify change') where
  shortens := .modify keepsRest
  follows front reading reading' alike :=
    .of_succeeds rfl rfl rfl (keepsAlike front reading reading' alike)

/-- A step with a limit may take the number of lexemes that follow for it. -/
theorem limited
    {step step' : Nat → Parser α}
    (ignores : IgnoresLimit step)
    (ignores' : IgnoresLimit step')
    (tracks : ∀ limit, Tracks pair related (step limit) (step' limit)) :
    Tracks pair related
      (get >>= fun reading => step (reading.rest.length + 1))
      (get >>= fun reading => step' (reading.rest.length + 1)) := by
  refine get_bind (fun _ => (tracks _).shortens) fun front reading reading' alike => ?_
  have common := Nat.lt_succ_of_le (Nat.le_max_left reading.rest.length reading'.rest.length)
  have common' := Nat.lt_succ_of_le (Nat.le_max_right reading.rest.length reading'.rest.length)
  exact
    .congr (ignores reading _ _ (Nat.lt_succ_self _) common)
      (ignores' reading' _ _ (Nat.lt_succ_self _) common')
      ((tracks _).follows front reading reading' alike)

/-- Whatever comes after a step with such a limit may go on. -/
theorem limited_bind
    {step step' : Nat → Parser α}
    {next next' : α → Parser β}
    (ignores : IgnoresLimit step)
    (ignores' : IgnoresLimit step')
    (tracks : ∀ limit, Tracks pair Eq (step limit) (step' limit))
    (nextTracks : ∀ answer, Tracks pair relatedNext (next answer) (next' answer)) :
    Tracks pair relatedNext
      (get >>= fun reading => step (reading.rest.length + 1) >>= next)
      (get >>= fun reading => step' (reading.rest.length + 1) >>= next') := by
  have together := (limited ignores ignores' tracks).bind_eq nextTracks
  rwa [bind_assoc, bind_assoc] at together

theorem take :
    Tracks pair Eq Parser.take Parser.take where
  shortens := .take
  follows _ _ _ alike := .take alike

theorem remaining :
    Tracks pair (fun _ _ => True) Parser.remaining Parser.remaining :=
  get_bind (fun _ => .pure _) fun _ _ _ alike => .pure alike trivial

theorem peek :
    Tracks pair Eq Parser.peek Parser.peek := by
  refine get_bind (fun _ => .pure _) fun front _ _ alike => .pure alike ?_
  rw [alike.firstRest, alike.secondRest]
  cases front <;> rfl

theorem accept
    (character : Char) :
    Tracks pair Eq (Parser.accept character) (Parser.accept character) := by
  refine peek.bind_eq fun next => ?_
  split
  · exact take.bind_eq fun _ => .pure rfl
  · exact .pure rfl

end Tracks

end Parser

end ProseRules.Regex
