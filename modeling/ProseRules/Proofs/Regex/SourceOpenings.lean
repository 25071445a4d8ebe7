import ProseRules.Proofs.Regex.SourceParts

namespace ProseRules.Regex

/-!
# The beginnings and ends of groups on two sources

What comes after an opening parenthesis tracks itself as well. Flags of the whole expression are
the exception: inside of a group they are refused, so nothing has to follow them.
-/

namespace Parser

variable {α β : Type}

/-- Openings that differ in the pieces they contribute at most. -/
inductive Opening.Alike (sameTrees : Prop) : Opening → Opening → Prop where
  | same (opening : Opening) : Alike sameTrees opening opening
  | complete {pieces pieces' : List Piece} :
      List.Forall₂ (Piece.Alike sameTrees) pieces pieces' →
        Alike sameTrees (.complete pieces) (.complete pieces')

theorem ignoresLimit_skipPast
    (character : Char) :
    IgnoresLimit (skipPast character) := by
  refine
    ignoresLimit_of_round (fun _ : Unit => skipPast character)
      (fun _ reading limit limit' agree => ?_) ()
  refine run_bind_congr fun next later taken => ?_
  split
  · rfl
  · split
    · rfl
    · exact agree () _ (length_rest_lt_of_take taken)

theorem ignoresLimit_flagsOn
    (turnedOn : Flags)
    (flag : Flag) :
    IgnoresLimit (flagsOn turnedOn flag) := by
  refine
    ignoresLimit_of_round (fun found : Flags × Flag => flagsOn found.1 found.2)
      (fun found reading limit limit' agree => ?_) (turnedOn, flag)
  simp only [flagsOn, fail_bind]
  split
  · rfl
  · split
    · rfl
    · refine run_bind_congr fun next later taken => ?_
      split
      · rfl
      · split
        · rfl
        · split
          · exact agree (_, _) _ (length_rest_lt_of_take taken)
          · rfl
      · rfl

/-- Flags to turn off are missing at the end. -/
theorem flagsOff_none
    (turnedOff : Flags)
    (missing : Defect)
    (limit : Nat) :
    flagsOff turnedOff none missing limit = fail missing := by
  cases limit <;> rfl

theorem ignoresLimit_flagsOff
    (turnedOff : Flags)
    (lexeme : Option Lexeme)
    (missing : Defect) :
    IgnoresLimit (flagsOff turnedOff lexeme missing) := by
  refine
    ignoresLimit_of_round
      (fun found : Flags × Option Lexeme × Defect => flagsOff found.1 found.2.1 found.2.2)
      (fun found reading limit limit' agree => ?_) (turnedOff, lexeme, missing)
  simp only [flagsOff, fail_bind]
  split
  · rfl
  · split
    · split
      · rfl
      · refine run_bind_congr fun next later taken => ?_
        split
        · rfl
        · cases next with
          | none =>
              rw [flagsOff_none, flagsOff_none]
          | some lexeme =>
              exact agree (_, _, _) _ (length_rest_lt_of_take taken)
    · rfl
  · rfl


namespace Tracks

variable {pair : SourcePair} {related : α → α → Prop} {flags flags' : Flags}

theorem skipPast
    (character : Char)
    (limit : Nat) :
    Tracks pair Eq (Parser.skipPast character limit) (Parser.skipPast character limit) := by
  induction limit with
  | zero =>
      exact .pure rfl
  | succ limit inductionHypothesis =>
      refine take.bind_eq fun next => ?_
      split
      · exact .pure rfl
      · split
        · exact .pure rfl
        · exact inductionHypothesis

theorem flagsOn
    (turnedOn : Flags)
    (flag : Flag)
    (limit : Nat) :
    Tracks pair Eq (Parser.flagsOn turnedOn flag limit) (Parser.flagsOn turnedOn flag limit) := by
  induction limit generalizing turnedOn flag with
  | zero =>
      exact .fail _ _ _
  | succ limit inductionHypothesis =>
      simp only [Parser.flagsOn, fail_bind]
      split
      · exact .fail _ _ _
      · split
        · exact .fail _ _ _
        · refine take.bind_eq fun next => ?_
          split
          · exact .fail _ _ _
          · split
            · exact .pure rfl
            · split
              · exact inductionHypothesis _ _
              · exact .fail _ _ _
          · exact .fail _ _ _

theorem flagsOff
    (turnedOff : Flags)
    (lexeme : Option Lexeme)
    (missing : Defect)
    (limit : Nat) :
    Tracks pair Eq
      (Parser.flagsOff turnedOff lexeme missing limit)
      (Parser.flagsOff turnedOff lexeme missing limit) := by
  induction limit generalizing turnedOff lexeme missing with
  | zero =>
      exact .fail _ _ _
  | succ limit inductionHypothesis =>
      simp only [Parser.flagsOff, fail_bind]
      split
      · exact .fail _ _ _
      · split
        · split
          · exact .fail _ _ _
          · refine take.bind_eq fun next => ?_
            split
            · exact .pure rfl
            · exact inductionHypothesis _ _ _
        · exact .fail _ _ _
      · exact .fail _ _ _

/-! ## Groups -/

theorem openGroup
    (name : Option (List Char)) :
    Tracks pair Eq (Parser.openGroup name) (Parser.openGroup name) where
  shortens := by
    refine .get_bind_of_staysWithin fun reading => ?_
    cases name with
    | none =>
        exact (StaysWithin.set List.suffix_rfl).bind fun _ => (Shortens.pure _).staysWithin _
    | some name =>
        simp only [fail_bind]
        split
        · exact (Shortens.fail _ _).staysWithin _
        · exact (StaysWithin.set List.suffix_rfl).bind fun _ => (Shortens.pure _).staysWithin _
  follows front reading reading' alike := by
    have widths : reading.widths ++ [none] = reading'.widths ++ [none] := by
      rw [alike.widths]
    refine .get_bind ?_
    cases name with
    | none =>
        exact .of_succeeds rfl rfl alike.groupCount { alike with widths := widths }
    | some name =>
        simp only [fail_bind, alike.names, alike.groupCount]
        split
        · exact .of_fails nofun
        · exact .of_succeeds rfl rfl rfl { alike with widths := widths, names := rfl }

theorem closeGroup
    (number : Nat)
    (width : Width) :
    Tracks pair Eq (Parser.closeGroup number width) (Parser.closeGroup number width) :=
  modify (fun _ => rfl) fun _ _ _ alike =>
    { alike with widths := by simp only [alike.widths] }

theorem endGroup
    (start start' : Nat) :
    Tracks pair Eq (Parser.endGroup start) (Parser.endGroup start') := by
  refine (accept _).bind_eq fun closes => ?_
  split
  · exact .pure rfl
  · exact .failBefore _ _ _

theorem namedReference
    (alike : Flags.Alike pair.sameTrees flags flags') :
    Tracks pair (Piece.Alike pair.sameTrees)
      (Parser.namedReference flags) (Parser.namedReference flags') := by
  refine (takeName _ _).bind_eq fun name => (requireName name).bind_eq fun _ => ?_
  refine (groupNamed? name).bind_eq fun found => ?_
  split
  · exact .fail _ _ _
  · refine get_bind_of_eq (fun reading => ?_) fun front reading reading' alikeRead => by
      simp only [alikeRead.closedWidth?]
    simp only [fail_bind]
    split
    · exact .fail _ _ _
    · exact (requireBeforeLookbehind _).bind_eq fun _ => referencePiece alike _

theorem numberedCondition
    (name : List Char) :
    Tracks pair Eq (Parser.numberedCondition name) (Parser.numberedCondition name) := by
  unfold Parser.numberedCondition
  simp only
  split
  · exact .fail _ _ _
  · split
    · exact .fail _ _ _
    · split
      · exact .fail _ _ _
      · split
        · exact .fail _ _ _
        · refine (modify (fun _ => ?_) fun front reading reading' alike => ?_).bind_eq
            fun _ => .pure rfl
          · split <;> rfl
          · simp only [alike.isSome_lookup_awaited]
            split
            · exact alike
            · exact { alike with awaited := by simp only [List.map_append, alike.awaited]; rfl }

theorem condition :
    Tracks pair Eq Parser.condition Parser.condition := by
  refine (takeName _ _).bind_eq fun name => ?_
  have refersBack (group : Nat) :
      Tracks pair Eq
        (do Parser.requireBeforeLookbehind group; return group)
        (do Parser.requireBeforeLookbehind group; return group) :=
    (requireBeforeLookbehind group).bind_eq fun _ => .pure rfl
  simp only [fail_bind]
  split
  · refine (groupNamed? name).bind_eq fun found => ?_
    split
    · exact .fail _ _ _
    · exact (pure rfl).bind_eq refersBack
  · exact (numberedCondition name).bind_eq refersBack

theorem namedOpening
    (alike : Flags.Alike pair.sameTrees flags flags') :
    Tracks pair (Opening.Alike pair.sameTrees)
      (Parser.namedOpening flags) (Parser.namedOpening flags') := by
  refine (accept _).bind_eq fun named => ?_
  split
  · exact (takeName _ _).bind_eq fun name => (requireName name).bind_eq fun _ => .pure (.same _)
  · refine (accept _).bind_eq fun refers => ?_
    split
    · exact (namedReference alike).bind Piece.Alike.refl fun _ _ alikePiece =>
        .pure (.complete (.cons alikePiece .nil))
    · refine take.bind_eq fun next => ?_
      split <;> exact .fail _ _ _

theorem lookbehindOpening :
    Tracks pair Eq Parser.lookbehindOpening Parser.lookbehindOpening := by
  refine take.bind_eq fun next => ?_
  split
  · exact .fail _ _ _
  · exact .pure rfl
  · exact .pure rfl
  · exact .fail _ _ _

end Tracks

/-! ## Flags of groups -/

/-- The flags of a group after those to turn on and the character that ends them. -/
def groupFlagsAfter (turnedOn : Flags) (ending : Char) (limit : Nat) : Parser GroupFlags := do
  if ending = ')' then
    modify fun reading => { reading with flags := reading.flags.union turnedOn }
    return .globally
  if turnedOn.template then
    fail .globalFlagOn 1
  let turnedOff ← do
    if ending = '-' then flagsOff {} (← take) .missingFlag limit else pure {}
  if turnedOff.template then
    fail .globalFlagOff 1
  if turnedOn.overlaps turnedOff then
    fail .flagOnAndOff 1
  return .locally turnedOn turnedOff

/-- The flags of a group with a limit on the number of their letters. -/
def groupFlagsWithin (first : Char) (limit : Nat) : Parser GroupFlags :=
  match Flag.ofLetter? first with
  | some flag => flagsOn {} flag limit >>= fun found => groupFlagsAfter found.1 found.2 limit
  | none => groupFlagsAfter {} '-' limit

theorem groupFlags_eq
    (first : Char) :
    groupFlags first =
      get >>= fun reading => groupFlagsWithin first (reading.rest.length + 1) := by
  unfold groupFlags groupFlagsWithin
  cases Flag.ofLetter? first <;> rfl

theorem ignoresLimit_groupFlagsAfter
    (turnedOn : Flags)
    (ending : Char) :
    IgnoresLimit (groupFlagsAfter turnedOn ending) := by
  intro reading limit limit' below below'
  simp only [groupFlagsAfter, fail_bind]
  split
  · rfl
  · split
    · rfl
    · split
      · refine run_bind_congr fun next later taken => ?_
        have noLonger := (Shortens.take _ _ _ taken).length_le
        have agree :=
          ignoresLimit_flagsOff {} next .missingFlag later limit limit' (by omega) (by omega)
        exact run_bind_eq_of_eq agree fun _ _ _ => rfl
      · rfl

theorem ignoresLimit_groupFlagsWithin
    (first : Char) :
    IgnoresLimit (groupFlagsWithin first) := by
  intro reading limit limit' below below'
  unfold groupFlagsWithin
  split
  · rename_i flag _
    have agree := ignoresLimit_flagsOn {} flag reading limit limit' below below'
    refine run_bind_eq_of_eq agree fun found later ran => ?_
    have shortens : Shortens (flagsOn {} flag limit') :=
      (Tracks.flagsOn _ _ _ : Tracks ⟨[], [], {}, True⟩ Eq _ _).shortens
    have noLonger := (shortens _ _ _ ran).length_le
    exact ignoresLimit_groupFlagsAfter _ _ _ _ _ (by omega) (by omega)
  · exact ignoresLimit_groupFlagsAfter _ _ _ _ _ below below'

namespace Tracks

variable {pair : SourcePair} {related : α → α → Prop} {flags flags' : Flags}

section

variable {next next' : GroupFlags → Parser α}
  (refuses : Refuses (next .globally))
  (tracks :
    ∀ turnedOn turnedOff,
      Tracks pair related
        (next (.locally turnedOn turnedOff)) (next' (.locally turnedOn turnedOff)))

include refuses tracks

theorem groupFlagsAfter_bind
    (turnedOn : Flags)
    (ending : Char)
    (limit : Nat) :
    Tracks pair related
      (Parser.groupFlagsAfter turnedOn ending limit >>= next)
      (Parser.groupFlagsAfter turnedOn ending limit >>= next') := by
  have settle (turnedOff : Flags) : Tracks pair related
      ((if turnedOff.template then Parser.fail .globalFlagOff 1
        else if turnedOn.overlaps turnedOff then Parser.fail .flagOnAndOff 1
        else Pure.pure (.locally turnedOn turnedOff)) >>= next)
      ((if turnedOff.template then Parser.fail .globalFlagOff 1
        else if turnedOn.overlaps turnedOff then Parser.fail .flagOnAndOff 1
        else Pure.pure (.locally turnedOn turnedOff)) >>= next') := by
    split
    · exact .fail _ _ _
    · split
      · exact .fail _ _ _
      · simpa only [pure_bind] using tracks turnedOn turnedOff
  simp only [Parser.groupFlagsAfter, fail_bind]
  split
  · simp only [bind_assoc, pure_bind]
    exact of_refuses (.bind (fun _ => refuses) _) _
  · split
    · exact .fail _ _ _
    · split
      · simp only [bind_assoc]
        exact take.bind_eq fun lexeme => (flagsOff _ _ _ _).bind_eq settle
      · simp only [bind_assoc]
        exact (pure rfl).bind_eq settle

theorem groupFlags_bind
    (first : Char) :
    Tracks pair related
      (Parser.groupFlags first >>= next) (Parser.groupFlags first >>= next') := by
  have within (limit : Nat) :
      Tracks pair related
        (groupFlagsWithin first limit >>= next) (groupFlagsWithin first limit >>= next') := by
    unfold groupFlagsWithin
    split
    · simp only [bind_assoc]
      exact (flagsOn _ _ _).bind_eq fun found => groupFlagsAfter_bind refuses tracks _ _ _
    · exact groupFlagsAfter_bind refuses tracks _ _ _
  have ignores (next : GroupFlags → Parser α) :
      IgnoresLimit fun limit => groupFlagsWithin first limit >>= next :=
    fun reading limit limit' below below' =>
      run_bind_eq_of_eq (ignoresLimit_groupFlagsWithin first reading limit limit' below below')
        fun _ _ _ => rfl
  rw [groupFlags_eq, bind_assoc, bind_assoc]
  exact limited (ignores next) (ignores next') within

end

section

variable {next next' : Opening → Parser α}
  (refuses : Refuses (next .globalFlags))
  (tracks :
    ∀ opening opening',
      Opening.Alike pair.sameTrees opening opening' →
        Tracks pair related (next opening) (next' opening'))

include refuses tracks

/-- Where flags of the whole expression are refused, the opening of a group tracks itself. -/
theorem opening_bind
    (alike : Flags.Alike pair.sameTrees flags flags')
    (start start' : Nat) :
    Tracks pair related
      (Parser.opening flags start >>= next) (Parser.opening flags' start' >>= next') := by
  have same (opening : Opening) : Tracks pair related (next opening) (next' opening) :=
    tracks opening opening (.same opening)
  simp only [Parser.opening, bind_assoc]
  refine (accept _).bind_eq fun marked => ?_
  split
  · simp only [bind_assoc]
    refine take.bind_eq fun found => ?_
    split
    · exact .fail _ _ _
    · exact (namedOpening alike).bind Opening.Alike.same tracks
    · simpa only [pure_bind] using same _
    · simp only [bind_assoc]
      refine
        limited_bind (ignoresLimit_skipPast _) (ignoresLimit_skipPast _) (skipPast ')')
          fun isClosed => ?_
      split
      · simpa only [pure_bind] using same _
      · exact .failBefore _ _ _
    · simpa only [pure_bind] using same _
    · simpa only [pure_bind] using same _
    · exact lookbehindOpening.bind_eq same
    · simp only [bind_assoc, pure_bind]
      exact condition.bind_eq fun _ => same _
    · simpa only [pure_bind] using same _
    · split
      · simp only [bind_assoc]
        refine groupFlags_bind ?_ (fun turnedOn turnedOff => ?_) _
        · simpa only [pure_bind] using refuses
        · simpa only [pure_bind] using same _
      · exact .fail _ _ _
    · exact .fail _ _ _
  · simpa only [pure_bind] using same _

end

end Tracks

/-- An opening that sets no flags of the whole expression leaves an end of what it finds. -/
theorem length_rest_le_of_opening
    {flags : Flags}
    {start : Nat}
    {reading later : Reading}
    {answer : Opening}
    (succeeds : (opening flags start).run reading = .ok (answer, later))
    (notGlobal : answer ≠ .globalFlags) :
    later.rest.length ≤ reading.rest.length := by
  have tracks :
      Tracks ⟨[], [], {}, True⟩ (fun _ _ => True)
        (opening flags start >>= fun found =>
          if found matches .globalFlags then failBefore .lateGlobalFlags 0 else pure found)
        (opening flags start >>= fun found =>
          if found matches .globalFlags then failBefore .lateGlobalFlags 0 else pure found) := by
    refine
      .opening_bind (.failBefore _ _) (fun found found' alike => ?_) ⟨rfl, fun _ => rfl⟩ start start
    cases alike with
    | same =>
        split
        · exact .failBefore _ _ _
        · exact .pure trivial
    | complete =>
        exact .pure trivial
  refine (tracks.shortens reading answer later ?_).length_le
  refine run_bind_eq_ok_iff.mpr ⟨answer, later, succeeds, ?_⟩
  cases answer <;> first | rfl | exact (notGlobal rfl).elim

end Parser
end ProseRules.Regex
