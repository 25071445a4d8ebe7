import ProseRules.Proofs.Rule.Cuts

namespace ProseRules

/-!
# The words of the units that are kept

A rule may drop units at both ends of what it flags. Units count tokens, and a token may have
any number of words. As the words of a candidate are given to the tokens in order, those of the
units in between stand side by side, so the first and the last of them give all of them.
-/

namespace Candidate

/-- The range from the least to the greatest of some words, or all words if there are none. -/
def rangeOf (candidate : Candidate) (positions : List Nat) : Nat × Nat :=
  match positions.min?, positions.max? with
  | some least, some greatest => (least, greatest + 1)
  | _, _ => (candidate.start, candidate.stop)

@[simp] theorem rangeOf_nil
    (candidate : Candidate) :
    candidate.rangeOf [] = (candidate.start, candidate.stop) :=
  rfl

/-- The range of some words reaches from one of them to another one and holds all of them. -/
theorem exists_rangeOf_of_ne_nil
    (candidate : Candidate)
    {positions : List Nat}
    (somePosition : positions ≠ []) :
    ∃ least greatest,
      candidate.rangeOf positions = (least, greatest + 1) ∧
        least ∈ positions ∧
          greatest ∈ positions ∧
            ∀ position ∈ positions, least ≤ position ∧ position ≤ greatest := by
  obtain ⟨least, isLeast⟩ :=
    Option.ne_none_iff_exists'.mp (mt List.min?_eq_none_iff.mp somePosition)
  obtain ⟨greatest, isGreatest⟩ :=
    Option.ne_none_iff_exists'.mp (mt List.max?_eq_none_iff.mp somePosition)
  obtain ⟨leastMember, notBefore⟩ := List.min?_eq_some_iff.mp isLeast
  obtain ⟨greatestMember, notAfter⟩ := List.max?_eq_some_iff.mp isGreatest
  refine ⟨least, greatest, by rw [rangeOf, isLeast, isGreatest], leastMember, greatestMember, ?_⟩
  exact fun position member => ⟨notBefore position member, notAfter position member⟩

/-- A word of the candidate was given to a token of one of the units from `first` up to `last`. -/
def LiesInUnits (candidate : Candidate) (sizes : List Nat) (first last position : Nat) : Prop :=
  candidate.start ≤ position ∧
    ∃ token,
      candidate.alignment[position - candidate.start]? = some token ∧
        first ≤ unitHolding sizes token ∧ unitHolding sizes token < last

/-- Some units are left after others are dropped at both ends, and they have words. -/
def KeepsWords (candidate : Candidate) (sizes : List Nat) (fromStart fromEnd : Nat) : Prop :=
  fromStart + fromEnd < sizes.length ∧
    ∃ position, candidate.LiesInUnits sizes fromStart (sizes.length - fromEnd) position

/--
The words from `first` up to `last` are exactly those of the units that are left. If no unit or
no word is left, they are all words of the candidate.
-/
structure FlagsKeptUnits (candidate : Candidate) (sizes : List Nat) (fromStart fromEnd : Nat)
    (first last : Nat) : Prop where
  kept :
    candidate.KeepsWords sizes fromStart fromEnd →
      candidate.start ≤ first ∧
        first < last ∧
          last ≤ candidate.stop ∧
            ∀ position,
              first ≤ position ∧ position < last ↔
                candidate.LiesInUnits sizes fromStart (sizes.length - fromEnd) position
  whole :
    ¬candidate.KeepsWords sizes fromStart fromEnd →
      first = candidate.start ∧ last = candidate.stop

section Positions

variable {candidate : Candidate} {position : Nat}

theorem mem_positionsBetween_iff
    {tokens : Nat}
    {first last : Int} :
    position ∈ candidate.positionsBetween tokens first last ↔
      candidate.start ≤ position ∧
        ∃ token < tokens,
          candidate.alignment[position - candidate.start]? = some token ∧
            first ≤ token ∧ (token : Int) < last := by
  simp only [positionsBetween, List.mem_flatMap, List.mem_filter, List.mem_range,
    mem_positionsOf_iff, Bool.and_eq_true, decide_eq_true_eq]
  constructor
  · rintro ⟨token, ⟨isToken, notBefore, before⟩, afterStart, given⟩
    exact ⟨afterStart, token, isToken, given, notBefore, before⟩
  · rintro ⟨afterStart, token, isToken, given, notBefore, before⟩
    exact ⟨token, ⟨isToken, notBefore, before⟩, afterStart, given⟩

variable {sizes : List Nat} {first last : Nat}

/-- The words given to the tokens of some units are those that lie in the units. -/
theorem mem_positionsBetween_iff_liesInUnits
    (inOrder : first ≤ last)
    (inRange : last ≤ sizes.length) :
    position ∈
        candidate.positionsBetween sizes.sum (sizes.take first).sum (sizes.take last).sum ↔
      candidate.LiesInUnits sizes first last position := by
  have := sum_take_le_sum sizes last
  rw [mem_positionsBetween_iff, LiesInUnits]
  refine and_congr_right fun _ => exists_congr fun token => ?_
  rw [le_unitHolding_iff (inOrder.trans inRange), unitHolding_lt_iff inRange]
  constructor
  · rintro ⟨_, given, notBefore, before⟩
    exact ⟨given, by omega, by omega⟩
  · rintro ⟨given, notBefore, before⟩
    exact ⟨by omega, given, by omega, by omega⟩

/-- Between two words of some units there are only words of these units. -/
theorem LiesInUnits.between
    (alignedInOrder : candidate.alignment.Pairwise (· ≤ ·))
    (inOrder : first ≤ last)
    (inRange : last ≤ sizes.length)
    {least greatest : Nat}
    (leastLies : candidate.LiesInUnits sizes first last least)
    (greatestLies : candidate.LiesInUnits sizes first last greatest)
    (notBefore : least ≤ position)
    (notAfter : position ≤ greatest) :
    candidate.LiesInUnits sizes first last position := by
  obtain ⟨leastAfterStart, leastToken, leastGiven, isAfterFirst, _⟩ := leastLies
  obtain ⟨_, greatestToken, greatestGiven, _, isBeforeLast⟩ := greatestLies
  obtain ⟨leastInside, isLeastToken⟩ := List.getElem?_eq_some_iff.mp leastGiven
  obtain ⟨greatestInside, isGreatestToken⟩ := List.getElem?_eq_some_iff.mp greatestGiven
  have inside : position - candidate.start < candidate.alignment.length := by omega
  have monotone := (List.sortedLE_iff_pairwise.mpr alignedInOrder).getElem_le_getElem_of_le
  have afterLeast : leastToken ≤ candidate.alignment[position - candidate.start] := by
    rw [← isLeastToken]
    exact monotone (by omega)
  have beforeGreatest : candidate.alignment[position - candidate.start] ≤ greatestToken := by
    rw [← isGreatestToken]
    exact monotone (by omega)
  rw [le_unitHolding_iff (inOrder.trans inRange)] at isAfterFirst
  rw [unitHolding_lt_iff inRange] at isBeforeLast
  refine ⟨by omega, _, List.getElem?_eq_getElem inside, ?_, ?_⟩
  · rw [le_unitHolding_iff (inOrder.trans inRange)]
    omega
  · rw [unitHolding_lt_iff inRange]
    omega

/-- The range of the words in the units that are kept flags these units. -/
theorem flagsKeptUnits_rangeOf
    (alignedInOrder : candidate.alignment.Pairwise (· ≤ ·))
    {fromStart fromEnd : Nat}
    (unitsLeft : fromStart + fromEnd < sizes.length)
    {positions : List Nat}
    (arePositions :
      ∀ position,
        position ∈ positions ↔
          candidate.LiesInUnits sizes fromStart (sizes.length - fromEnd) position) :
    candidate.FlagsKeptUnits sizes fromStart fromEnd (candidate.rangeOf positions).1
      (candidate.rangeOf positions).2 := by
  by_cases noPosition : positions = []
  · subst noPosition
    refine ⟨fun ⟨_, position, lies⟩ => ?_, fun _ => ⟨rfl, rfl⟩⟩
    exact (List.not_mem_nil ((arePositions position).mpr lies)).elim
  · obtain ⟨least, greatest, isRange, leastMember, greatestMember, between⟩ :=
      exists_rangeOf_of_ne_nil candidate noPosition
    have leastLies := (arePositions least).mp leastMember
    have greatestLies := (arePositions greatest).mp greatestMember
    rw [isRange]
    refine ⟨fun _ => ?_, fun noWords => (noWords ⟨unitsLeft, least, leastLies⟩).elim⟩
    have leastNotAfter := (between least leastMember).2
    have beforeStop : greatest < candidate.stop := by
      obtain ⟨afterStart, token, given, _⟩ := greatestLies
      have := (List.getElem?_eq_some_iff.mp given).1
      rw [stop]
      omega
    refine ⟨leastLies.1, Nat.lt_succ_of_le leastNotAfter, beforeStop, fun position => ?_⟩
    constructor
    · rintro ⟨notBefore, notAfter⟩
      exact .between alignedInOrder (by omega) (Nat.sub_le _ _) leastLies greatestLies notBefore
        (Nat.le_of_lt_succ notAfter)
    · intro lies
      have inBetween := between position ((arePositions position).mpr lies)
      exact ⟨inBetween.1, Nat.lt_succ_of_le inBetween.2⟩

end Positions

end Candidate

/-- What is marked of a candidate is the range of the words between the units that are left. -/
theorem UnitScale.marked_eq
    (scale : UnitScale)
    (startCorrection endCorrection : Int)
    (candidate : Candidate) :
    scale.marked startCorrection endCorrection candidate =
      if startCorrection ≥ scale.count - endCorrection then
        .ok (candidate.start, candidate.stop)
      else do
        let first ← scale.bounds startCorrection
        let last ← scale.bounds (scale.count - endCorrection - 1)
        return candidate.rangeOf (candidate.positionsBetween scale.tokens first.1 last.2) := by
  simp only [marked]
  by_cases nothingLeft : startCorrection ≥ scale.count - endCorrection
  · rw [if_pos nothingLeft, if_pos nothingLeft]
    rfl
  · rw [if_neg nothingLeft, if_neg nothingLeft]
    refine congrArg _ (funext fun first => congrArg _ (funext fun last => ?_))
    unfold Candidate.rangeOf
    cases (candidate.positionsBetween scale.tokens first.1 last.2).min? <;>
      cases (candidate.positionsBetween scale.tokens first.1 last.2).max? <;> rfl

namespace Rule

/--
What a rule flags of a candidate whose words are given to the tokens in order: exactly the words
of the units that are left after some are dropped at both ends, or all words if there are none
of these.
-/
theorem exists_marked_flagsKeptUnits
    {rule : Rule}
    {fromStart fromEnd : Nat}
    (dropsAtStart : rule.startCorrection = fromStart)
    (dropsAtEnd : rule.endCorrection = fromEnd)
    {candidate : Candidate}
    (alignedInOrder : candidate.alignment.Pairwise (· ≤ ·)) :
    ∃ first last,
      (UnitScale.ofRule rule).marked rule.startCorrection rule.endCorrection candidate =
          .ok (first, last) ∧
        candidate.FlagsKeptUnits rule.unitSizes fromStart fromEnd first last := by
  rw [dropsAtStart, dropsAtEnd, UnitScale.marked_eq, UnitScale.count_ofRule]
  by_cases unitsLeft : fromStart + fromEnd < rule.unitSizes.length
  · have lastUnit :
        (rule.unitSizes.length : Int) - fromEnd - 1 =
          (rule.unitSizes.length - fromEnd - 1 : Nat) := by
      omega
    have firstBounds := UnitScale.bounds_ofRule (show fromStart < rule.unitSizes.length by omega)
    have lastBounds :=
      UnitScale.bounds_ofRule
        (show rule.unitSizes.length - fromEnd - 1 < rule.unitSizes.length by omega)
    rw [Nat.sub_add_cancel (by omega)] at lastBounds
    have allTokens : (UnitScale.ofRule rule).tokens = rule.unitSizes.sum :=
      (Token.sum_unitSizes rule.tokens).symm
    rw [if_neg (by omega), lastUnit, firstBounds, lastBounds, allTokens]
    refine ⟨_, _, rfl, Candidate.flagsKeptUnits_rangeOf alignedInOrder unitsLeft fun position => ?_⟩
    exact Candidate.mem_positionsBetween_iff_liesInUnits (by omega) (Nat.sub_le _ _)
  · rw [if_pos (by omega)]
    exact ⟨_, _, rfl, fun keeps => (unitsLeft keeps.1).elim, fun _ => ⟨rfl, rfl⟩⟩

/-- Every match of a token pattern is that of an accepted candidate with its words in order. -/
theorem exists_aligned_candidate_of_mem_matchTokens
    {rule : Rule}
    {tokens : List Token}
    {sentence : Sentence}
    {found : List RuleMatch}
    (succeeds : rule.matchTokens tokens sentence = .ok found)
    {ruleMatch : RuleMatch}
    (member : ruleMatch ∈ found) :
    ∃ accepted,
      acceptedCandidates tokens sentence.words = .ok accepted ∧
        ∃ candidate ∈ accepted,
          candidate.alignment.Pairwise (· ≤ ·) ∧
            rule.matchOfCandidate (.ofRule rule) sentence candidate = .ok ruleMatch := by
  obtain ⟨steps, compiled, stepsLeft, candidate, isCandidate, hold, ofCandidate⟩ :=
    exists_candidate_of_mem_matchTokens succeeds member
  exact
    ⟨_, acceptedCandidates_of_compiled compiled sentence.words, candidate,
      List.mem_filter.mpr ⟨isCandidate, hold⟩,
      Candidate.pairwise_alignment_of_mem_candidates compiled stepsLeft isCandidate, ofCandidate⟩

/--
A rule that drops units at both ends flags exactly the words of the units that are left, of
every candidate whose words are given to the tokens in order. Its matches are those of such
candidates.
-/
theorem flagsKeptUnits_of_candidates_and_matches
    {rule : Rule}
    {fromStart fromEnd : Nat}
    (dropsAtStart : rule.startCorrection = fromStart)
    (dropsAtEnd : rule.endCorrection = fromEnd) :
    (∀ candidate : Candidate,
        candidate.alignment.Pairwise (· ≤ ·) →
          ∃ first last,
            (UnitScale.ofRule rule).marked rule.startCorrection rule.endCorrection candidate =
                .ok (first, last) ∧
              candidate.FlagsKeptUnits rule.unitSizes fromStart fromEnd first last) ∧
      ∀ (tokens : List Token) (precede : referencesPrecede tokens),
        rule.pattern = .tokens tokens precede →
          ∀ (sentence : Sentence) (found : List RuleMatch),
            rule.matchesIn sentence = .ok found →
              ∃ immunized,
                rule.immunizer sentence = .ok immunized ∧
                  ∀ ruleMatch ∈ found,
                    ∃ accepted,
                      acceptedCandidates tokens immunized.words = .ok accepted ∧
                        ∃ candidate ∈ accepted,
                          ∃ first last : Nat,
                            ruleMatch.wordSpan = ((first : Int), (last : Int)) ∧
                              candidate.FlagsKeptUnits rule.unitSizes fromStart fromEnd first
                                last := by
  refine ⟨fun candidate => exists_marked_flagsKeptUnits dropsAtStart dropsAtEnd, ?_⟩
  intro tokens precede pattern sentence found succeeds
  obtain ⟨immunized, immunizes, matched⟩ := exists_immunized_of_matchesIn pattern succeeds
  refine ⟨immunized, immunizes, fun ruleMatch member => ?_⟩
  obtain ⟨accepted, areAccepted, candidate, isAccepted, alignedInOrder, ofCandidate⟩ :=
    exists_aligned_candidate_of_mem_matchTokens matched member
  obtain ⟨first, last, marked, wordSpan⟩ := wordSpan_of_matchOfCandidate ofCandidate
  obtain ⟨first', last', marked', flags⟩ :=
    exists_marked_flagsKeptUnits dropsAtStart dropsAtEnd alignedInOrder
  rw [marked, Except.ok.injEq, Prod.mk.injEq] at marked'
  obtain ⟨rfl, rfl⟩ := marked'
  exact ⟨accepted, areAccepted, candidate, isAccepted, first, last, wordSpan, flags⟩

/-- A rule for a greeting of two words and one or two words after it, which alone are flagged. -/
def afterGreeting : Rule :=
  { withTokens
      [.placeholder (.text "greeting"), .placeholder (.text "greeting"), oneOrTwoWords]
      (badReference?_eq_none_iff.mp (by decide)) with
    startCorrection := 1 }

/-- The two words after the greeting are flagged, as they are given to the second unit. -/
theorem flagsKeptUnits_afterGreeting :
    afterGreeting.unitSizes = [2, 1] ∧
      Candidate.KeepsWords ⟨1, [0, 1, 2, 2]⟩ afterGreeting.unitSizes 1 0 ∧
        (UnitScale.ofRule afterGreeting).marked afterGreeting.startCorrection
            afterGreeting.endCorrection ⟨1, [0, 1, 2, 2]⟩ = .ok (3, 5) ∧
          Candidate.FlagsKeptUnits ⟨1, [0, 1, 2, 2]⟩ afterGreeting.unitSizes 1 0 3 5 := by
  have sizes : afterGreeting.unitSizes = [2, 1] := by
    decide +kernel
  have keeps : Candidate.KeepsWords ⟨1, [0, 1, 2, 2]⟩ afterGreeting.unitSizes 1 0 := by
    rw [sizes]
    exact ⟨by decide, 3, by decide, 2, by decide⟩
  obtain ⟨ofCandidates, _⟩ := @flagsKeptUnits_of_candidates_and_matches afterGreeting 1 0 rfl rfl
  obtain ⟨first, last, marked, flags⟩ := ofCandidates ⟨1, [0, 1, 2, 2]⟩ (by decide)
  have evaluated :
      ((UnitScale.ofRule afterGreeting).marked afterGreeting.startCorrection
        afterGreeting.endCorrection ⟨1, [0, 1, 2, 2]⟩).toOption = some (3, 5) := by
    decide +kernel
  have isMarked := Outcome.eq_ok_of_toOption evaluated
  rw [isMarked, Except.ok.injEq, Prod.mk.injEq] at marked
  obtain ⟨rfl, rfl⟩ := marked
  exact ⟨sizes, keeps, isMarked, flags⟩

end Rule

end ProseRules
