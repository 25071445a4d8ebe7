import ProseRules.Proofs.Rule.Marks

namespace ProseRules

/-!
# Counting tokens one by one or by units

If every token of a pattern is a unit of its own, the units can be counted by the tokens or by
their offsets. The two ways agree for units that exist. Numbers that corrections lead to beyond
these are looked up from the end of the offsets or not at all, so the words that are flagged
depend on the way of counting.
-/

/-- The element of the numbers up to another one at a place that is counted from either end. -/
theorem elementAt?_range
    (count : Nat)
    (place : Int) :
    elementAt? (List.range count) place =
      if 0 ≤ place then
        if place < count then some place.toNat else none
      else
        if -count ≤ place then some (count + place).toNat else none := by
  unfold elementAt?
  split
  · rename_i notNegative
    split
    · rename_i inRange
      rw [List.getElem?_range (by omega)]
    · rw [List.getElem?_eq_none (by simp; omega)]
  · rename_i negative
    rw [List.length_range]
    split
    · rw [if_pos (by omega), List.getElem?_range (by omega)]
      congr 1
      omega
    · rw [if_neg (by omega)]

namespace UnitScale

/-- The tokens are counted one by one. -/
def ofTokens (count : Nat) : UnitScale where
  tokens := count
  offsets := none

/-- Every token is a unit, and the units are counted by their offsets. -/
def ofSingleUnits (count : Nat) : UnitScale where
  tokens := count
  offsets := some (List.range (count + 1))

@[simp] theorem count_ofTokens
    (count : Nat) :
    (ofTokens count).count = count :=
  rfl

@[simp] theorem count_ofSingleUnits
    (count : Nat) :
    (ofSingleUnits count).count = count := by
  simp [UnitScale.count, ofSingleUnits]

theorem bounds_ofTokens
    (count : Nat)
    (unit : Int) :
    (ofTokens count).bounds unit = .ok (unit, unit + 1) :=
  rfl

/-- A unit that exists has the same bounds in both ways of counting. -/
theorem bounds_ofSingleUnits
    {count : Nat}
    {unit : Int}
    (notNegative : 0 ≤ unit)
    (inRange : unit < count) :
    (ofSingleUnits count).bounds unit = .ok (unit, unit + 1) := by
  simp only [bounds, ofSingleUnits, elementAt?_range]
  rw [if_pos notNegative, if_pos (by omega), if_pos (by omega), if_pos (by omega)]
  simp only [Except.ok.injEq, Prod.mk.injEq]
  omega

/-- A unit with a negative number is looked up from the end of the offsets. -/
theorem bounds_ofSingleUnits_of_neg
    {count : Nat}
    {unit : Int}
    (negative : unit < 0)
    (inRange : -(count + 1) ≤ unit) :
    (ofSingleUnits count).bounds unit =
      .ok (count + 1 + unit, if unit = -1 then 0 else count + 2 + unit) := by
  simp only [bounds, ofSingleUnits, elementAt?_range]
  rw [if_neg (by omega), if_pos (by omega)]
  by_cases isLast : unit = -1
  · subst isLast
    rw [if_pos (by omega), if_pos (by omega), if_pos rfl]
    simp only [Except.ok.injEq, Prod.mk.injEq]
    omega
  · rw [if_neg (by omega), if_pos (by omega), if_neg isLast]
    simp only [Except.ok.injEq, Prod.mk.injEq]
    omega

/-- There are no bounds of a unit that lies beyond the offsets. -/
theorem bounds_ofSingleUnits_eq_error
    {count : Nat}
    {unit : Int}
    (outOfRange : unit < -(count + 1) ∨ count ≤ unit) :
    (ofSingleUnits count).bounds unit = .error .outOfRange := by
  simp only [bounds, ofSingleUnits, elementAt?_range]
  rcases outOfRange with below | above
  · rw [if_neg (by omega), if_neg (by omega)]
  · rw [if_pos (show 0 ≤ unit + 1 by omega), if_neg (show ¬unit + 1 < (count + 1 : Nat) by omega)]
    split
    · rename_i noLast
      cases noLast
    · rfl

/-- Both ways of counting give the units the same texts. -/
theorem unitText_ofSingleUnits
    (count : Nat) :
    (ofSingleUnits count).unitText = (ofTokens count).unitText := by
  funext words candidate unit
  unfold unitText
  rw [count_ofSingleUnits, count_ofTokens]
  split
  · rfl
  · rw [bounds_ofSingleUnits (by omega) (by omega)]
    rfl

end UnitScale

namespace Candidate

section Ranges

variable {candidate : Candidate} {tokens : Nat} {first last first' last' : Int}

/-- The words between two places depend on the tokens between them only. -/
theorem positionsBetween_congr
    (sameTokens :
      ∀ token < tokens,
        first ≤ (token : Int) ∧ (token : Int) < last ↔
          first' ≤ (token : Int) ∧ (token : Int) < last') :
    candidate.positionsBetween tokens first last =
      candidate.positionsBetween tokens first' last' := by
  unfold positionsBetween
  refine congrArg (List.flatMap candidate.positionsOf) (List.filter_congr fun token member => ?_)
  have same := sameTokens token (List.mem_range.mp member)
  rw [Bool.eq_iff_iff]
  simpa using same

/-- Where no token lies between two places, all words are flagged. -/
theorem rangeOf_of_no_tokens
    (noTokens : min last tokens ≤ max first 0) :
    candidate.rangeOf (candidate.positionsBetween tokens first last) =
      (candidate.start, candidate.stop) := by
  have noPositions : candidate.positionsBetween tokens first last = [] := by
    rw [List.eq_nil_iff_forall_not_mem]
    intro position member
    obtain ⟨_, token, inRange, _, notBefore, before⟩ := mem_positionsBetween_iff.mp member
    omega
  rw [noPositions, rangeOf_nil]

/-- Where all tokens lie between two places, all words are flagged. -/
theorem rangeOf_of_all_tokens
    (nonempty : candidate.start < candidate.stop)
    (owners : ∀ token ∈ candidate.alignment, token < tokens)
    (fromFirst : first ≤ 0)
    (toLast : (tokens : Int) ≤ last) :
    candidate.rangeOf (candidate.positionsBetween tokens first last) =
      (candidate.start, candidate.stop) := by
  rw [@positionsBetween_congr candidate tokens first last 0 tokens (by omega)]
  have isPosition (position : Nat) :=
    @mem_positionsBetween_all_iff candidate tokens owners position
  have somePosition := List.ne_nil_of_mem ((isPosition candidate.start).mpr ⟨le_rfl, nonempty⟩)
  obtain ⟨least, greatest, isRange, leastMember, greatestMember, between⟩ :=
    exists_rangeOf_of_ne_nil candidate somePosition
  have isFirst := (between _ ((isPosition candidate.start).mpr ⟨le_rfl, nonempty⟩)).1
  have isLast := (between _ ((isPosition (candidate.stop - 1)).mpr (by omega))).2
  have leastInside := (isPosition least).mp leastMember
  have greatestInside := (isPosition greatest).mp greatestMember
  rw [isRange, Prod.mk.injEq]
  omega

end Ranges

end Candidate

/--
The corrections of a pattern with this number of tokens flag the same words whether the tokens
are counted one by one or by units: nothing is left between them, both are not negative, or they
are negative in one of the ways in which looking up from the end leads to the same words.
-/
def AccountsAlike (count : Nat) (fromStart fromEnd : Int) : Prop :=
  count - fromEnd ≤ fromStart ∨
    (0 ≤ fromStart ∧ 0 ≤ fromEnd) ∨
      (fromStart = -1 ∧ fromEnd = 0) ∨
        (fromStart = -(count + 1) ∧ 0 ≤ fromEnd ∧ fromEnd ≤ count + 1) ∨
          (fromEnd = count ∧ -(count + 1) ≤ fromStart ∧ fromStart < 0)

namespace UnitScale

/-- Where no unit is left, all words are flagged. -/
theorem marked_of_no_units
    {scale : UnitScale}
    {fromStart fromEnd : Int}
    (noUnits : scale.count - fromEnd ≤ fromStart)
    (candidate : Candidate) :
    scale.marked fromStart fromEnd candidate = .ok (candidate.start, candidate.stop) := by
  rw [marked_eq, if_pos noUnits]

/-- What is marked where the tokens are counted one by one. -/
theorem marked_ofTokens
    {count : Nat}
    {fromStart fromEnd : Int}
    (unitsLeft : fromStart < count - fromEnd)
    (candidate : Candidate) :
    (ofTokens count).marked fromStart fromEnd candidate =
      .ok (candidate.rangeOf (candidate.positionsBetween count fromStart (count - fromEnd))) := by
  have lastUnit : (count : Int) - fromEnd - 1 + 1 = count - fromEnd := by
    omega
  rw [marked_eq, count_ofTokens, if_neg (by omega), bounds_ofTokens, bounds_ofTokens, lastUnit]
  rfl

/-- Words are flagged of every candidate where the tokens are counted one by one. -/
theorem exists_marked_ofTokens
    (count : Nat)
    (fromStart fromEnd : Int)
    (candidate : Candidate) :
    ∃ span, (ofTokens count).marked fromStart fromEnd candidate = .ok span := by
  by_cases unitsLeft : fromStart < count - fromEnd
  · exact ⟨_, marked_ofTokens unitsLeft candidate⟩
  · exact ⟨_, marked_of_no_units (by rw [count_ofTokens]; omega) candidate⟩

/-- What is marked where the units are counted by their offsets, if their bounds are found. -/
theorem marked_ofSingleUnits_of_bounds
    {count : Nat}
    {fromStart fromEnd : Int}
    (unitsLeft : fromStart < count - fromEnd)
    {first last : Int × Int}
    (firstBounds : (ofSingleUnits count).bounds fromStart = .ok first)
    (lastBounds : (ofSingleUnits count).bounds (count - fromEnd - 1) = .ok last)
    (candidate : Candidate) :
    (ofSingleUnits count).marked fromStart fromEnd candidate =
      .ok (candidate.rangeOf (candidate.positionsBetween count first.1 last.2)) := by
  rw [marked_eq, count_ofSingleUnits, if_neg (by omega), firstBounds, lastBounds]
  rfl

/-- The same words are flagged if the corrections fit. -/
theorem marked_ofSingleUnits
    {count : Nat}
    {fromStart fromEnd : Int}
    (someTokens : 0 < count)
    (alike : AccountsAlike count fromStart fromEnd)
    {candidate : Candidate}
    (nonempty : candidate.start < candidate.stop)
    (owners : ∀ token ∈ candidate.alignment, token < count) :
    (ofSingleUnits count).marked fromStart fromEnd candidate =
      (ofTokens count).marked fromStart fromEnd candidate := by
  by_cases unitsLeft : fromStart < count - fromEnd
  · rw [marked_ofTokens unitsLeft]
    rcases alike with noUnits | ⟨startNotNegative, endNotNegative⟩ | ⟨rfl, rfl⟩ |
      ⟨rfl, endNotNegative, endInRange⟩ | ⟨rfl, startInRange, startNegative⟩
    · omega
    · rw [marked_ofSingleUnits_of_bounds unitsLeft
        (bounds_ofSingleUnits startNotNegative (by omega))
        (bounds_ofSingleUnits (by omega) (by omega))]
      refine congrArg (fun positions => Except.ok (candidate.rangeOf positions)) ?_
      exact Candidate.positionsBetween_congr fun token inRange => by omega
    · -- The last offset is looked up for the first unit, and no token is left after it.
      rw [marked_ofSingleUnits_of_bounds unitsLeft
          (bounds_ofSingleUnits_of_neg (by omega) (by omega))
          (bounds_ofSingleUnits (by omega) (by omega)),
        Candidate.rangeOf_of_no_tokens (by simp only; omega),
        Candidate.rangeOf_of_all_tokens nonempty owners (by omega) (by omega)]
    · -- The first offset is looked up, and so it may be for a last unit before the first one.
      by_cases lastExists : (0 : Int) ≤ count - fromEnd - 1
      · rw [marked_ofSingleUnits_of_bounds unitsLeft
          (bounds_ofSingleUnits_of_neg (by omega) (by omega))
          (bounds_ofSingleUnits lastExists (by omega))]
        refine congrArg (fun positions => Except.ok (candidate.rangeOf positions)) ?_
        exact Candidate.positionsBetween_congr fun token inRange => by omega
      · rw [marked_ofSingleUnits_of_bounds unitsLeft
            (bounds_ofSingleUnits_of_neg (by omega) (by omega))
            (bounds_ofSingleUnits_of_neg (by omega) (by omega)),
          @Candidate.rangeOf_of_no_tokens candidate count (-(count + 1)) _ (by omega)]
        by_cases isLast : (count : Int) - fromEnd - 1 = -1
        · rw [if_pos isLast, Candidate.rangeOf_of_no_tokens (by simp only; omega)]
        · rw [if_neg isLast,
            Candidate.rangeOf_of_all_tokens nonempty owners (by simp only; omega)
              (by simp only; omega)]
    · have isLast : (count : Int) - count - 1 = -1 := by
        omega
      rw [marked_ofSingleUnits_of_bounds unitsLeft
          (bounds_ofSingleUnits_of_neg startNegative startInRange)
          (bounds_ofSingleUnits_of_neg (by omega) (by omega)),
        if_pos isLast, Candidate.rangeOf_of_no_tokens (by simp only; omega),
        Candidate.rangeOf_of_no_tokens (by omega)]
  · rw [marked_of_no_units (by rw [count_ofSingleUnits]; omega),
      marked_of_no_units (by rw [count_ofTokens]; omega)]

end UnitScale

namespace Candidate

/-- The candidate of a sentence in which every token of a pattern takes one word. -/
def oneWordEach (count : Nat) : Candidate where
  start := 0
  alignment := List.range count

/-- Where every token takes one word, the words between two places are the numbers between them. -/
theorem exists_rangeOf_oneWordEach
    (count : Nat)
    (first last : Int) :
    ∃ least greatest : Nat,
      (oneWordEach count).rangeOf ((oneWordEach count).positionsBetween count first last) =
          (least, greatest) ∧
        (max first 0 < min last count ∧ least = max first 0 ∧ greatest = min last count ∨
          min last count ≤ max first 0 ∧ least = 0 ∧ greatest = count) := by
  by_cases someTokens : max first 0 < min last count
  · have isPosition (position : Nat) :
        position ∈ (oneWordEach count).positionsBetween count first last ↔
          position < count ∧ first ≤ position ∧ (position : Int) < last := by
      rw [mem_positionsBetween_iff]
      simp only [oneWordEach, Nat.zero_le, Nat.sub_zero, true_and]
      constructor
      · rintro ⟨token, inRange, given, between⟩
        obtain ⟨_, rfl⟩ := List.getElem?_eq_some_iff.mp given
        rw [List.getElem_range] at inRange between
        exact ⟨inRange, between⟩
      · rintro ⟨inRange, between⟩
        exact ⟨position, inRange, List.getElem?_range inRange, between⟩
    have firstMember := (isPosition (max first 0).toNat).mpr (by omega)
    have lastMember := (isPosition (min last count - 1).toNat).mpr (by omega)
    obtain ⟨least, greatest, isRange, leastMember, greatestMember, between⟩ :=
      exists_rangeOf_of_ne_nil (oneWordEach count) (List.ne_nil_of_mem firstMember)
    have notAfterFirst := (between _ firstMember).1
    have notBeforeLast := (between _ lastMember).2
    rw [isPosition] at leastMember greatestMember
    exact ⟨least, greatest + 1, isRange, .inl (by omega)⟩
  · refine ⟨0, count, ?_, .inr (by omega)⟩
    rw [rangeOf_of_no_tokens (by omega)]
    simp [oneWordEach, stop]

end Candidate

namespace UnitScale

/-- Where something is flagged by units, the units that are looked up have offsets. -/
theorem inRange_of_marked_ofSingleUnits
    {count : Nat}
    {fromStart fromEnd : Int}
    (unitsLeft : fromStart < count - fromEnd)
    {candidate : Candidate}
    {span : Nat × Nat}
    (marked : (ofSingleUnits count).marked fromStart fromEnd candidate = .ok span) :
    -(count + 1) ≤ fromStart ∧ 0 ≤ fromEnd ∧ fromEnd ≤ 2 * count := by
  rw [marked_eq, count_ofSingleUnits, if_neg (by omega)] at marked
  obtain ⟨_, firstBounds, afterFirst⟩ := Outcome.bind_eq_ok_iff.mp marked
  obtain ⟨_, lastBounds, _⟩ := Outcome.bind_eq_ok_iff.mp afterFirst
  refine ⟨?_, ?_, ?_⟩
  · by_contra tooLow
    rw [bounds_ofSingleUnits_eq_error (by omega)] at firstBounds
    cases firstBounds
  · by_contra tooHigh
    rw [bounds_ofSingleUnits_eq_error (by omega)] at lastBounds
    cases lastBounds
  · by_contra tooLow
    rw [bounds_ofSingleUnits_eq_error (by omega)] at lastBounds
    cases lastBounds

/-- The words of a candidate with one for each token are the same only if the corrections fit. -/
theorem accountsAlike_of_marked_eq
    {count : Nat}
    {fromStart fromEnd : Int}
    (sameMarked :
      (ofSingleUnits count).marked fromStart fromEnd (.oneWordEach count) =
        (ofTokens count).marked fromStart fromEnd (.oneWordEach count)) :
    AccountsAlike count fromStart fromEnd := by
  by_cases unitsLeft : fromStart < count - fromEnd
  · rw [marked_ofTokens unitsLeft] at sameMarked
    obtain ⟨startInRange, endNotNegative, endInRange⟩ :=
      inRange_of_marked_ofSingleUnits unitsLeft sameMarked
    by_cases startNotNegative : 0 ≤ fromStart
    · exact .inr (.inl ⟨startNotNegative, endNotNegative⟩)
    have firstBounds := @bounds_ofSingleUnits_of_neg count fromStart (by omega) startInRange
    obtain ⟨least, greatest, isRange, isFlagged⟩ :=
      Candidate.exists_rangeOf_oneWordEach count fromStart (count - fromEnd)
    rw [isRange] at sameMarked
    unfold AccountsAlike
    by_cases lastExists : (0 : Int) ≤ count - fromEnd - 1
    · have lastBounds := @bounds_ofSingleUnits count _ lastExists (by omega)
      obtain ⟨least', greatest', isRange', isFlagged'⟩ :=
        Candidate.exists_rangeOf_oneWordEach count (count + 1 + fromStart) (count - fromEnd - 1 + 1)
      rw [marked_ofSingleUnits_of_bounds unitsLeft firstBounds lastBounds, isRange',
        Except.ok.injEq, Prod.mk.injEq] at sameMarked
      omega
    · have lastBounds :=
        @bounds_ofSingleUnits_of_neg count (count - fromEnd - 1) (by omega) (by omega)
      obtain ⟨least', greatest', isRange', isFlagged'⟩ :=
        Candidate.exists_rangeOf_oneWordEach count (count + 1 + fromStart)
          (if (count : Int) - fromEnd - 1 = -1 then 0 else count + 2 + (count - fromEnd - 1))
      rw [marked_ofSingleUnits_of_bounds unitsLeft firstBounds lastBounds, isRange',
        Except.ok.injEq, Prod.mk.injEq] at sameMarked
      split at isFlagged' <;> omega
  · exact .inl (by omega)

end UnitScale

end ProseRules
