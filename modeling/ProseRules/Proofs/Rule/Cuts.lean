import ProseRules.Proofs.Pattern.Cuts
import ProseRules.Proofs.Rule.WordSpans
import ProseRules.Proofs.Token.Grouping

namespace ProseRules

/-!
# Matches of token patterns and cuts of words

Where no unit is dropped, a match of a token pattern flags words that can be cut into
runs whose references hold. The words that are reported of one range are cut in one way
only, so a range is lost if its references hold in other cuts alone.
-/

/-- The words of a range. -/
def wordsBetween (words : List Word) (start stop : Nat) : List Word :=
  (words.drop start).take (stop - start)

theorem length_wordsBetween
    {words : List Word}
    {stop : Nat}
    (inside : stop ≤ words.length)
    (start : Nat) :
    (wordsBetween words start stop).length = stop - start := by
  rw [wordsBetween, List.length_take, List.length_drop]
  omega

/-- The text of a run of words, in small letters unless case counts. -/
def textOfRun (caseSensitive : Bool) (run : List Word) : String :=
  let text := String.intercalate " " (run.map (·.text))
  if caseSensitive then text else Text.lower text

/--
Every reference with words of its own repeats the text of its target, or has another
text if it is negated. Some tokens have their texts compared with regard to case.
-/
def RunsRepeat (caseCounts : Token → Bool) (tokens : List Token) (runs : List (List Word)) :
    Prop :=
  ∀ (index : Nat) (token : Token) (reference : Int) (own target : List Word),
    tokens[index]? = some token → token.reference = some reference →
      runs[index]? = some own → runs[reference.toNat]? = some target → own ≠ [] →
        (textOfRun (caseCounts token) own = textOfRun (caseCounts token) target ↔
          token.negated = false)

namespace Candidate

/-- All tokens together have the words of the range. -/
theorem mem_positionsBetween_all_iff
    {candidate : Candidate}
    {tokens : Nat}
    (owners : ∀ token ∈ candidate.alignment, token < tokens)
    {position : Nat} :
    position ∈ candidate.positionsBetween tokens 0 tokens ↔
      candidate.start ≤ position ∧ position < candidate.stop := by
  constructor
  · exact mem_range_of_mem_positionsBetween
  · rintro ⟨notBefore, beforeStop⟩
    rw [stop] at beforeStop
    have inAlignment : position - candidate.start < candidate.alignment.length := by omega
    have owned := owners _ (List.getElem_mem inAlignment)
    rw [positionsBetween, List.mem_flatMap]
    refine ⟨candidate.alignment[position - candidate.start], ?_, ?_⟩
    · simpa using owned
    · exact mem_positionsOf_iff.mpr ⟨notBefore, List.getElem?_eq_getElem inAlignment⟩

/-- A token has no words exactly if its run is empty. -/
theorem positionsOf_eq_nil_iff
    {candidate : Candidate}
    {words : List Word}
    (inside : candidate.alignment.length ≤ words.length - candidate.start)
    {token : Nat} :
    candidate.positionsOf token = [] ↔ candidate.runOf words token = [] := by
  rw [runOf, List.filterMap_eq_nil_iff, List.eq_nil_iff_forall_not_mem]
  refine forall_congr' fun position => ?_
  constructor
  · intro notGiven given
    exact (notGiven given).elim
  · intro noWord given
    obtain ⟨notBefore, atPlace⟩ := mem_positionsOf_iff.mp given
    have := (List.getElem?_eq_some_iff.mp atPlace).1
    have := List.getElem?_eq_none_iff.mp (noWord given)
    omega

/-- The text of a token is that of the words given to it. -/
theorem tokenText_eq_textOfRun
    (candidate : Candidate)
    (words : List Word)
    (caseSensitive : Bool)
    (token : Nat) :
    tokenText words candidate caseSensitive token =
      textOfRun caseSensitive (candidate.runOf words token) := by
  have notNegative : ¬((token : Int) < 0) := by omega
  simp only [tokenText, textOfRun, textOfWords, runOf, notNegative, if_false, Int.toNat_natCast,
    List.map_filterMap]

/-- A reference holds of a candidate exactly if it holds of the run of its token. -/
theorem CutInto.referenceHolds_iff
    {candidate : Candidate}
    {words : List Word}
    {runs : List (List Word)}
    (cut : candidate.CutInto words runs)
    {token : Token}
    {reference : Int}
    (isReference : token.reference = some reference)
    (notNegative : 0 ≤ reference)
    {index : Nat}
    {own target : List Word}
    (isOwn : runs[index]? = some own)
    (isTarget : runs[reference.toNat]? = some target) :
    referenceHolds words candidate token index = true ↔
      (own ≠ [] →
        (textOfRun token.caseSensitive own = textOfRun token.caseSensitive target ↔
          token.negated = false)) := by
  have inside : candidate.alignment.length ≤ words.length - candidate.start := by
    rw [cut.alignment, length_alignmentOf, ← List.length_drop]
    exact cut.isBeginning.length_le
  have ownRun : candidate.runOf words index = own := by
    rw [cut.runOf_eq, isOwn, Option.getD_some]
  have targetRun : candidate.runOf words reference.toNat = target := by
    rw [cut.runOf_eq, isTarget, Option.getD_some]
  have targetText := tokenText_eq_textOfRun candidate words token.caseSensitive reference.toNat
  rw [Int.toNat_of_nonneg notNegative, targetRun] at targetText
  simp only [referenceHolds, isReference, List.isEmpty_iff, positionsOf_eq_nil_iff inside, ownRun,
    tokenText_eq_textOfRun, targetText]
  by_cases noWords : own = []
  · simp [noWords]
  · cases token.negated <;> simp [noWords]

/-- The references hold of a candidate exactly if they hold in its cut. -/
theorem CutInto.referencesHold_iff
    {candidate : Candidate}
    {words : List Word}
    {runs : List (List Word)}
    (cut : candidate.CutInto words runs)
    {tokens : List Token}
    (precede : referencesPrecede tokens)
    (runForEach : tokens.length = runs.length) :
    referencesHold words tokens candidate = true ↔ RunsRepeat Token.caseSensitive tokens runs := by
  rw [referencesHold, List.all_eq_true]
  constructor
  · intro allHold index token reference own target isToken isReference isOwn isTarget
    have inPattern : (token, index) ∈ tokens.zipIdx := List.mk_mem_zipIdx_iff_getElem?.mpr isToken
    obtain ⟨notNegative, _⟩ := precede _ inPattern reference isReference
    exact (cut.referenceHolds_iff isReference notNegative isOwn isTarget).mp (allHold _ inPattern)
  · rintro runsRepeat ⟨token, index⟩ inPattern
    have isToken := List.mk_mem_zipIdx_iff_getElem?.mp inPattern
    have inRange := (List.getElem?_eq_some_iff.mp isToken).1
    cases isReference : token.reference with
    | none =>
        simp [referenceHolds, isReference]
    | some reference =>
        obtain ⟨notNegative, goesBack⟩ := precede _ inPattern reference isReference
        simp only at goesBack
        have isOwn : runs[index]? = some runs[index] := List.getElem?_eq_getElem (by omega)
        have isTarget : runs[reference.toNat]? = some runs[reference.toNat] :=
          List.getElem?_eq_getElem (by omega)
        exact (cut.referenceHolds_iff isReference notNegative isOwn isTarget).mpr
          (runsRepeat index token reference _ _ isToken isReference isOwn isTarget)

/-- The candidates of a pattern are the ranges that can be cut, each with one of its cuts. -/
theorem exists_cut_of_mem_candidates
    {tokens : List Token}
    {steps : List Step}
    (compiled : Step.ofTokens tokens = .ok steps)
    (stepsLeft : steps ≠ [])
    {words : List Word}
    {candidate : Candidate}
    (member : candidate ∈ candidates [steps] words) :
    ∃ runs,
      candidate.CutInto words runs ∧
        Cuts tokens (wordsBetween words candidate.start candidate.stop) runs := by
  obtain ⟨_, _, isSteps, taken, isBeginning, takes⟩ :=
    takes_of_mem_candidates (by simpa using stepsLeft) member
  obtain rfl := List.mem_singleton.mp isSteps
  obtain ⟨runs, cuts, alignment⟩ := (Step.takes_ofTokensFrom_iff compiled).mp takes
  have wholeRange : taken = wordsBetween words candidate.start candidate.stop := by
    rw [wordsBetween, stop, Nat.add_sub_cancel_left, takes.length_eq]
    exact List.prefix_iff_eq_take.mp isBeginning
  refine ⟨runs, ⟨?_, alignment⟩, ?_⟩
  · rw [cuts.together]
    exact isBeginning
  · rw [← wholeRange]
    exact cuts

/-- The words of a candidate of a pattern are given to the tokens in order. -/
theorem pairwise_alignment_of_mem_candidates
    {tokens : List Token}
    {steps : List Step}
    (compiled : Step.ofTokens tokens = .ok steps)
    (stepsLeft : steps ≠ [])
    {words : List Word}
    {candidate : Candidate}
    (member : candidate ∈ candidates [steps] words) :
    candidate.alignment.Pairwise (· ≤ ·) := by
  obtain ⟨runs, cut, _⟩ := exists_cut_of_mem_candidates compiled stepsLeft member
  rw [cut.alignment]
  exact pairwise_alignmentOf 0 runs

/-- The words of a candidate of a pattern are given to tokens of the pattern. -/
theorem lt_of_mem_alignment
    {tokens : List Token}
    {steps : List Step}
    (compiled : Step.ofTokens tokens = .ok steps)
    (stepsLeft : steps ≠ [])
    {words : List Word}
    {candidate : Candidate}
    (member : candidate ∈ candidates [steps] words)
    {token : Nat}
    (owner : token ∈ candidate.alignment) :
    token < tokens.length := by
  obtain ⟨runs, cut, cuts⟩ := exists_cut_of_mem_candidates compiled stepsLeft member
  have runForEach : tokens.length = runs.length := cuts.taken.length_eq
  rw [cut.alignment] at owner
  have := lt_of_mem_alignmentOf owner
  omega

/-- A range whose words can be cut is that of a candidate. -/
theorem exists_candidate_of_cuts
    {tokens : List Token}
    {steps : List Step}
    (compiled : Step.ofTokens tokens = .ok steps)
    (stepsLeft : steps ≠ [])
    {words : List Word}
    {start stop : Nat}
    (nonempty : start < stop)
    (inside : stop ≤ words.length)
    {runs : List (List Word)}
    (cuts : Cuts tokens (wordsBetween words start stop) runs) :
    ∃ candidate ∈ candidates [steps] words, candidate.start = start ∧ candidate.stop = stop := by
  have rangeLength := length_wordsBetween inside start
  have someWords : wordsBetween words start stop ≠ [] := by
    rw [← List.length_pos_iff]
    omega
  have isBeginning : wordsBetween words start stop <+: words.drop start :=
    List.take_prefix _ _
  have takes := (Step.takes_ofTokensFrom_iff compiled).mpr ⟨runs, cuts, rfl⟩
  obtain ⟨candidate, isCandidate, sameStart, sameLength⟩ :=
    exists_candidate_of_takes (by simpa using stepsLeft) (List.mem_singleton.mpr rfl)
      isBeginning takes someWords
  refine ⟨candidate, isCandidate, sameStart, ?_⟩
  rw [Candidate.stop, sameLength, rangeLength, sameStart]
  omega

end Candidate

namespace UnitScale

theorem count_ofRule
    (rule : Rule) :
    (ofRule rule).count = rule.unitSizes.length := by
  by_cases grouped : rule.usesGrouping = true
  · simp [count, ofRule, grouped, length_unitOffsets]
  · rw [Bool.not_eq_true] at grouped
    rw [Rule.unitSizes, Token.unitSizes_of_no_grouping grouped]
    simp [count, ofRule, grouped]

/-- The units of a rule are found by the sizes of those before them. -/
theorem bounds_ofRule
    {rule : Rule}
    {unit : Nat}
    (unitExists : unit < rule.unitSizes.length) :
    (ofRule rule).bounds unit =
      .ok ((rule.unitSizes.take unit).sum, (rule.unitSizes.take (unit + 1)).sum) := by
  by_cases grouped : rule.usesGrouping = true
  · have offsetOf :
        ∀ place : Nat, place ≤ rule.unitSizes.length →
          elementAt? (unitOffsets rule.unitSizes) place =
            some (rule.unitSizes.take place).sum := by
      intro place placeExists
      rw [elementAt?, if_pos (Int.natCast_nonneg place), Int.toNat_natCast,
        getElem?_unitOffsets placeExists]
    have first := offsetOf unit (Nat.le_of_lt unitExists)
    have last := offsetOf (unit + 1) unitExists
    rw [Int.natCast_add, Int.natCast_one] at last
    simp only [bounds, ofRule, grouped, if_true, first, last]
  · rw [Bool.not_eq_true] at grouped
    rw [Rule.unitSizes, Token.unitSizes_of_no_grouping grouped, List.length_replicate]
      at unitExists
    have sizeBefore (place : Nat) (inside : place ≤ rule.tokens.length) :
        (rule.unitSizes.take place).sum = place := by
      rw [Rule.unitSizes, Token.unitSizes_of_no_grouping grouped, List.take_replicate,
        Nat.min_eq_left inside, List.sum_replicate_nat, Nat.mul_one]
    rw [sizeBefore unit (Nat.le_of_lt unitExists), sizeBefore (unit + 1) unitExists]
    simp [bounds, ofRule, grouped]

/-- The first unit of a rule starts at its first token, and the last one ends with the last. -/
theorem exists_bounds_ofRule
    {rule : Rule}
    (someUnits : 0 < (ofRule rule).count) :
    (∃ last, (ofRule rule).bounds 0 = .ok (0, last)) ∧
      ∃ first,
        (ofRule rule).bounds ((ofRule rule).count - 1 : Nat) = .ok (first, rule.tokens.length) := by
  have tokenCount : rule.unitSizes.sum = rule.tokens.length := Token.sum_unitSizes rule.tokens
  rw [count_ofRule] at someUnits ⊢
  have firstBounds := bounds_ofRule someUnits
  have lastBounds := bounds_ofRule (Nat.sub_lt someUnits Nat.one_pos)
  rw [Nat.sub_add_cancel someUnits, List.take_length, tokenCount] at lastBounds
  exact ⟨⟨_, firstBounds⟩, _, lastBounds⟩

/-- Where no unit is dropped, all words of a candidate are flagged. -/
theorem marked_ofRule_without_corrections
    {rule : Rule}
    {candidate : Candidate}
    (nonempty : candidate.start < candidate.stop)
    (owners : ∀ token ∈ candidate.alignment, token < rule.tokens.length) :
    (ofRule rule).marked 0 0 candidate = .ok (candidate.start, candidate.stop) := by
  simp only [marked]
  split
  · rfl
  · rename_i unitsLeft
    have someUnits : 0 < (ofRule rule).count := by omega
    have lastUnit :
        ((ofRule rule).count : Int) - 0 - 1 = ((ofRule rule).count - 1 : Nat) := by
      omega
    obtain ⟨⟨last, firstBounds⟩, first, lastBounds⟩ := exists_bounds_ofRule someUnits
    have isPosition (position : Nat) :=
      @Candidate.mem_positionsBetween_all_iff candidate rule.tokens.length owners position
    have least :
        (candidate.positionsBetween rule.tokens.length 0 rule.tokens.length).min? =
          some candidate.start := by
      rw [List.min?_eq_some_iff]
      exact
        ⟨(isPosition _).mpr ⟨Nat.le_refl _, nonempty⟩,
          fun position member => ((isPosition position).mp member).1⟩
    have greatest :
        (candidate.positionsBetween rule.tokens.length 0 rule.tokens.length).max? =
          some (candidate.stop - 1) := by
      rw [List.max?_eq_some_iff]
      refine ⟨(isPosition _).mpr (by omega), fun position member => ?_⟩
      have := ((isPosition position).mp member).2
      omega
    have ofAllTokens : (ofRule rule).tokens = rule.tokens.length := rfl
    have stopShape : candidate.stop - 1 + 1 = candidate.stop := by omega
    simp only [firstBounds, lastUnit, lastBounds, ofAllTokens, least, greatest, stopShape, bind,
      Except.bind]
    rfl

end UnitScale

/-- The range is not empty, and its words can be cut into runs whose references hold. -/
def HasCut (caseCounts : Token → Bool) (tokens : List Token) (words : List Word)
    (start stop : Nat) : Prop :=
  start < stop ∧
    stop ≤ words.length ∧
      ∃ runs, Cuts tokens (wordsBetween words start stop) runs ∧ RunsRepeat caseCounts tokens runs

/-- The range is not empty, and its words can be cut, into runs whose references hold only. -/
def HasOnlyRepeatingCuts (tokens : List Token) (words : List Word) (start stop : Nat) : Prop :=
  start < stop ∧
    stop ≤ words.length ∧
      (∃ runs, Cuts tokens (wordsBetween words start stop) runs) ∧
        ∀ runs,
          Cuts tokens (wordsBetween words start stop) runs →
            RunsRepeat Token.caseSensitive tokens runs

/-- Without references all of them hold of any runs. -/
theorem runsRepeat_of_no_reference
    {tokens : List Token}
    (noReference : ∀ token ∈ tokens, token.reference = none)
    (caseCounts : Token → Bool)
    (runs : List (List Word)) :
    RunsRepeat caseCounts tokens runs := by
  intro index token reference own target isToken isReference
  have member : token ∈ tokens := List.mem_of_getElem? isToken
  rw [noReference token member] at isReference
  cases isReference

namespace Rule

variable {rule : Rule} {tokens : List Token} {sentence : Sentence} {found : List RuleMatch}

/-- Where no unit is dropped, all words of a candidate of the pattern are flagged. -/
theorem marked_of_mem_candidates
    (sameTokens : rule.tokens = tokens)
    {steps : List Step}
    (compiled : Step.ofTokens tokens = .ok steps)
    (stepsLeft : steps ≠ [])
    {words : List Word}
    {candidate : Candidate}
    (member : candidate ∈ candidates [steps] words) :
    (UnitScale.ofRule rule).marked 0 0 candidate = .ok (candidate.start, candidate.stop) := by
  obtain ⟨nonempty, _⟩ := range_of_mem_candidates (by simpa using stepsLeft) member
  refine UnitScale.marked_ofRule_without_corrections nonempty fun token owner => ?_
  rw [sameTokens]
  exact Candidate.lt_of_mem_alignment compiled stepsLeft member owner

/-- Where no unit is dropped, a match flags words that have a cut. -/
theorem exists_hasCut_of_mem_matchTokens
    (sameTokens : rule.tokens = tokens)
    (precede : referencesPrecede tokens)
    (fromStart : rule.startCorrection = 0)
    (fromEnd : rule.endCorrection = 0)
    (succeeds : rule.matchTokens tokens sentence = .ok found)
    {ruleMatch : RuleMatch}
    (member : ruleMatch ∈ found) :
    ∃ start stop : Nat,
      ruleMatch.wordSpan = ((start : Int), (stop : Int)) ∧
        HasCut Token.caseSensitive tokens sentence.words start stop := by
  obtain ⟨steps, compiled, stepsLeft, candidate, isCandidate, hold, ofCandidate⟩ :=
    exists_candidate_of_mem_matchTokens succeeds member
  obtain ⟨runs, cut, cuts⟩ :=
    Candidate.exists_cut_of_mem_candidates compiled stepsLeft isCandidate
  obtain ⟨nonempty, inside⟩ := range_of_mem_candidates (by simpa using stepsLeft) isCandidate
  have runForEach : tokens.length = runs.length := cuts.taken.length_eq
  obtain ⟨first, last, marked, wordSpan⟩ := wordSpan_of_matchOfCandidate ofCandidate
  rw [fromStart, fromEnd, marked_of_mem_candidates sameTokens compiled stepsLeft isCandidate]
    at marked
  cases marked
  exact
    ⟨candidate.start, candidate.stop, wordSpan, nonempty, inside, runs, cuts,
      (cut.referencesHold_iff precede runForEach).mp hold⟩

/--
Where nothing is immunized and no unit is dropped, a range that is cut into runs whose
references hold however it is cut makes a match.
-/
theorem ne_nil_of_hasOnlyRepeatingCuts
    (precede : referencesPrecede tokens)
    (fromStart : rule.startCorrection = 0)
    (fromEnd : rule.endCorrection = 0)
    (nothingImmunized : sentence.immunized = [])
    (succeeds : rule.matchTokens tokens sentence = .ok found)
    {start stop : Nat}
    (repeats : HasOnlyRepeatingCuts tokens sentence.words start stop) :
    found ≠ [] := by
  obtain ⟨nonempty, inside, ⟨someRuns, someCuts⟩, allRepeat⟩ := repeats
  have someTokens : tokens ≠ [] := by
    rintro rfl
    obtain ⟨noWords, taken⟩ := someCuts
    cases taken
    have rangeLength := length_wordsBetween inside start
    rw [← noWords, List.flatten_nil, List.length_nil] at rangeLength
    omega
  obtain ⟨steps, allowed, compiled, stepsLeft, allowedSucceeds, matched⟩ :=
    exists_allowed_of_matchTokens someTokens succeeds
  rw [withoutImmunized_of_marked (exists_marked_of_no_corrections fromStart fromEnd _)
    nothingImmunized] at allowedSucceeds
  cases allowedSucceeds
  obtain ⟨candidate, isCandidate, rfl, rfl⟩ :=
    Candidate.exists_candidate_of_cuts compiled stepsLeft nonempty inside someCuts
  -- The candidate may have been cut in another way.
  obtain ⟨runs, cut, cuts⟩ :=
    Candidate.exists_cut_of_mem_candidates compiled stepsLeft isCandidate
  have hold :=
    (cut.referencesHold_iff precede cuts.taken.length_eq).mpr (allRepeat runs cuts)
  have accepted := List.mem_filter.mpr ⟨isCandidate, hold⟩
  have someKept := Candidate.longestFirst_ne_nil (List.ne_nil_of_mem accepted)
  rintro rfl
  exact someKept (List.forall₂_nil_right_iff.mp matched)

/--
Where no unit is dropped, matches flag words that have a cut. Without references there is
a match exactly if some words have one, as long as nothing is immunized.
-/
theorem hasCut_of_matchesIn_and_ne_nil_iff
    {precede : referencesPrecede tokens}
    (pattern : rule.pattern = .tokens tokens precede)
    (fromStart : rule.startCorrection = 0)
    (fromEnd : rule.endCorrection = 0)
    (succeeds : rule.matchesIn sentence = .ok found) :
    (∀ token ∈ tokens, ∀ count,
        token.spec.operator.Admits count ↔
          token.least ≤ count ∧ ∀ most, token.most = some most → count ≤ most) ∧
      ∃ immunized,
        rule.immunizer sentence = .ok immunized ∧
          (rule.ownImmunizer = none →
            immunized.words = sentence.words ∧ (rule.antipatterns = [] → immunized = sentence)) ∧
          (∀ ruleMatch ∈ found,
            ∃ start stop : Nat,
              ruleMatch.wordSpan = ((start : Int), (stop : Int)) ∧
                HasCut Token.caseSensitive tokens immunized.words start stop) ∧
          ((∀ token ∈ tokens, token.reference = none) → immunized.immunized = [] →
            (found ≠ [] ↔
              ∃ start stop, HasCut Token.caseSensitive tokens immunized.words start stop)) := by
  obtain ⟨immunized, immunizes, matched⟩ := exists_immunized_of_matchesIn pattern succeeds
  have flagged :
      ∀ ruleMatch ∈ found,
        ∃ start stop : Nat,
          ruleMatch.wordSpan = ((start : Int), (stop : Int)) ∧
            HasCut Token.caseSensitive tokens immunized.words start stop :=
    fun ruleMatch member =>
      exists_hasCut_of_mem_matchTokens (tokens_of_pattern pattern) precede fromStart fromEnd matched
        member
  refine ⟨fun token _ count => Token.operator_admits_iff, immunized, immunizes, ?_, flagged, ?_⟩
  · intro defaultImmunizer
    refine ⟨words_of_immunizer defaultImmunizer immunizes, fun noAntipatterns => ?_⟩
    rw [immunizer_without_antipatterns defaultImmunizer noAntipatterns] at immunizes
    exact (Except.ok.inj immunizes).symm
  · intro noReference nothingImmunized
    constructor
    · intro someFound
      obtain ⟨ruleMatch, member⟩ := List.exists_mem_of_ne_nil found someFound
      obtain ⟨start, stop, _, hasCut⟩ := flagged ruleMatch member
      exact ⟨start, stop, hasCut⟩
    · rintro ⟨start, stop, nonempty, inside, runs, cuts, _⟩
      exact
        ne_nil_of_hasOnlyRepeatingCuts precede fromStart fromEnd nothingImmunized matched
          ⟨nonempty, inside, ⟨runs, cuts⟩,
            fun other _ => runsRepeat_of_no_reference noReference _ other⟩

/-- A word that may be missing before any other word. -/
def atMostTwoWords : List Token :=
  [{ Token.placeholder (.text "") with
      least := 0
      bounds_ordered := by simp [Token.placeholder] },
    .placeholder (.text "")]

/-- One word has a cut in which the first run is empty, so it makes a match. -/
theorem ne_nil_iff_hasCut_atMostTwoWords :
    ∃ precede found,
      (withTokens atMostTwoWords precede).matchesIn { words := [{ text := "one" }] } =
          .ok found ∧
        found ≠ [] := by
  have precede : referencesPrecede atMostTwoWords := badReference?_eq_none_iff.mp (by decide)
  obtain ⟨found, succeeds⟩ := exists_matchesIn_withTokens precede rfl [{ text := "one" }]
  obtain ⟨_, immunized, _, asItIs, _, complete⟩ :=
    hasCut_of_matchesIn_and_ne_nil_iff rfl rfl rfl succeeds
  obtain ⟨_, leftAsItIs⟩ := asItIs rfl
  have noReference : ∀ token ∈ atMostTwoWords, token.reference = none := by
    simp [atMostTwoWords, Token.placeholder]
  rw [leftAsItIs rfl] at complete
  refine ⟨precede, found, succeeds, (complete noReference rfl).mpr ⟨0, 1, ?_⟩⟩
  refine ⟨by decide, by decide, [[], [{ text := "one" }]], ⟨rfl, ?_⟩,
    runsRepeat_of_no_reference noReference _ _⟩
  exact
    .cons ((Token.takesRun_iff_admits rfl).mpr (Nat.zero_le 1))
      (.cons ((Token.takesRun_iff_admits rfl).mpr rfl) .nil)

/-- A range that can be cut makes a match if the references hold however it is cut. -/
theorem ne_nil_of_repeating_cuts
    {precede : referencesPrecede tokens}
    (pattern : rule.pattern = .tokens tokens precede)
    (defaultImmunizer : rule.ownImmunizer = none)
    (noAntipatterns : rule.antipatterns = [])
    (fromStart : rule.startCorrection = 0)
    (fromEnd : rule.endCorrection = 0)
    (nothingImmunized : sentence.immunized = [])
    (succeeds : rule.matchesIn sentence = .ok found)
    {start stop : Nat}
    (repeats : HasOnlyRepeatingCuts tokens sentence.words start stop) :
    found ≠ [] := by
  obtain ⟨immunized, immunizes, matched⟩ := exists_immunized_of_matchesIn pattern succeeds
  rw [immunizer_without_antipatterns defaultImmunizer noAntipatterns] at immunizes
  cases immunizes
  exact ne_nil_of_hasOnlyRepeatingCuts precede fromStart fromEnd nothingImmunized matched repeats

/-- A token that repeats the first one. -/
def sameAsFirst (caseSensitive : Bool) : Token :=
  { Token.placeholder (.text "") with
    caseSensitive := caseSensitive
    reference := some 0
    negation_has_subject := by simp }

/-- A token for one or two words of any kind. -/
def oneOrTwoWords : Token :=
  { Token.placeholder (.text "") with
    most := some 2
    bounds_ordered := by simp [Token.placeholder] }

/-- The only reference of a pattern holds if the last run repeats the text of the first. -/
theorem runsRepeat_of_last
    {caseCounts : Token → Bool}
    {caseSensitive : Bool}
    (earlier : List Token)
    (noReference : ∀ token ∈ earlier, token.reference = none)
    {runs : List (List Word)}
    {own first : List Word}
    (isOwn : runs[earlier.length]? = some own)
    (isFirst : runs[0]? = some first)
    (sameText :
      textOfRun (caseCounts (sameAsFirst caseSensitive)) own =
        textOfRun (caseCounts (sameAsFirst caseSensitive)) first) :
    RunsRepeat caseCounts (earlier ++ [sameAsFirst caseSensitive]) runs := by
  intro index token reference own' target isToken isReference isOwn' isTarget _
  rcases Nat.lt_trichotomy index earlier.length with before | rfl | after
  · rw [List.getElem?_append_left before] at isToken
    rw [noReference token (List.mem_of_getElem? isToken)] at isReference
    cases isReference
  · rw [List.getElem?_concat_length] at isToken
    cases isToken
    cases isReference
    rw [isOwn] at isOwn'
    rw [Int.toNat_zero, isFirst] at isTarget
    cases isOwn'
    cases isTarget
    exact iff_of_true sameText rfl
  · rw [List.getElem?_eq_none (by simpa using Nat.succ_le_of_lt after)] at isToken
    cases isToken

/--
Repeated words are not found if they are written with other letters and case counts, or if
the words before them are not cut as they should be.
-/
theorem matchesIn_eq_nil_of_hasCut :
    (∃ precede,
        (withTokens [.placeholder (.text ""), sameAsFirst true] precede).matchesIn
            { words := [{ text := "The" }, { text := "the" }] } = .ok [] ∧
          HasCut (fun _ => false) [.placeholder (.text ""), sameAsFirst true]
            [{ text := "The" }, { text := "the" }] 0 2) ∧
      ∃ precede,
        (withTokens [oneOrTwoWords, oneOrTwoWords, sameAsFirst false] precede).matchesIn
            { words := [{ text := "x" }, { text := "y" }, { text := "z" }, { text := "x" }] } =
          .ok [] ∧
          HasCut (fun _ => false) [oneOrTwoWords, oneOrTwoWords, sameAsFirst false]
            [{ text := "x" }, { text := "y" }, { text := "z" }, { text := "x" }] 0 4 := by
  constructor
  · refine ⟨badReference?_eq_none_iff.mp (by decide), matchesIn_of_no_accepted _ rfl, by decide,
      by decide, [[{ text := "The" }], [{ text := "the" }]], ⟨rfl, ?_⟩, ?_⟩
    · exact
        .cons ((Token.takesRun_iff_admits rfl).mpr rfl)
          (.cons ((Token.takesRun_iff_admits rfl).mpr rfl) .nil)
    · exact runsRepeat_of_last [.placeholder (.text "")] (by simp [Token.placeholder])
        rfl rfl (by decide +kernel)
  · refine ⟨badReference?_eq_none_iff.mp (by decide), matchesIn_of_no_accepted _ rfl, by decide,
      by decide, [[{ text := "x" }], [{ text := "y" }, { text := "z" }], [{ text := "x" }]],
      ⟨rfl, ?_⟩, ?_⟩
    · exact
        .cons ((Token.takesRun_iff_admits rfl).mpr (And.intro (by decide) (by decide)))
          (.cons ((Token.takesRun_iff_admits rfl).mpr (And.intro (by decide) (by decide)))
            (.cons ((Token.takesRun_iff_admits rfl).mpr rfl) .nil))
    · exact runsRepeat_of_last [oneOrTwoWords, oneOrTwoWords]
        (by simp [Token.placeholder, oneOrTwoWords]) rfl rfl rfl

/-- A word that is repeated with other letters makes a match where case does not count. -/
theorem ne_nil_of_repeating_cuts_sameWord :
    ∃ precede found,
      (withTokens [.placeholder (.text ""), sameAsFirst false] precede).matchesIn
          { words := [{ text := "The" }, { text := "the" }] } = .ok found ∧
        found ≠ [] := by
  have precede : referencesPrecede [.placeholder (.text ""), sameAsFirst false] :=
    badReference?_eq_none_iff.mp (by decide)
  obtain ⟨found, succeeds⟩ :=
    exists_matchesIn_withTokens precede rfl [{ text := "The" }, { text := "the" }]
  have onlyRepeating :
      HasOnlyRepeatingCuts [.placeholder (.text ""), sameAsFirst false]
        [{ text := "The" }, { text := "the" }] 0 2 := by
    refine ⟨by decide, by decide, ⟨[[{ text := "The" }], [{ text := "the" }]], rfl, ?_⟩, ?_⟩
    · exact
        .cons ((Token.takesRun_iff_admits rfl).mpr rfl)
          (.cons ((Token.takesRun_iff_admits rfl).mpr rfl) .nil)
    · rintro runs ⟨together, taken⟩
      obtain ⟨first, later, takesFirst, laterTaken, rfl⟩ := List.forall₂_cons_left_iff.mp taken
      obtain ⟨own, others, takesOwn, othersTaken, rfl⟩ := List.forall₂_cons_left_iff.mp laterTaken
      obtain rfl := List.forall₂_nil_left_iff.mp othersTaken
      obtain ⟨firstWord, rfl⟩ :=
        List.length_eq_one_iff.mp ((Token.takesRun_iff_admits rfl).mp takesFirst)
      obtain ⟨ownWord, rfl⟩ :=
        List.length_eq_one_iff.mp ((Token.takesRun_iff_admits rfl).mp takesOwn)
      cases together
      exact runsRepeat_of_last [.placeholder (.text "")] (by simp [Token.placeholder]) rfl rfl
        (by decide +kernel)
  exact
    ⟨precede, found, succeeds,
      ne_nil_of_repeating_cuts rfl rfl rfl rfl rfl rfl succeeds onlyRepeating⟩

end Rule

end ProseRules
