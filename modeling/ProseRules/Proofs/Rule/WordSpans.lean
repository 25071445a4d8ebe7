import ProseRules.Proofs.Rule.Matching
import ProseRules.Proofs.Rule.Messages

namespace ProseRules

/-!
# The words that matches flag

What is flagged of a candidate lies in its range and is not empty, whatever units are
dropped at its ends. The candidates of the matches stand apart and in the order of the
text, so their flagged words do too.
-/

namespace Candidate

/-- A word was given to a token exactly if the alignment has the token at its place. -/
theorem mem_positionsOf_iff
    {candidate : Candidate}
    {token position : Nat} :
    position ∈ candidate.positionsOf token ↔
      candidate.start ≤ position ∧
        candidate.alignment[position - candidate.start]? = some token := by
  simp only [positionsOf, List.mem_filterMap, Prod.exists,
    List.mk_mem_zipIdx_iff_le_and_getElem?_sub]
  constructor
  · rintro ⟨owner, place, ⟨notBefore, given⟩, chosen⟩
    split at chosen
    · rename_i sameOwner
      cases chosen
      exact ⟨notBefore, by rw [given, sameOwner]⟩
    · cases chosen
  · rintro ⟨notBefore, given⟩
    exact ⟨token, position, ⟨notBefore, given⟩, by simp⟩

/-- Words given to tokens lie in the range of the candidate. -/
theorem mem_range_of_mem_positionsBetween
    {candidate : Candidate}
    {tokens position : Nat}
    {first last : Int}
    (member : position ∈ candidate.positionsBetween tokens first last) :
    candidate.start ≤ position ∧ position < candidate.stop := by
  obtain ⟨token, _, given⟩ := List.mem_flatMap.mp member
  obtain ⟨notBefore, atPlace⟩ := mem_positionsOf_iff.mp given
  have := (List.getElem?_eq_some_iff.mp atPlace).1
  exact ⟨notBefore, by rw [stop]; omega⟩

end Candidate

/-- The least and the greatest of some numbers are among them and in order. -/
theorem min?_le_max?
    {numbers : List Nat}
    {least greatest : Nat}
    (isLeast : numbers.min? = some least)
    (isGreatest : numbers.max? = some greatest) :
    least ∈ numbers ∧ greatest ∈ numbers ∧ least ≤ greatest := by
  obtain ⟨leastMember, _⟩ := List.min?_eq_some_iff.mp isLeast
  obtain ⟨greatestMember, below⟩ := List.max?_eq_some_iff.mp isGreatest
  exact ⟨leastMember, greatestMember, below least leastMember⟩

/-- The flagged words of a non-empty candidate are some words of its range. -/
theorem UnitScale.marked_within
    {scale : UnitScale}
    {startCorrection endCorrection : Int}
    {candidate : Candidate}
    (nonempty : candidate.start < candidate.stop)
    {first last : Nat}
    (succeeds : scale.marked startCorrection endCorrection candidate = .ok (first, last)) :
    candidate.start ≤ first ∧ first < last ∧ last ≤ candidate.stop := by
  simp only [marked] at succeeds
  split at succeeds
  · cases succeeds
    exact ⟨Nat.le_refl _, nonempty, Nat.le_refl _⟩
  · obtain ⟨⟨firstToken, _⟩, _, afterFirst⟩ := Outcome.bind_eq_ok_iff.mp succeeds
    obtain ⟨⟨_, lastToken⟩, _, flagged⟩ := Outcome.bind_eq_ok_iff.mp afterFirst
    simp only at flagged
    split at flagged
    · rename_i least greatest isLeast isGreatest
      cases flagged
      obtain ⟨leastMember, greatestMember, inOrder⟩ := min?_le_max? isLeast isGreatest
      have leastInside := Candidate.mem_range_of_mem_positionsBetween leastMember
      have greatestInside := Candidate.mem_range_of_mem_positionsBetween greatestMember
      omega
    · cases flagged
      exact ⟨Nat.le_refl _, nonempty, Nat.le_refl _⟩

/-- A candidate is not empty and ends where the words do at the latest. -/
theorem range_of_mem_candidates
    {patterns : List (List Step)}
    (nonempty : ∀ steps ∈ patterns, steps ≠ [])
    {words : List Word}
    {candidate : Candidate}
    (member : candidate ∈ candidates patterns words) :
    candidate.start < candidate.stop ∧ candidate.stop ≤ words.length := by
  obtain ⟨someWords, _, _, taken, isBeginning, takes⟩ := takes_of_mem_candidates nonempty member
  have := List.length_pos_iff.mpr someWords
  have := takes.length_eq
  have := isBeginning.length_le
  rw [List.length_drop] at this
  rw [Candidate.stop]
  omega

namespace Rule

/-- A match flags the words that are marked of its candidate, from the first to the last one. -/
theorem spans_of_matchOfCandidate
    {rule : Rule}
    {scale : UnitScale}
    {sentence : Sentence}
    {candidate : Candidate}
    {ruleMatch : RuleMatch}
    (succeeds : rule.matchOfCandidate scale sentence candidate = .ok ruleMatch) :
    ∃ first last : Nat,
      scale.marked rule.startCorrection rule.endCorrection candidate = .ok (first, last) ∧
        ruleMatch.wordSpan = ((first : Int), (last : Int)) ∧
          ruleMatch.span =
            ((offsetOf sentence.words first : Int),
              (offsetOf sentence.words (last - 1) +
                ((sentence.words[last - 1]?).map Word.length).getD 0 : Int)) := by
  obtain ⟨⟨first, last⟩, marked, built⟩ := Outcome.bind_eq_ok_iff.mp succeeds
  obtain ⟨span, wordSpan⟩ := spans_of_buildMatch built
  exact ⟨first, last, marked, wordSpan, span⟩

/-- A match flags the words that are marked of its candidate. -/
theorem wordSpan_of_matchOfCandidate
    {rule : Rule}
    {scale : UnitScale}
    {sentence : Sentence}
    {candidate : Candidate}
    {ruleMatch : RuleMatch}
    (succeeds : rule.matchOfCandidate scale sentence candidate = .ok ruleMatch) :
    ∃ first last : Nat,
      scale.marked rule.startCorrection rule.endCorrection candidate = .ok (first, last) ∧
        ruleMatch.wordSpan = ((first : Int), (last : Int)) := by
  obtain ⟨first, last, marked, wordSpan, _⟩ := spans_of_matchOfCandidate succeeds
  exact ⟨first, last, marked, wordSpan⟩

/-- Matches that flag some of the words each, apart and in the order of the text. -/
structure WordSpansOrdered (words : List Word) (found : List RuleMatch) : Prop where
  inside :
    ∀ ruleMatch ∈ found,
      0 ≤ ruleMatch.wordSpan.1 ∧
        ruleMatch.wordSpan.1 < ruleMatch.wordSpan.2 ∧ ruleMatch.wordSpan.2 ≤ words.length
  ordered : found.Pairwise fun first second => first.wordSpan.2 ≤ second.wordSpan.1

/-- Matches of candidates that stand in order flag words that stand in order. -/
theorem pairwise_wordSpan
    {rule : Rule}
    {scale : UnitScale}
    {sentence : Sentence}
    {kept : List Candidate}
    (nonempty : ∀ candidate ∈ kept, candidate.start < candidate.stop)
    (ordered : kept.Pairwise fun first second => first.stop ≤ second.start)
    {found : List RuleMatch}
    (matched :
      List.Forall₂
        (fun candidate ruleMatch =>
          rule.matchOfCandidate scale sentence candidate = .ok ruleMatch)
        kept found) :
    found.Pairwise fun first second => first.wordSpan.2 ≤ second.wordSpan.1 := by
  induction matched with
  | nil =>
      exact .nil
  | @cons candidate ruleMatch kept found ofCandidate laterMatched inductionHypothesis =>
      obtain ⟨before, laterOrdered⟩ := List.pairwise_cons.mp ordered
      obtain ⟨candidateNonempty, laterNonempty⟩ := List.forall_mem_cons.mp nonempty
      refine .cons ?_ (inductionHypothesis laterNonempty laterOrdered)
      intro laterMatch member
      rw [← Outcome.mapM_eq_ok_iff] at laterMatched
      obtain ⟨later, laterKept, ofLater⟩ := Outcome.exists_item_of_mem_mapM laterMatched member
      obtain ⟨first, last, marked, wordSpan⟩ := wordSpan_of_matchOfCandidate ofCandidate
      obtain ⟨laterFirst, laterLast, laterMarked, laterSpan⟩ :=
        wordSpan_of_matchOfCandidate ofLater
      have inRange := UnitScale.marked_within candidateNonempty marked
      have laterInRange := UnitScale.marked_within (laterNonempty later laterKept) laterMarked
      have apart := before later laterKept
      rw [wordSpan, laterSpan]
      simp only
      omega

/-- The matches of a token pattern flag words in the order of the sentence. -/
theorem wordSpansOrdered_of_matchTokens
    {rule : Rule}
    {tokens : List Token}
    {sentence : Sentence}
    {found : List RuleMatch}
    (succeeds : rule.matchTokens tokens sentence = .ok found) :
    WordSpansOrdered sentence.words found := by
  by_cases someTokens : tokens = []
  · subst someTokens
    rw [eq_nil_of_matchTokens_nil succeeds]
    exact ⟨by simp, .nil⟩
  · obtain ⟨steps, allowed, _, stepsLeft, allowedSucceeds, matched⟩ :=
      exists_allowed_of_matchTokens someTokens succeeds
    have inside :
        ∀ candidate ∈ allowed,
          candidate.start < candidate.stop ∧ candidate.stop ≤ sentence.words.length := by
      intro candidate member
      have accepted := mem_of_mem_withoutImmunized allowedSucceeds member
      exact range_of_mem_candidates (by simpa using stepsLeft) (List.mem_filter.mp accepted).1
    have keptInside :
        ∀ candidate ∈ Candidate.longestFirst allowed,
          candidate.start < candidate.stop ∧ candidate.stop ≤ sentence.words.length :=
      fun candidate member => inside candidate (Candidate.mem_of_mem_longestFirst member)
    have candidatesOrdered :=
      Candidate.ordered_longestFirst fun candidate member => (inside candidate member).1
    refine ⟨?_, pairwise_wordSpan (fun candidate member => (keptInside candidate member).1)
      candidatesOrdered matched⟩
    intro ruleMatch member
    rw [← Outcome.mapM_eq_ok_iff] at matched
    obtain ⟨candidate, kept, ofCandidate⟩ := Outcome.exists_item_of_mem_mapM matched member
    obtain ⟨first, last, marked, wordSpan⟩ := wordSpan_of_matchOfCandidate ofCandidate
    obtain ⟨candidateNonempty, candidateInside⟩ := keptInside candidate kept
    have inRange := UnitScale.marked_within candidateNonempty marked
    rw [wordSpan]
    simp only
    omega

/--
Overlaps are resolved by length and place alone, and in one way if the ranges differ.
So the matches of a token pattern flag words that stand apart and in order, whatever is
dropped at the ends of what was matched.
-/
theorem longestFirst_resolves_and_wordSpansOrdered :
    (∀ candidates : List Candidate,
        (∀ candidate ∈ candidates, candidate.start < candidate.stop) →
          Candidate.Resolves candidates (Candidate.longestFirst candidates) ∧
            (Candidate.RangesDiffer candidates →
              (∀ kept, Candidate.Resolves candidates kept →
                  kept = Candidate.longestFirst candidates) ∧
                ∀ others, others.Perm candidates →
                  Candidate.longestFirst others = Candidate.longestFirst candidates)) ∧
      ∀ (rule : Rule) (tokens : List Token) (precede : referencesPrecede tokens),
        rule.pattern = .tokens tokens precede →
          ∀ (sentence : Sentence) (found : List RuleMatch),
            rule.matchesIn sentence = .ok found →
              ∃ immunized,
                rule.immunizer sentence = .ok immunized ∧
                  (rule.ownImmunizer = none → immunized.words = sentence.words) ∧
                    WordSpansOrdered immunized.words found := by
  constructor
  · intro candidates nonempty
    have resolves := Candidate.resolves_longestFirst nonempty
    refine ⟨resolves, fun differ => ⟨?_, ?_⟩⟩
    · intro kept resolvesToo
      exact resolvesToo.eq_of_rangesDiffer nonempty differ resolves
    · intro others permuted
      exact Candidate.longestFirst_eq_of_perm nonempty differ permuted
  · intro rule tokens precede pattern sentence found succeeds
    obtain ⟨immunized, immunizes, matched⟩ := exists_immunized_of_matchesIn pattern succeeds
    exact
      ⟨immunized, immunizes, fun defaultImmunizer => words_of_immunizer defaultImmunizer immunizes,
        wordSpansOrdered_of_matchTokens matched⟩

/-- The rule of any two words, of which only the first one is flagged. -/
def firstOfTwo : Rule :=
  { withTokens [.placeholder (.text ""), .placeholder (.text "")]
      (badReference?_eq_none_iff.mp (by decide)) with
    endCorrection := 1 }

/-- A sentence of three words, two pairs of which overlap. -/
def threeWords : Sentence where
  words := [{ text := "one" }, { text := "two" }, { text := "three" }]

/-- Of two overlapping pairs of words the earlier one is kept, and its first word is flagged. -/
theorem wordSpansOrdered_of_firstOfTwo :
    (∀ kept, Candidate.Resolves [⟨1, [0, 1]⟩, ⟨0, [0, 1]⟩] kept → kept = [⟨0, [0, 1]⟩]) ∧
      ∃ ruleMatch,
        firstOfTwo.matchesIn threeWords = .ok [ruleMatch] ∧
          ruleMatch.wordSpan = (0, 1) ∧ WordSpansOrdered threeWords.words [ruleMatch] := by
  obtain ⟨resolution, spans⟩ := longestFirst_resolves_and_wordSpansOrdered
  obtain ⟨_, inOneWay⟩ := resolution [⟨1, [0, 1]⟩, ⟨0, [0, 1]⟩] (by decide)
  have differ : Candidate.RangesDiffer [⟨1, [0, 1]⟩, ⟨0, [0, 1]⟩] := by
    unfold Candidate.RangesDiffer
    decide
  have earlierResolves : Candidate.Resolves [⟨1, [0, 1]⟩, ⟨0, [0, 1]⟩] [⟨0, [0, 1]⟩] := by
    refine ⟨by simp, List.pairwise_singleton _ _, ?_⟩
    intro candidate member leftOut
    rcases List.mem_pair.mp member with rfl | rfl
    · exact ⟨⟨0, [0, 1]⟩, List.mem_singleton_self _, ⟨1, by decide⟩, .inr (by decide)⟩
    · exact (leftOut (List.mem_singleton_self _)).elim
  have earlierKept := (inOneWay differ).1 _ earlierResolves
  constructor
  · intro kept resolves
    exact ((inOneWay differ).1 kept resolves).trans earlierKept.symm
  · have accepted :
        acceptedCandidates firstOfTwo.tokens threeWords.words =
          .ok [⟨0, [0, 1]⟩, ⟨1, [0, 1]⟩] := by
      rfl
    have allowed :
        firstOfTwo.withoutImmunized (.ofRule firstOfTwo) threeWords
            [⟨0, [0, 1]⟩, ⟨1, [0, 1]⟩] =
          .ok [⟨0, [0, 1]⟩, ⟨1, [0, 1]⟩] := by
      rfl
    obtain ⟨ruleMatch, ofCandidate, wordSpan⟩ :
        ∃ ruleMatch,
          firstOfTwo.matchOfCandidate (.ofRule firstOfTwo) threeWords ⟨0, [0, 1]⟩ =
              .ok ruleMatch ∧
            ruleMatch.wordSpan = (0, 1) :=
      ⟨_, rfl, rfl⟩
    have keptInOrder : Candidate.longestFirst [⟨0, [0, 1]⟩, ⟨1, [0, 1]⟩] = [⟨0, [0, 1]⟩] :=
      ((inOneWay differ).2 _ (List.Perm.swap _ _ _)).trans earlierKept.symm
    have matched : firstOfTwo.matchTokens firstOfTwo.tokens threeWords = .ok [ruleMatch] := by
      have someTokens : firstOfTwo.tokens.isEmpty = false := rfl
      simp [matchTokens, someTokens, accepted, allowed, keptInOrder, ofCandidate, bind,
        Except.bind, pure, Except.pure]
    have found : firstOfTwo.matchesIn threeWords = .ok [ruleMatch] :=
      matchesIn_of_matchTokens rfl rfl rfl matched
    obtain ⟨immunized, _, sameWords, ordered⟩ := spans firstOfTwo _ _ rfl threeWords _ found
    rw [sameWords rfl] at ordered
    exact ⟨ruleMatch, found, wordSpan, ordered⟩

end Rule

end ProseRules
