import ProseRules.Proofs.Rule.WordSpans
import ProseRules.Proofs.Sentence.Offsets
import ProseRules.Proofs.Token.Literal

namespace ProseRules

/-!
# Immunized words are flagged by no match

The words that an anti-pattern takes join those that were immunized before. A token
pattern drops the candidates whose flagged words are immunized, and an expression the
occurrences whose characters touch immunized words, so no match flags a character of one.
-/

/-- The pattern takes a range of words that holds the one with an index. -/
def Token.Covers (tokens : List Token) (words : List Word) (index : Int) : Prop :=
  ∃ steps,
    Step.ofTokens tokens = .ok steps ∧
      ∃ candidate ∈ candidates [steps] words,
        candidate.start ≤ index ∧ index < candidate.stop

/-- No word is immunized between two places exactly if each immunized one lies elsewhere. -/
theorem Sentence.isImmunized_eq_false_iff
    {sentence : Sentence}
    {start stop : Int} :
    sentence.isImmunized start stop = false ↔
      ∀ index ∈ sentence.immunized, ¬(start ≤ index ∧ index < stop) := by
  simp [isImmunized, List.any_eq_false]

theorem Candidate.mem_indices_iff
    {candidate : Candidate}
    {index : Int} :
    index ∈ candidate.indices ↔ candidate.start ≤ index ∧ index < candidate.stop := by
  simp only [indices, List.mem_map, List.mem_range, stop, Int.ofNat_eq_natCast]
  constructor
  · rintro ⟨offset, inRange, rfl⟩
    omega
  · rintro ⟨fromStart, toStop⟩
    exact ⟨(index - candidate.start).toNat, by omega, by omega⟩

/-- Patterns that are run side by side take the words that each of them takes alone. -/
theorem mem_flatMap_indices_iff
    {patterns : List (List Step)}
    (nonempty : ∀ steps ∈ patterns, steps ≠ [])
    {words : List Word}
    {index : Int} :
    index ∈ (candidates patterns words).flatMap Candidate.indices ↔
      ∃ steps ∈ patterns,
        ∃ candidate ∈ candidates [steps] words,
          candidate.start ≤ index ∧ index < candidate.stop := by
  simp only [List.mem_flatMap, Candidate.mem_indices_iff]
  -- A range may be found with its words given to other tokens, so only ranges are compared.
  constructor
  · rintro ⟨candidate, member, inRange⟩
    obtain ⟨someWords, steps, isPattern, taken⟩ :=
      (exists_mem_candidates_iff nonempty).mp ⟨candidate, member, rfl, rfl⟩
    have stepsLeft : ∀ other ∈ [steps], other ≠ [] := by
      simpa using nonempty steps isPattern
    obtain ⟨other, otherMember, sameStart, sameStop⟩ :=
      (exists_mem_candidates_iff stepsLeft).mpr
        ⟨someWords, steps, List.mem_singleton_self steps, taken⟩
    exact ⟨steps, isPattern, other, otherMember, by rwa [sameStart, sameStop]⟩
  · rintro ⟨steps, isPattern, candidate, member, inRange⟩
    have stepsLeft : ∀ other ∈ [steps], other ≠ [] := by
      simpa using nonempty steps isPattern
    obtain ⟨someWords, other, isSteps, taken⟩ :=
      (exists_mem_candidates_iff stepsLeft).mp ⟨candidate, member, rfl, rfl⟩
    rw [List.mem_singleton.mp isSteps] at taken
    obtain ⟨found, foundMember, sameStart, sameStop⟩ :=
      (exists_mem_candidates_iff nonempty).mpr ⟨someWords, steps, isPattern, taken⟩
    exact ⟨found, foundMember, by rwa [sameStart, sameStop]⟩

/-- The words taken by some anti-pattern are those that one of them covers. -/
theorem mem_antipatternIndices_iff
    {antipatterns : List (List Token)}
    (nonempty : ∀ tokens ∈ antipatterns, tokens ≠ [])
    {words : List Word}
    {indices : List Int}
    (succeeds : antipatternIndices antipatterns words = .ok indices)
    {index : Int} :
    index ∈ indices ↔ ∃ tokens ∈ antipatterns, Token.Covers tokens words index := by
  obtain ⟨patterns, compiled, result⟩ := Outcome.bind_eq_ok_iff.mp succeeds
  cases result
  have stepsLeft : ∀ steps ∈ patterns, steps ≠ [] := by
    intro steps member
    obtain ⟨tokens, isAntipattern, ofTokens⟩ := Outcome.exists_item_of_mem_mapM compiled member
    exact Step.ofTokens_ne_nil (nonempty tokens isAntipattern) ofTokens
  rw [mem_flatMap_indices_iff stepsLeft]
  constructor
  · rintro ⟨steps, member, covered⟩
    obtain ⟨tokens, isAntipattern, ofTokens⟩ := (Outcome.mem_results_iff compiled).mp member
    exact ⟨tokens, isAntipattern, steps, ofTokens, covered⟩
  · rintro ⟨tokens, isAntipattern, steps, ofTokens, covered⟩
    exact ⟨steps, (Outcome.mem_results_iff compiled).mpr ⟨tokens, isAntipattern, ofTokens⟩, covered⟩

theorem Token.not_covers_nil
    (words : List Word)
    (index : Int) :
    ¬Covers [] words index := by
  rintro ⟨steps, ofTokens, candidate, member, _⟩
  cases ofTokens
  rw [candidates_no_steps] at member
  simp at member

/-- Anti-patterns immunize the words that one of them covers and no others. -/
theorem mem_immunized_iff
    {antipatterns : List (List Token)}
    {sentence immunized : Sentence}
    (succeeds : immunizeByAntipatterns antipatterns sentence = .ok immunized)
    {index : Int} :
    index ∈ immunized.immunized ↔
      index ∈ sentence.immunized ∨
        ∃ tokens ∈ antipatterns, Token.Covers tokens sentence.words index := by
  have coveredByKept :
      (∃ tokens ∈ antipatterns, Token.Covers tokens sentence.words index) ↔
        ∃ tokens ∈ antipatterns.filter (!·.isEmpty), Token.Covers tokens sentence.words index := by
    refine exists_congr fun tokens => ?_
    rw [List.mem_filter, and_assoc]
    refine and_congr_right fun _ => ⟨fun covers => ⟨?_, covers⟩, And.right⟩
    cases tokens with
    | nil =>
        exact (Token.not_covers_nil _ _ covers).elim
    | cons =>
        rfl
  rw [coveredByKept]
  simp only [immunizeByAntipatterns] at succeeds
  split at succeeds
  · rename_i noneKept
    cases succeeds
    rw [List.isEmpty_iff.mp noneKept]
    simp
  · obtain ⟨indices, taken, result⟩ := Outcome.bind_eq_ok_iff.mp succeeds
    have keptNonempty : ∀ tokens ∈ antipatterns.filter (!·.isEmpty), tokens ≠ [] := by
      intro tokens member
      simpa using (List.mem_filter.mp member).2
    rw [← mem_antipatternIndices_iff keptNonempty taken]
    cases result
    split
    · rename_i noneTaken
      rw [List.isEmpty_iff.mp noneTaken]
      simp
    · exact List.mem_append

namespace Rule

/-- The flagged words of a candidate that is left are not immunized. -/
theorem exists_marked_of_mem_withoutImmunized
    {rule : Rule}
    {scale : UnitScale}
    {sentence : Sentence}
    {candidates kept : List Candidate}
    (succeeds : rule.withoutImmunized scale sentence candidates = .ok kept)
    {candidate : Candidate}
    (member : candidate ∈ kept) :
    ∃ first last : Nat,
      scale.marked rule.startCorrection rule.endCorrection candidate = .ok (first, last) ∧
        sentence.isImmunized first last = false := by
  induction candidates generalizing kept with
  | nil =>
      cases succeeds
      simp at member
  | cons candidate' rest inductionHypothesis =>
      obtain ⟨first, last, marked, keptRest, succeedsRest, ⟨_, _, rfl⟩ | ⟨notImmunized, rfl⟩⟩ :=
        withoutImmunized_cons_eq_ok_iff.mp succeeds
      · exact inductionHypothesis succeedsRest member
      · rcases List.mem_cons.mp member with rfl | inRest
        · exact ⟨first, last, marked, notImmunized⟩
        · exact inductionHypothesis succeedsRest inRest

variable {rule : Rule} {sentence : Sentence} {found : List RuleMatch} {ruleMatch : RuleMatch}
  {index : Nat}

theorem not_sharesCharacter_of_mem_matchTokens
    {tokens : List Token}
    (succeeds : rule.matchTokens tokens sentence = .ok found)
    (member : ruleMatch ∈ found)
    (isImmunized : (index : Int) ∈ sentence.immunized) :
    ¬SharesCharacter sentence.words index ruleMatch.span := by
  have someTokens : tokens ≠ [] := by
    rintro rfl
    rw [eq_nil_of_matchTokens_nil succeeds] at member
    simp at member
  obtain ⟨steps, allowed, _, stepsLeft, allowedSucceeds, matched⟩ :=
    exists_allowed_of_matchTokens someTokens succeeds
  rw [← Outcome.mapM_eq_ok_iff] at matched
  obtain ⟨candidate, kept, ofCandidate⟩ := Outcome.exists_item_of_mem_mapM matched member
  have isAllowed := Candidate.mem_of_mem_longestFirst kept
  obtain ⟨first, last, marked, notImmunized⟩ :=
    exists_marked_of_mem_withoutImmunized allowedSucceeds isAllowed
  obtain ⟨_, _, markedAgain, _, span⟩ := spans_of_matchOfCandidate ofCandidate
  rw [marked] at markedAgain
  cases markedAgain
  obtain ⟨nonempty, inside⟩ :=
    range_of_mem_candidates (by simpa using stepsLeft)
      (List.mem_filter.mp (mem_of_mem_withoutImmunized allowedSucceeds isAllowed)).1
  have inRange := UnitScale.marked_within nonempty marked
  have isLast : sentence.words[last - 1]? = some sentence.words[last - 1] :=
    List.getElem?_eq_getElem (by omega)
  intro shares
  rw [span, isLast, Option.map_some, Option.getD_some] at shares
  have isFlagged := mem_range_of_sharesCharacter isLast shares
  exact Sentence.isImmunized_eq_false_iff.mp notImmunized index isImmunized (by omega)

theorem exists_occurrence_of_mem_matchExpression
    {expression : Regex.Expression}
    {mark : Nat}
    (succeeds : rule.matchExpression expression mark sentence = .ok found)
    (member : ruleMatch ∈ found) :
    ∃ occurrence ∈ expression.occurrences sentence.text.toList,
      rule.matchOfOccurrence mark sentence sentence.text.toList occurrence =
        .ok (some ruleMatch) := by
  obtain ⟨entries, matched, result⟩ := Outcome.bind_eq_ok_iff.mp succeeds
  cases result
  obtain ⟨entry, isEntry, rfl⟩ := List.mem_filterMap.mp member
  exact Outcome.exists_item_of_mem_mapM matched isEntry

theorem not_sharesCharacter_of_mem_matchExpression
    {expression : Regex.Expression}
    {mark : Nat}
    (succeeds : rule.matchExpression expression mark sentence = .ok found)
    (member : ruleMatch ∈ found)
    (isImmunized : (index : Int) ∈ sentence.immunized) :
    ¬SharesCharacter sentence.words index ruleMatch.span := by
  obtain ⟨occurrence, _, ofOccurrence⟩ :=
    exists_occurrence_of_mem_matchExpression succeeds member
  unfold matchOfOccurrence at ofOccurrence
  split at ofOccurrence
  · cases ofOccurrence
  · rename_i start stop _
    split at ofOccurrence
    · cases ofOccurrence
    · simp only at ofOccurrence
      split at ofOccurrence
      · obtain ⟨_, _, isNone⟩ := Outcome.map_eq_ok_iff.mp ofOccurrence
        cases isNone
      · rename_i notImmunized
        obtain ⟨built, isBuilt, isMatch⟩ := Outcome.map_eq_ok_iff.mp ofOccurrence
        cases isMatch
        intro shares
        rw [(spans_of_buildMatch isBuilt).1] at shares
        have touched := mem_wordSpan_of_sharesCharacter shares
        rw [Bool.not_eq_true, Sentence.isImmunized_eq_false_iff] at notImmunized
        exact notImmunized index isImmunized (by omega)

/--
No match of a rule flags a character of a word that was immunized before or that one of the
anti-patterns of the rule covers.
-/
theorem not_sharesCharacter_of_immunized_or_covered
    (defaultImmunizer : rule.ownImmunizer = none)
    (succeeds : rule.matchesIn sentence = .ok found)
    (member : ruleMatch ∈ found)
    (spared :
      (index : Int) ∈ sentence.immunized ∨
        ∃ antipattern ∈ rule.antipatterns, Token.Covers antipattern sentence.words index) :
    ¬SharesCharacter sentence.words index ruleMatch.span := by
  obtain ⟨_, immunized, immunizes, matched⟩ := matchesIn_eq_ok_iff.mp succeeds
  have sameWords := words_of_immunizer defaultImmunizer immunizes
  simp only [immunizer, defaultImmunizer, Option.getD_none] at immunizes
  have isImmunized := (mem_immunized_iff immunizes).mpr spared
  rw [← sameWords]
  unfold matchPattern at matched
  split at matched
  · cases matched
    simp at member
  · exact not_sharesCharacter_of_mem_matchTokens matched member isImmunized
  · exact not_sharesCharacter_of_mem_matchExpression matched member isImmunized

/-- A single token without a reference has none that goes to a later one. -/
theorem referencesPrecede_placeholder :
    referencesPrecede [.placeholder (.text "")] :=
  badReference?_eq_none_iff.mp (by decide)

/-- The rule of any word but a certain one. -/
def exceptFine : Rule :=
  { withTokens [.placeholder (.text "")] referencesPrecede_placeholder with
    antipatterns := [[.literal "fine" false false]] }

/-- A sentence with the excepted word, another word and one that is immunized. -/
def fineDayNow : Sentence where
  words := [{ text := "fine" }, { text := "day" }, { text := "now" }]
  immunized := [2]

/-- Of three words the one that is neither excepted nor immunized is flagged alone. -/
theorem not_sharesCharacter_exceptFine :
    ∃ ruleMatch,
      exceptFine.matchesIn fineDayNow = .ok [ruleMatch] ∧
        ruleMatch.wordSpan = (1, 2) ∧
          (Token.Covers [.literal "fine" false false] fineDayNow.words 0 ∧
            ¬SharesCharacter fineDayNow.words 0 ruleMatch.span) ∧
            (2 : Int) ∈ fineDayNow.immunized ∧
              ¬SharesCharacter fineDayNow.words 2 ruleMatch.span := by
  have immunizes :
      exceptFine.immunizer fineDayNow = .ok (fineDayNow.immunize [0]) := by
    rfl
  have accepted :
      acceptedCandidates exceptFine.tokens fineDayNow.words =
        .ok [⟨0, [0]⟩, ⟨1, [0]⟩, ⟨2, [0]⟩] := by
    rfl
  have allowed :
      exceptFine.withoutImmunized (.ofRule exceptFine) (fineDayNow.immunize [0])
          [⟨0, [0]⟩, ⟨1, [0]⟩, ⟨2, [0]⟩] =
        .ok [⟨1, [0]⟩] := by
    rfl
  obtain ⟨ruleMatch, ofCandidate, wordSpan⟩ :
      ∃ ruleMatch,
        exceptFine.matchOfCandidate (.ofRule exceptFine) (fineDayNow.immunize [0]) ⟨1, [0]⟩ =
            .ok ruleMatch ∧
          ruleMatch.wordSpan = (1, 2) :=
    ⟨_, rfl, rfl⟩
  have matched :
      exceptFine.matchTokens exceptFine.tokens (fineDayNow.immunize [0]) = .ok [ruleMatch] := by
    have someTokens : exceptFine.tokens.isEmpty = false := rfl
    simp [matchTokens, someTokens, accepted, allowed, Candidate.longestFirst, Candidate.choose,
      ofCandidate, bind, Except.bind, pure, Except.pure]
  have found : exceptFine.matchesIn fineDayNow = .ok [ruleMatch] :=
    matchesIn_of_immunized rfl immunizes matched
  have covered : Token.Covers [.literal "fine" false false] fineDayNow.words 0 :=
    ⟨_, rfl, ⟨0, [0]⟩, List.mem_singleton_self _, by decide, by decide⟩
  refine ⟨ruleMatch, found, wordSpan, ⟨covered, ?_⟩, List.mem_singleton_self _, ?_⟩
  · exact
      not_sharesCharacter_of_immunized_or_covered rfl found (List.mem_singleton_self ruleMatch)
        (.inr ⟨_, List.mem_singleton_self _, covered⟩)
  · exact
      not_sharesCharacter_of_immunized_or_covered rfl found (List.mem_singleton_self ruleMatch)
        (.inl (List.mem_singleton_self _))

end Rule

end ProseRules
