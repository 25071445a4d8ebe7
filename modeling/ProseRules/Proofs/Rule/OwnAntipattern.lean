import ProseRules.Proofs.Rule.Failures
import ProseRules.Proofs.Rule.Immunization

namespace ProseRules

/-!
# Rules that are their own anti-pattern

A row of tokens takes the same words as a pattern and as an anti-pattern. Whatever is dropped
at the ends of a candidate, some of its words are flagged, and as an anti-pattern the same
tokens immunize them. So no candidate is left.
-/

/-- An anti-pattern immunizes all words that its tokens take as a pattern. -/
theorem Candidate.mem_immunized_of_mem_candidates
    {antipatterns : List (List Token)}
    {tokens : List Token}
    (isAntipattern : tokens ∈ antipatterns)
    {steps : List Step}
    (compiled : Step.ofTokens tokens = .ok steps)
    {sentence immunized : Sentence}
    (immunizes : immunizeByAntipatterns antipatterns sentence = .ok immunized)
    {candidate : Candidate}
    (isCandidate : candidate ∈ candidates [steps] immunized.words)
    {index : Int}
    (fromStart : candidate.start ≤ index)
    (toStop : index < candidate.stop) :
    index ∈ immunized.immunized := by
  rw [words_of_immunizeByAntipatterns immunizes] at isCandidate
  exact
    (mem_immunized_iff immunizes).mpr
      (.inr ⟨tokens, isAntipattern, steps, compiled, candidate, isCandidate, fromStart, toStop⟩)

namespace Rule

/-- None of the candidates of an anti-pattern is left after immunization. -/
theorem eq_nil_of_withoutImmunized_own
    {rule : Rule}
    {scale : UnitScale}
    {antipatterns : List (List Token)}
    {tokens : List Token}
    (isAntipattern : tokens ∈ antipatterns)
    (someTokens : tokens ≠ [])
    {steps : List Step}
    (compiled : Step.ofTokens tokens = .ok steps)
    {sentence immunized : Sentence}
    (immunizes : immunizeByAntipatterns antipatterns sentence = .ok immunized)
    {accepted allowed : List Candidate}
    (areCandidates : accepted ⊆ candidates [steps] immunized.words)
    (succeeds : rule.withoutImmunized scale immunized accepted = .ok allowed) :
    allowed = [] := by
  refine List.eq_nil_iff_forall_not_mem.mpr fun candidate isLeft => ?_
  have isCandidate := areCandidates (mem_of_mem_withoutImmunized succeeds isLeft)
  have stepsLeft := Step.ofTokens_ne_nil someTokens compiled
  obtain ⟨nonempty, _⟩ := range_of_mem_candidates (by simpa using stepsLeft) isCandidate
  obtain ⟨first, last, marked, notImmunized⟩ :=
    exists_marked_of_mem_withoutImmunized succeeds isLeft
  obtain ⟨fromStart, someFlagged, toStop⟩ := UnitScale.marked_within nonempty marked
  have firstImmunized : (first : Int) ∈ immunized.immunized :=
    Candidate.mem_immunized_of_mem_candidates isAntipattern compiled immunizes isCandidate
      (by omega) (by omega)
  rw [Sentence.isImmunized_eq_false_iff] at notImmunized
  exact notImmunized first firstImmunized (by omega)

section Own

variable {rule : Rule} {antipatterns : List (List Token)} {tokens : List Token}
  {sentence immunized : Sentence}
  (isAntipattern : tokens ∈ antipatterns)
  (immunizes : immunizeByAntipatterns antipatterns sentence = .ok immunized)
include isAntipattern immunizes

/-- A row of tokens has no match where it is an anti-pattern as well. -/
theorem eq_nil_of_matchTokens_own
    {found : List RuleMatch}
    (matched : rule.matchTokens tokens immunized = .ok found) :
    found = [] := by
  by_cases someTokens : tokens = []
  · subst someTokens
    exact eq_nil_of_matchTokens_nil matched
  · obtain ⟨steps, allowed, compiled, _, isAllowed, ofKept⟩ :=
      exists_allowed_of_matchTokens someTokens matched
    rw [eq_nil_of_withoutImmunized_own isAntipattern someTokens compiled immunizes
      (List.filter_subset_self _) isAllowed] at ofKept
    simpa [Candidate.longestFirst] using ofKept

/-- Where no correction is negative, no message is needed to find that there is no match. -/
theorem matchTokens_own_eq_nil
    (idIsShown : rule.id.canBeShown = true)
    (fromStart : 0 ≤ rule.startCorrection)
    (fromEnd : 0 ≤ rule.endCorrection)
    {steps : List Step}
    (compiled : Step.ofTokens tokens = .ok steps) :
    rule.matchTokens tokens immunized = .ok [] := by
  by_cases someTokens : tokens = []
  · subst someTokens
    rfl
  · have accepted := acceptedCandidates_of_compiled compiled immunized.words
    obtain ⟨allowed, isAllowed⟩ :=
      exists_withoutImmunized fromStart fromEnd
        (fun _ => pairwise_alignment_of_acceptedCandidates accepted) fun _ => idIsShown
    have noneAllowed :=
      eq_nil_of_withoutImmunized_own isAntipattern someTokens compiled immunizes
        (List.filter_subset_self _) isAllowed
    rw [matchTokens, if_neg (by simpa using someTokens)]
    refine Outcome.bind_eq_ok_iff.mpr ⟨_, accepted, ?_⟩
    refine Outcome.bind_eq_ok_iff.mpr ⟨allowed, isAllowed, ?_⟩
    rw [noneAllowed]
    simp [Candidate.longestFirst, pure, Except.pure]

end Own

/-- The anti-patterns among the parts of a rule are those by which it immunizes sentences. -/
theorem immunizer_of_ofParts
    {parts : RuleParts}
    (defaultImmunizer : parts.ownImmunizer = none)
    {rule : Rule}
    (made : Rule.ofParts parts = .ok rule) :
    rule.immunizer = immunizeByAntipatterns parts.antipatterns := by
  obtain ⟨pattern, _, rfl⟩ := exists_pattern_of_ofParts made
  funext sentence
  simp only [immunizer, ofPattern, defaultImmunizer, Option.getD_none, immunizeByAntipatterns,
    List.filter_filter, Bool.and_self]

/--
A rule whose tokens are an anti-pattern of its own never has a match. If its id can be written,
no correction is negative and no expression of a token is refused, it has none in every
sentence, even if its messages could not be expanded.
-/
theorem eq_nil_of_own_antipattern
    {parts : RuleParts}
    {tokens : List Token}
    (given : parts.tokens = some tokens)
    (isAntipattern : tokens ∈ parts.antipatterns)
    (defaultImmunizer : parts.ownImmunizer = none)
    {rule : Rule}
    (made : Rule.ofParts parts = .ok rule)
    (sentence : Sentence) :
    (∀ found, rule.matchesIn sentence = .ok found → found = []) ∧
      (parts.id.canBeShown = true →
        0 ≤ parts.startCorrection →
          0 ≤ parts.endCorrection →
            (∀ token ∈ parts.antipatterns.flatten, ∀ refusal, ¬token.IsRefusedWith refusal) →
              rule.matchesIn sentence = .ok []) := by
  obtain ⟨precede, pattern⟩ := exists_pattern_of_tokens given made
  have byAntipatterns := immunizer_of_ofParts defaultImmunizer made
  constructor
  · intro found succeeds
    obtain ⟨immunized, immunizes, matched⟩ := exists_immunized_of_matchesIn pattern succeeds
    rw [byAntipatterns] at immunizes
    exact eq_nil_of_matchTokens_own isAntipattern immunizes matched
  · intro idIsShown fromStart fromEnd noneRefused
    have immunizesUnlessRefused :=
      failsByRefusal_immunizeByAntipatterns parts.antipatterns sentence
    obtain ⟨immunized, immunizes⟩ := immunizesUnlessRefused.exists_eq_ok_iff.mpr noneRefused
    obtain ⟨steps, compiled⟩ :=
      (Step.failsByRefusal_ofTokens tokens).exists_eq_ok_iff.mpr fun token member =>
        noneRefused token (List.mem_flatten.mpr ⟨tokens, isAntipattern, member⟩)
    refine matchesIn_of_immunized pattern (by rw [byAntipatterns, immunizes]) ?_
    obtain ⟨_, _, rfl⟩ := exists_pattern_of_ofParts made
    exact matchTokens_own_eq_nil isAntipattern immunizes idIsShown fromStart fromEnd compiled

/-- A word that stands twice in a row. -/
def doubledWord : List Token :=
  [.placeholder (.text ""), sameAsFirst false]

theorem referencesPrecede_doubledWord :
    referencesPrecede doubledWord :=
  badReference?_eq_none_iff.mp (by decide)

/-- A rule for the second of two equal words, with anti-patterns. -/
def doubledWordExcept (antipatterns : List (List Token)) : RuleParts where
  tokens := some doubledWord
  antipatterns := antipatterns
  startCorrection := 1

/-- The second of two equal words is flagged, but not if two equal words are an anti-pattern. -/
theorem matchesIn_eq_nil_doubledWord :
    ∃ alone own,
      Rule.ofParts (doubledWordExcept []) = .ok alone ∧
        Rule.ofParts (doubledWordExcept [doubledWord]) = .ok own ∧
          (∃ found,
              alone.matchesIn { words := [{ text := "The" }, { text := "the" }] } = .ok found ∧
                found.map (·.wordSpan) = [(1, 2)]) ∧
            own.matchesIn { words := [{ text := "The" }, { text := "the" }] } = .ok [] := by
  have accepted (antipatterns : List (List Token)) :
      patternOf (doubledWordExcept antipatterns) =
        .ok (.tokens doubledWord referencesPrecede_doubledWord) :=
    tokenPattern_of_referencesPrecede referencesPrecede_doubledWord
      (requireSigns_eq_ok_iff.mp rfl)
  have made
      {antipatterns : List (List Token)}
      (signs : HaveSigns antipatterns.flatten) :
      Rule.ofParts (doubledWordExcept antipatterns) = .ok _ :=
    ofParts_of_patternOf (by simp [doubledWordExcept]) (by simp [doubledWordExcept])
      (by simp [doubledWordExcept]) signs (accepted antipatterns)
  have madeAlone := @made [] (List.forall_mem_nil _)
  have madeOwn := @made [doubledWord] (requireSigns_eq_ok_iff.mp rfl)
  have evaluated :
      ((ofPattern (doubledWordExcept [])
          (.tokens doubledWord referencesPrecede_doubledWord)).matchesIn
          { words := [{ text := "The" }, { text := "the" }] }).toOption.map
            (·.map (·.wordSpan)) =
        some [(1, 2)] := by
    decide +kernel
  have alone := Outcome.exists_eq_ok_of_toOption_map evaluated
  refine ⟨_, _, madeAlone, madeOwn, alone, ?_⟩
  obtain ⟨_, hasNone⟩ :=
    eq_nil_of_own_antipattern rfl (List.mem_singleton_self doubledWord) rfl madeOwn
      { words := [{ text := "The" }, { text := "the" }] }
  refine hasNone rfl (by decide) (by decide) fun token member refusal isRefused => ?_
  obtain ⟨antipattern, isAntipattern, isToken⟩ := List.mem_flatten.mp member
  rw [List.mem_singleton.mp isAntipattern] at isToken
  have noText : token.text = "" := by
    rcases List.mem_pair.mp isToken with rfl | rfl <;> rfl
  exact isRefused.hasText noText

end Rule

end ProseRules
