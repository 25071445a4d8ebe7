import ProseRules.Proofs.Rule.Cuts
import ProseRules.Proofs.Rule.OwnAntipattern

namespace ProseRules

/-!
# Tokens as an anti-pattern and as a pattern

The candidates of a pattern are the ranges of words that its steps take and in which its back
references hold. An anti-pattern immunizes what its steps take. So it immunizes the words that
it accepts as a pattern in which any word may stand for a back reference.
-/

namespace Token

/-- The token, or one for any words if it repeats the text of an earlier one. -/
def withoutReference (token : Token) : Token :=
  if token.isReference then
    { token with
      text := ""
      negated := false
      reference := none
      negation_has_subject := (placeholder (.text "")).negation_has_subject }
  else
    token

theorem reference_withoutReference
    (token : Token) :
    token.withoutReference.reference = none := by
  unfold withoutReference
  split
  · rfl
  · rename_i noReference
    simpa [isReference] using noReference

/-- What is tested of a word for a back reference is nothing, with and without the reference. -/
theorem wordTest_withoutReference
    (token : Token) :
    token.withoutReference.wordTest = token.wordTest := by
  unfold withoutReference
  split
  · rename_i isReference
    simp [wordTest, isReference]
  · rfl

theorem ofToken_withoutReference
    (token : Token)
    (index : Nat)
    (test : ReadyTest) :
    Step.ofToken token.withoutReference index test = Step.ofToken token index test := by
  unfold withoutReference
  split <;> rfl

end Token

theorem Step.ofTokensFrom_map_withoutReference
    (index : Nat)
    (tokens : List Token) :
    ofTokensFrom index (tokens.map Token.withoutReference) = ofTokensFrom index tokens := by
  induction tokens generalizing index with
  | nil =>
      rfl
  | cons token tokens inductionHypothesis =>
      simp only [List.map_cons, ofTokensFrom, Token.wordTest_withoutReference,
        Token.ofToken_withoutReference, inductionHypothesis]

/-- Some of the ranges holds the word. -/
def Candidate.Cover (ranges : List Candidate) (index : Int) : Prop :=
  ∃ candidate ∈ ranges, index ∈ candidate.indices

/-- The accepted ranges cover the same words as all exactly if they cover those of the others. -/
theorem Candidate.cover_filter_iff
    {ranges : List Candidate}
    {isAccepted : Candidate → Bool} :
    (∀ index,
        Candidate.Cover ranges index ↔ Candidate.Cover (ranges.filter isAccepted) index) ↔
      ∀ candidate ∈ ranges,
        isAccepted candidate = false →
          ∀ index ∈ candidate.indices, Candidate.Cover (ranges.filter isAccepted) index := by
  constructor
  · intro same candidate member _ index inRange
    exact (same index).mp ⟨candidate, member, inRange⟩
  · intro rejectedCovered index
    constructor
    · rintro ⟨candidate, member, inRange⟩
      cases accepted : isAccepted candidate with
      | false =>
          exact rejectedCovered candidate member accepted index inRange
      | true =>
          exact ⟨candidate, List.mem_filter.mpr ⟨member, accepted⟩, inRange⟩
    · rintro ⟨candidate, kept, inRange⟩
      exact ⟨candidate, (List.mem_filter.mp kept).1, inRange⟩

/-- The words that tokens cover are those of the ranges that their steps take. -/
theorem Token.covers_iff_of_compiled
    {tokens : List Token}
    {steps : List Step}
    (compiled : Step.ofTokens tokens = .ok steps)
    {words : List Word}
    {index : Int} :
    Covers tokens words index ↔ Candidate.Cover (candidates [steps] words) index := by
  simp only [Covers, compiled, Except.ok.injEq, exists_eq_left', Candidate.Cover,
    Candidate.mem_indices_iff]

namespace Rule

/-- With any word for each back reference, tokens accept all ranges that their steps take. -/
theorem acceptedCandidates_map_withoutReference
    {tokens : List Token}
    {steps : List Step}
    (compiled : Step.ofTokens tokens = .ok steps)
    (words : List Word) :
    acceptedCandidates (tokens.map Token.withoutReference) words =
      .ok (candidates [steps] words) := by
  have sameSteps : Step.ofTokens (tokens.map Token.withoutReference) = .ok steps :=
    (Step.ofTokensFrom_map_withoutReference 0 tokens).trans compiled
  have noReference :
      ∀ token ∈ tokens.map Token.withoutReference, token.reference = none := by
    intro token member
    obtain ⟨origin, _, rfl⟩ := List.mem_map.mp member
    exact origin.reference_withoutReference
  have allHold :
      referencesHold words (tokens.map Token.withoutReference) = fun _ => true :=
    funext (referencesHold_of_no_reference noReference words)
  rw [acceptedCandidates_of_compiled sameSteps, allHold, List.filter_true]

/--
An anti-pattern immunizes the words of the ranges that its tokens accept as a pattern with any
words in place of a back reference. These are the words of the ranges that the tokens themselves
accept exactly if every range in which a back reference does not hold is covered by others; if
no token is a back reference, there is no such range.
-/
theorem immunizes_accepted_withoutReferences
    {tokens : List Token}
    {sentence : Sentence}
    (nothingImmunized : sentence.immunized = [])
    {accepted : List Candidate}
    (succeeds : acceptedCandidates tokens sentence.words = .ok accepted) :
    ∃ taken immunized,
      acceptedCandidates (tokens.map Token.withoutReference) sentence.words = .ok taken ∧
        accepted = taken.filter (referencesHold sentence.words tokens) ∧
          immunizeByAntipatterns [tokens] sentence = .ok immunized ∧
            (∀ index, index ∈ immunized.immunized ↔ Candidate.Cover taken index) ∧
              ((∀ index, index ∈ immunized.immunized ↔ Candidate.Cover accepted index) ↔
                  ∀ candidate ∈ taken,
                    referencesHold sentence.words tokens candidate = false →
                      ∀ index ∈ candidate.indices, Candidate.Cover accepted index) ∧
                ((∀ token ∈ tokens, token.reference = none) →
                  ∀ index, index ∈ immunized.immunized ↔ Candidate.Cover accepted index) := by
  obtain ⟨steps, compiled, areAccepted⟩ := Outcome.bind_eq_ok_iff.mp succeeds
  cases areAccepted
  have noneRefused := (Step.failsByRefusal_ofTokens tokens).ofSuccess steps compiled
  obtain ⟨immunized, immunizes⟩ :=
    (failsByRefusal_immunizeByAntipatterns [tokens] sentence).exists_eq_ok_iff.mpr
      (by simpa using noneRefused)
  have takenImmunized :
      ∀ index,
        index ∈ immunized.immunized ↔
          Candidate.Cover (candidates [steps] sentence.words) index := by
    intro index
    rw [mem_immunized_iff immunizes, nothingImmunized]
    simp [Token.covers_iff_of_compiled compiled]
  refine
    ⟨candidates [steps] sentence.words, immunized,
      acceptedCandidates_map_withoutReference compiled sentence.words, rfl, immunizes,
      takenImmunized, ?_, ?_⟩
  · simp only [takenImmunized]
    exact Candidate.cover_filter_iff
  · intro noReference index
    have allHold : referencesHold sentence.words tokens = fun _ => true :=
      funext (referencesHold_of_no_reference noReference sentence.words)
    rw [takenImmunized, allHold, List.filter_true]

/-- Two equal words and another one. -/
def theTheDay : Sentence where
  words := [{ text := "The" }, { text := "the" }, { text := "day" }]

/-- A doubled word accepts two words of three, but as an anti-pattern it immunizes all of them. -/
theorem immunizes_accepted_doubledWord :
    theTheDay.immunized = [] ∧
      acceptedCandidates doubledWord theTheDay.words = .ok [⟨0, [0, 1]⟩] ∧
        ∃ taken immunized,
          taken = [⟨0, [0, 1]⟩, ⟨1, [0, 1]⟩] ∧
            acceptedCandidates (doubledWord.map Token.withoutReference) theTheDay.words =
                .ok taken ∧
              immunizeByAntipatterns [doubledWord] theTheDay = .ok immunized ∧
                (∀ index, index ∈ immunized.immunized ↔ Candidate.Cover taken index) ∧
                  2 ∈ immunized.immunized := by
  have accepted :
      acceptedCandidates doubledWord theTheDay.words = .ok [⟨0, [0, 1]⟩] := by
    rfl
  have anyTwoWords :
      acceptedCandidates (doubledWord.map Token.withoutReference) theTheDay.words =
        .ok [⟨0, [0, 1]⟩, ⟨1, [0, 1]⟩] := by
    rfl
  obtain ⟨taken, immunized, areTaken, _, immunizes, covered, _⟩ :=
    immunizes_accepted_withoutReferences (rfl : theTheDay.immunized = []) accepted
  have sameRanges : taken = [⟨0, [0, 1]⟩, ⟨1, [0, 1]⟩] := by
    rw [anyTwoWords] at areTaken
    exact (Except.ok.inj areTaken).symm
  refine ⟨rfl, accepted, taken, immunized, sameRanges, areTaken, immunizes, covered, ?_⟩
  rw [covered, sameRanges]
  exact ⟨⟨1, [0, 1]⟩, by simp, by decide⟩

/-- Two different words are immunized by a doubled word, but no range of them is accepted. -/
theorem not_immunizes_accepted_only :
    referencesPrecede doubledWord ∧
      acceptedCandidates doubledWord [{ text := "fine" }, { text := "day" }] = .ok [] ∧
        immunizeByAntipatterns [doubledWord]
            { words := [{ text := "fine" }, { text := "day" }] } =
            .ok { words := [{ text := "fine" }, { text := "day" }], immunized := [0, 1] } ∧
          ¬∀ index : Int, index ∈ [0, 1] ↔ Candidate.Cover [] index := by
  refine ⟨referencesPrecede_doubledWord, rfl, rfl, fun same => ?_⟩
  obtain ⟨candidate, member, _⟩ := (same 0).mp List.mem_cons_self
  simp at member

end Rule

end ProseRules
