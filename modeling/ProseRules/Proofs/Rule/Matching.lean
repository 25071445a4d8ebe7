import ProseRules.Proofs.Outcome
import ProseRules.Proofs.Pattern.Steps
import ProseRules.Proofs.Rule.Overlap
import ProseRules.Proofs.Rule.Parts
import ProseRules.Rule.Matching

namespace ProseRules

/-!
# Where the matches of a token pattern come from

Immunization leaves the words of a sentence as they are, and the steps after the
candidates were found only drop some of them. So every match of a token pattern
comes from words that its steps take. Where nothing is immunized and no unit is
dropped from what is flagged, some match comes of any such words.
-/

/-- Immunizing words changes no word. -/
@[simp] theorem Sentence.words_immunize
    (sentence : Sentence)
    (indices : List Int) :
    (sentence.immunize indices).words = sentence.words :=
  rfl

/-- Immunizing by anti-patterns changes no word. -/
theorem words_of_immunizeByAntipatterns
    {antipatterns : List (List Token)}
    {sentence immunized : Sentence}
    (succeeds : immunizeByAntipatterns antipatterns sentence = .ok immunized) :
    immunized.words = sentence.words := by
  simp only [immunizeByAntipatterns] at succeeds
  split at succeeds
  · cases succeeds
    rfl
  · obtain ⟨indices, _, result⟩ := Outcome.bind_eq_ok_iff.mp succeeds
    cases result
    split <;> simp

namespace UnitScale

/-- Where no unit is dropped, words are flagged for every candidate. -/
theorem exists_marked_without_corrections
    (scale : UnitScale)
    (candidate : Candidate) :
    ∃ span, scale.marked 0 0 candidate = .ok span := by
  have boundsOfUnit :
      ∀ unit : Nat, unit < scale.count → ∃ bounds, scale.bounds unit = .ok bounds := by
    intro unit inRange
    cases offsets : scale.offsets with
    | none =>
        exact ⟨(unit, unit + 1), by simp [bounds, offsets]⟩
    | some offsets' =>
        simp only [count, offsets] at inRange
        obtain ⟨first, isFirst⟩ : ∃ first, offsets'[unit]? = some first :=
          ⟨offsets'[unit], List.getElem?_eq_getElem (by omega)⟩
        obtain ⟨last, isLast⟩ : ∃ last, offsets'[unit + 1]? = some last :=
          ⟨offsets'[unit + 1], List.getElem?_eq_getElem (by omega)⟩
        refine ⟨(first, last), ?_⟩
        have nextPlace : (unit + 1 : Int).toNat = unit + 1 := by omega
        have nextNonnegative : (0 : Int) ≤ unit + 1 := by omega
        simp [bounds, offsets, elementAt?, isFirst, isLast, nextPlace, nextNonnegative]
  simp only [marked]
  split
  · exact ⟨_, rfl⟩
  · rename_i unitsLeft
    have someUnits : 0 < scale.count := by omega
    have lastUnit : (scale.count : Int) - 0 - 1 = (scale.count - 1 : Nat) := by omega
    obtain ⟨firstBounds, firstSucceeds⟩ := boundsOfUnit 0 someUnits
    obtain ⟨lastBounds, lastSucceeds⟩ := boundsOfUnit (scale.count - 1) (by omega)
    rw [lastUnit, lastSucceeds, show (0 : Int) = (0 : Nat) from rfl, firstSucceeds]
    simp only [bind, Except.bind]
    split <;> exact ⟨_, rfl⟩

end UnitScale

namespace Rule

/-- A candidate is left out if a word flagged for it is immunized; the id is written then. -/
theorem withoutImmunized_cons_eq_ok_iff
    {rule : Rule}
    {scale : UnitScale}
    {sentence : Sentence}
    {candidate : Candidate}
    {rest kept : List Candidate} :
    rule.withoutImmunized scale sentence (candidate :: rest) = .ok kept ↔
      ∃ first last : Nat,
        scale.marked rule.startCorrection rule.endCorrection candidate = .ok (first, last) ∧
          ∃ keptRest,
            rule.withoutImmunized scale sentence rest = .ok keptRest ∧
              (sentence.isImmunized first last = true ∧
                  rule.id.canBeShown = true ∧ kept = keptRest ∨
                sentence.isImmunized first last = false ∧ kept = candidate :: keptRest) := by
  rw [withoutImmunized, Outcome.bind_eq_ok_iff, Prod.exists]
  refine exists_congr fun first => exists_congr fun last => and_congr_right fun _ => ?_
  dsimp only
  cases sentence.isImmunized first last with
  | true =>
      cases canBeShown : rule.id.canBeShown <;>
        simp [Value.shown, canBeShown, bind, Except.bind]
  | false =>
      simp only [Bool.false_eq_true, if_false, Outcome.bind_eq_ok_iff, false_and, false_or,
        true_and, pure, Except.pure, Except.ok.injEq, @eq_comm _ kept]

/-- Only candidates that were there before are left after immunization. -/
theorem mem_of_mem_withoutImmunized
    {rule : Rule}
    {scale : UnitScale}
    {sentence : Sentence}
    {candidates kept : List Candidate}
    (succeeds : rule.withoutImmunized scale sentence candidates = .ok kept)
    {candidate : Candidate}
    (member : candidate ∈ kept) :
    candidate ∈ candidates := by
  induction candidates generalizing kept with
  | nil =>
      cases succeeds
      exact member
  | cons first rest inductionHypothesis =>
      obtain ⟨_, _, _, keptRest, succeedsRest, ⟨_, _, rfl⟩ | ⟨_, rfl⟩⟩ :=
        withoutImmunized_cons_eq_ok_iff.mp succeeds
      · exact List.mem_cons_of_mem first (inductionHypothesis succeedsRest member)
      · rcases List.mem_cons.mp member with rfl | inRest
        · exact List.mem_cons_self
        · exact List.mem_cons_of_mem first (inductionHypothesis succeedsRest inRest)

/-- The accepted candidates are those of the steps whose references hold. -/
theorem acceptedCandidates_of_compiled
    {tokens : List Token}
    {steps : List Step}
    (compiled : Step.ofTokens tokens = .ok steps)
    (words : List Word) :
    acceptedCandidates tokens words =
      .ok ((candidates [steps] words).filter (referencesHold words tokens)) :=
  Outcome.bind_eq_ok_iff.mpr ⟨steps, compiled, rfl⟩

/--
The matches of a token pattern are those of the candidates that are kept of some whose
references hold.
-/
theorem exists_allowed_of_matchTokens
    {rule : Rule}
    {tokens : List Token}
    (someTokens : tokens ≠ [])
    {sentence : Sentence}
    {found : List RuleMatch}
    (succeeds : rule.matchTokens tokens sentence = .ok found) :
    ∃ steps allowed,
      Step.ofTokens tokens = .ok steps ∧
        steps ≠ [] ∧
          rule.withoutImmunized (.ofRule rule) sentence
              ((candidates [steps] sentence.words).filter
                (referencesHold sentence.words tokens)) =
            .ok allowed ∧
          List.Forall₂
            (fun candidate ruleMatch =>
              rule.matchOfCandidate (.ofRule rule) sentence candidate = .ok ruleMatch)
            (Candidate.longestFirst allowed) found := by
  have notEmpty : tokens.isEmpty = false := by
    simpa using someTokens
  simp only [matchTokens, notEmpty, Bool.false_eq_true, if_false] at succeeds
  obtain ⟨accepted, acceptedSucceeds, afterAccepting⟩ := Outcome.bind_eq_ok_iff.mp succeeds
  obtain ⟨allowed, allowedSucceeds, matched⟩ := Outcome.bind_eq_ok_iff.mp afterAccepting
  obtain ⟨steps, compiled, acceptedShape⟩ := Outcome.bind_eq_ok_iff.mp acceptedSucceeds
  cases acceptedShape
  exact
    ⟨steps, allowed, compiled, Step.ofTokens_ne_nil someTokens compiled, allowedSucceeds,
      Outcome.mapM_eq_ok_iff.mp matched⟩

/-- A pattern without tokens has no match. -/
theorem eq_nil_of_matchTokens_nil
    {rule : Rule}
    {sentence : Sentence}
    {found : List RuleMatch}
    (succeeds : rule.matchTokens [] sentence = .ok found) :
    found = [] := by
  cases succeeds
  rfl

/-- A match of a token pattern is that of a candidate whose references hold. -/
theorem exists_candidate_of_mem_matchTokens
    {rule : Rule}
    {tokens : List Token}
    {sentence : Sentence}
    {found : List RuleMatch}
    (succeeds : rule.matchTokens tokens sentence = .ok found)
    {ruleMatch : RuleMatch}
    (member : ruleMatch ∈ found) :
    ∃ steps,
      Step.ofTokens tokens = .ok steps ∧
        steps ≠ [] ∧
          ∃ candidate ∈ candidates [steps] sentence.words,
            referencesHold sentence.words tokens candidate = true ∧
              rule.matchOfCandidate (.ofRule rule) sentence candidate = .ok ruleMatch := by
  have someTokens : tokens ≠ [] := by
    rintro rfl
    rw [eq_nil_of_matchTokens_nil succeeds] at member
    simp at member
  obtain ⟨steps, allowed, compiled, stepsLeft, allowedSucceeds, matched⟩ :=
    exists_allowed_of_matchTokens someTokens succeeds
  rw [← Outcome.mapM_eq_ok_iff] at matched
  obtain ⟨candidate, kept, ofCandidate⟩ := Outcome.exists_item_of_mem_mapM matched member
  have inAccepted :=
    mem_of_mem_withoutImmunized allowedSucceeds (Candidate.mem_of_mem_longestFirst kept)
  rw [List.mem_filter] at inAccepted
  exact ⟨steps, compiled, stepsLeft, candidate, inAccepted.1, inAccepted.2, ofCandidate⟩

/-- A rule with a pattern has the matches of its pattern in the sentence with words immunized. -/
theorem matchesIn_eq_ok_iff
    {rule : Rule}
    {sentence : Sentence}
    {found : List RuleMatch} :
    rule.matchesIn sentence = .ok found ↔
      rule.hasPattern = true ∧
        ∃ immunized,
          rule.immunizer sentence = .ok immunized ∧ rule.matchPattern immunized = .ok found := by
  rw [← Outcome.bind_eq_ok_iff]
  constructor
  · intro succeeds
    unfold matchesIn at succeeds
    split at succeeds
    · rename_i hasPattern
      split at succeeds
      · rename_i matched
        cases succeeds
        exact ⟨hasPattern, matched⟩
      · cases succeeds
    · obtain ⟨_, _, refused⟩ := Outcome.bind_eq_ok_iff.mp succeeds
      cases refused
  · rintro ⟨hasPattern, matched⟩
    rw [matchesIn, if_pos hasPattern, matched]

/-- A failure of the pattern of a rule is reported with the text of the sentence. -/
theorem matchesIn_eq_error
    {rule : Rule}
    (hasPattern : rule.hasPattern = true)
    {sentence : Sentence}
    {failure : Failure}
    (fails : (rule.immunizer sentence >>= rule.matchPattern) = .error failure) :
    rule.matchesIn sentence =
      .error
        (if failure.isInputOutput then .sentenceUnreadable sentence.text
        else .sentenceUnmatched sentence.text failure) := by
  rw [matchesIn, if_pos hasPattern, fails]

/-- The matches of a token pattern are found in the sentence with its words immunized. -/
theorem exists_immunized_of_matchesIn
    {rule : Rule}
    {tokens : List Token}
    {precede : referencesPrecede tokens}
    (pattern : rule.pattern = .tokens tokens precede)
    {sentence : Sentence}
    {found : List RuleMatch}
    (succeeds : rule.matchesIn sentence = .ok found) :
    ∃ immunized,
      rule.immunizer sentence = .ok immunized ∧ rule.matchTokens tokens immunized = .ok found := by
  obtain ⟨immunized, immunizes, matched⟩ := (matchesIn_eq_ok_iff.mp succeeds).2
  simp only [matchPattern, pattern] at matched
  exact ⟨immunized, immunizes, matched⟩

/-- The immunizer of the anti-patterns changes no word. -/
theorem words_of_immunizer
    {rule : Rule}
    (defaultImmunizer : rule.ownImmunizer = none)
    {sentence immunized : Sentence}
    (immunizes : rule.immunizer sentence = .ok immunized) :
    immunized.words = sentence.words := by
  simp only [immunizer, defaultImmunizer, Option.getD_none] at immunizes
  exact words_of_immunizeByAntipatterns immunizes

/-- The matches of a token pattern are found among the words as they were given. -/
theorem exists_matchTokens_of_matchesIn
    {rule : Rule}
    {tokens : List Token}
    {precede : referencesPrecede tokens}
    (pattern : rule.pattern = .tokens tokens precede)
    (defaultImmunizer : rule.ownImmunizer = none)
    {sentence : Sentence}
    {found : List RuleMatch}
    (succeeds : rule.matchesIn sentence = .ok found) :
    ∃ immunized : Sentence,
      immunized.words = sentence.words ∧ rule.matchTokens tokens immunized = .ok found := by
  obtain ⟨immunized, immunizes, matched⟩ := exists_immunized_of_matchesIn pattern succeeds
  exact ⟨immunized, words_of_immunizer defaultImmunizer immunizes, matched⟩

/-- Without anti-patterns a sentence is left as it is. -/
theorem immunizer_without_antipatterns
    {rule : Rule}
    (defaultImmunizer : rule.ownImmunizer = none)
    (noAntipatterns : rule.antipatterns = [])
    (sentence : Sentence) :
    rule.immunizer sentence = .ok sentence := by
  simp [immunizer, defaultImmunizer, noAntipatterns, immunizeByAntipatterns, pure, Except.pure]

/-- The matches in the sentence with its words immunized are those of the rule. -/
theorem matchesIn_of_immunized
    {rule : Rule}
    {tokens : List Token}
    {precede : referencesPrecede tokens}
    (pattern : rule.pattern = .tokens tokens precede)
    {sentence immunized : Sentence}
    (immunizes : rule.immunizer sentence = .ok immunized)
    {found : List RuleMatch}
    (matched : rule.matchTokens tokens immunized = .ok found) :
    rule.matchesIn sentence = .ok found := by
  refine matchesIn_eq_ok_iff.mpr ⟨hasPattern_of_pattern pattern, immunized, immunizes, ?_⟩
  rw [matchPattern, pattern]
  exact matched

/-- Without anti-patterns the matches of a token pattern are those in the sentence itself. -/
theorem matchesIn_of_matchTokens
    {rule : Rule}
    {tokens : List Token}
    {precede : referencesPrecede tokens}
    (pattern : rule.pattern = .tokens tokens precede)
    (defaultImmunizer : rule.ownImmunizer = none)
    (noAntipatterns : rule.antipatterns = [])
    {sentence : Sentence}
    {found : List RuleMatch}
    (matched : rule.matchTokens tokens sentence = .ok found) :
    rule.matchesIn sentence = .ok found :=
  matchesIn_of_immunized pattern
    (immunizer_without_antipatterns defaultImmunizer noAntipatterns sentence) matched

/-- A token pattern with an expression that cannot be read fails in every sentence. -/
theorem matchesIn_of_unprepared
    {rule : Rule}
    {tokens : List Token}
    {precede : referencesPrecede tokens}
    (pattern : rule.pattern = .tokens tokens precede)
    (defaultImmunizer : rule.ownImmunizer = none)
    (noAntipatterns : rule.antipatterns = [])
    (someTokens : tokens ≠ [])
    {failure : Failure}
    (unprepared : Step.ofTokens tokens = .error failure)
    (notInputOutput : failure.isInputOutput = false)
    (sentence : Sentence) :
    rule.matchesIn sentence = .error (.sentenceUnmatched sentence.text failure) := by
  have leftAsItIs := immunizer_without_antipatterns defaultImmunizer noAntipatterns sentence
  have notMatched : rule.matchTokens tokens sentence = .error failure := by
    simp [matchTokens, someTokens, acceptedCandidates, unprepared, bind, Except.bind]
  have fails : (rule.immunizer sentence >>= rule.matchPattern) = .error failure := by
    simp [leftAsItIs, matchPattern, pattern, notMatched, bind, Except.bind]
  rw [matchesIn_eq_error (hasPattern_of_pattern pattern) fails, notInputOutput]
  rfl

/-- A match of a token pattern comes from words of the sentence that its steps take. -/
theorem exists_taken_of_matchesIn
    {rule : Rule}
    {tokens : List Token}
    {precede : referencesPrecede tokens}
    (pattern : rule.pattern = .tokens tokens precede)
    (defaultImmunizer : rule.ownImmunizer = none)
    {sentence : Sentence}
    {found : List RuleMatch}
    (succeeds : rule.matchesIn sentence = .ok found)
    (someFound : found ≠ []) :
    ∃ steps taken alignment,
      Step.ofTokens tokens = .ok steps ∧
        taken ⊆ sentence.words ∧ Step.Takes steps taken alignment := by
  obtain ⟨immunized, sameWords, matched⟩ :=
    exists_matchTokens_of_matchesIn pattern defaultImmunizer succeeds
  obtain ⟨ruleMatch, member⟩ := List.exists_mem_of_ne_nil found someFound
  obtain ⟨steps, compiled, stepsLeft, candidate, isCandidate, _, _⟩ :=
    exists_candidate_of_mem_matchTokens matched member
  obtain ⟨_, _, isSteps, taken, isBeginning, takes⟩ :=
    takes_of_mem_candidates (by simpa using stepsLeft) isCandidate
  rw [List.mem_singleton] at isSteps
  subst isSteps
  refine ⟨_, taken, _, compiled, ?_, takes⟩
  rw [← sameWords]
  intro word member
  exact List.drop_subset candidate.start immunized.words (isBeginning.subset member)

/-- A match of a token pattern holds a word for every token that has to take one. -/
theorem exists_passing_word_of_matchesIn
    {rule : Rule}
    {tokens : List Token}
    {precede : referencesPrecede tokens}
    (pattern : rule.pattern = .tokens tokens precede)
    (defaultImmunizer : rule.ownImmunizer = none)
    {sentence : Sentence}
    {found : List RuleMatch}
    (succeeds : rule.matchesIn sentence = .ok found)
    (someFound : found ≠ [])
    {token : Token}
    (member : token ∈ tokens)
    (required : 0 < token.least) :
    ∃ test,
      token.wordTest.prepare = .ok test ∧
        ∃ word ∈ sentence.words, test.holds word = true := by
  obtain ⟨steps, taken, alignment, compiled, inSentence, takes⟩ :=
    exists_taken_of_matchesIn pattern defaultImmunizer succeeds someFound
  obtain ⟨test, prepared, word, isTaken, passed⟩ :=
    Step.exists_passing_word_of_takes compiled takes member required
  exact ⟨test, prepared, word, inSentence isTaken, passed⟩

/-- Where nothing is immunized, every candidate is left if words are flagged for each. -/
theorem withoutImmunized_of_marked
    {rule : Rule}
    {scale : UnitScale}
    (flagsWords :
      ∀ candidate, ∃ span,
        scale.marked rule.startCorrection rule.endCorrection candidate = .ok span)
    {sentence : Sentence}
    (nothingImmunized : sentence.immunized = [])
    (candidates : List Candidate) :
    rule.withoutImmunized scale sentence candidates = .ok candidates := by
  induction candidates with
  | nil =>
      rfl
  | cons candidate rest inductionHypothesis =>
      obtain ⟨⟨first, last⟩, marked⟩ := flagsWords candidate
      have notImmunized : sentence.isImmunized first last = false := by
        simp [Sentence.isImmunized, nothingImmunized]
      simp [withoutImmunized, marked, inductionHypothesis, notImmunized, bind, Except.bind, pure,
        Except.pure]

/-- Where no unit is dropped, words are flagged for every candidate of a rule. -/
theorem exists_marked_of_no_corrections
    {rule : Rule}
    (fromStart : rule.startCorrection = 0)
    (fromEnd : rule.endCorrection = 0)
    (scale : UnitScale)
    (candidate : Candidate) :
    ∃ span, scale.marked rule.startCorrection rule.endCorrection candidate = .ok span := by
  rw [fromStart, fromEnd]
  exact scale.exists_marked_without_corrections candidate

/-- Without references there is none that does not hold. -/
theorem referencesHold_of_no_reference
    {tokens : List Token}
    (noReference : ∀ token ∈ tokens, token.reference = none)
    (words : List Word)
    (candidate : Candidate) :
    referencesHold words tokens candidate = true := by
  rw [referencesHold, List.all_eq_true]
  rintro ⟨token, index⟩ member
  have isToken : token ∈ tokens := List.fst_mem_of_mem_zipIdx member
  simp [referenceHolds, noReference token isToken]

/--
A token pattern is matched without failure if the messages can be built, nothing is
immunized and words are flagged for every candidate.
-/
theorem exists_matchTokens_of_compiled
    {rule : Rule}
    (flagsWords :
      ∀ candidate, ∃ span,
        (UnitScale.ofRule rule).marked rule.startCorrection rule.endCorrection candidate = .ok span)
    {sentence : Sentence}
    (nothingImmunized : sentence.immunized = [])
    (builds :
      ∀ span wordSpan reference,
        ∃ ruleMatch, rule.buildMatch sentence span wordSpan reference = .ok ruleMatch)
    {tokens : List Token}
    (someTokens : tokens ≠ [])
    {steps : List Step}
    (compiled : Step.ofTokens tokens = .ok steps) :
    ∃ found,
      rule.matchTokens tokens sentence = .ok found ∧
        found.length =
          (Candidate.longestFirst
            ((candidates [steps] sentence.words).filter
              (referencesHold sentence.words tokens))).length := by
  have accepted := acceptedCandidates_of_compiled compiled sentence.words
  have allowed :=
    withoutImmunized_of_marked flagsWords nothingImmunized
      ((candidates [steps] sentence.words).filter (referencesHold sentence.words tokens))
  have builtForEach :
      ∀ kept ∈
        Candidate.longestFirst
          ((candidates [steps] sentence.words).filter (referencesHold sentence.words tokens)),
        ∃ ruleMatch,
          rule.matchOfCandidate (.ofRule rule) sentence kept = .ok ruleMatch := by
    intro kept _
    obtain ⟨⟨first, last⟩, marked⟩ := flagsWords kept
    simp only [matchOfCandidate, marked, bind, Except.bind]
    exact builds _ _ _
  obtain ⟨found, matched, sameLength⟩ := Outcome.exists_mapM_eq_ok builtForEach
  refine ⟨found, ?_, sameLength⟩
  simp [matchTokens, someTokens, accepted, allowed, matched, bind, Except.bind]

/--
Words that the steps of a pattern take make a match if the messages can be built,
nothing is immunized, words are flagged for every candidate and no text has to be repeated.
-/
theorem exists_matchTokens_of_takes
    {rule : Rule}
    (flagsWords :
      ∀ candidate, ∃ span,
        (UnitScale.ofRule rule).marked rule.startCorrection rule.endCorrection candidate = .ok span)
    {sentence : Sentence}
    (nothingImmunized : sentence.immunized = [])
    (builds :
      ∀ span wordSpan reference,
        ∃ ruleMatch, rule.buildMatch sentence span wordSpan reference = .ok ruleMatch)
    {tokens : List Token}
    (someTokens : tokens ≠ [])
    (noReference : ∀ token ∈ tokens, token.reference = none)
    {steps : List Step}
    (compiled : Step.ofTokens tokens = .ok steps)
    {start : Nat}
    {taken : List Word}
    {alignment : List Nat}
    (isBeginning : taken <+: sentence.words.drop start)
    (takes : Step.Takes steps taken alignment)
    (takesSome : taken ≠ []) :
    ∃ found, rule.matchTokens tokens sentence = .ok found ∧ found ≠ [] := by
  have stepsLeft : ∀ steps' ∈ [steps], steps' ≠ [] := by
    simpa using Step.ofTokens_ne_nil someTokens compiled
  obtain ⟨candidate, isCandidate, _, _⟩ :=
    exists_candidate_of_takes stepsLeft (List.mem_singleton.mpr rfl) isBeginning takes takesSome
  obtain ⟨found, matched, sameLength⟩ :=
    exists_matchTokens_of_compiled flagsWords nothingImmunized builds someTokens compiled
  have accepted :
      candidate ∈
        (candidates [steps] sentence.words).filter (referencesHold sentence.words tokens) :=
    List.mem_filter.mpr
      ⟨isCandidate, referencesHold_of_no_reference noReference sentence.words candidate⟩
  have someKept := Candidate.longestFirst_ne_nil (List.ne_nil_of_mem accepted)
  refine ⟨found, matched, ?_⟩
  rintro rfl
  exact someKept (List.eq_nil_of_length_eq_zero sameLength.symm)

/-- The messages of a rule given by its tokens alone can be built for any match. -/
theorem exists_buildMatch_withTokens
    {tokens : List Token}
    (precede : referencesPrecede tokens)
    (sentence : Sentence)
    (span wordSpan : Int × Int)
    (reference : Nat → String) :
    ∃ ruleMatch,
      (withTokens tokens precede).buildMatch sentence span wordSpan reference =
        .ok ruleMatch :=
  ⟨_, rfl⟩

/-- A rule given by its tokens alone is matched with any words without failure. -/
theorem exists_matchesIn_withTokens
    {tokens : List Token}
    (precede : referencesPrecede tokens)
    {steps : List Step}
    (compiled : Step.ofTokens tokens = .ok steps)
    (words : List Word) :
    ∃ found, (withTokens tokens precede).matchesIn { words := words } = .ok found := by
  by_cases someTokens : tokens = []
  · subst someTokens
    exact ⟨[], rfl⟩
  · obtain ⟨found, matched, _⟩ :
        ∃ found,
          (withTokens tokens precede).matchTokens tokens { words := words } = .ok found ∧ _ :=
      exists_matchTokens_of_compiled (exists_marked_of_no_corrections rfl rfl _) rfl
        (exists_buildMatch_withTokens precede _) someTokens compiled
    exact ⟨found, matchesIn_of_matchTokens rfl rfl rfl matched⟩

/-- A rule has no match where no candidate is accepted. -/
theorem matchesIn_of_no_accepted
    {tokens : List Token}
    (precede : referencesPrecede tokens)
    {words : List Word}
    (noneAccepted : acceptedCandidates tokens words = .ok []) :
    (withTokens tokens precede).matchesIn { words := words } = .ok [] := by
  have matched : (withTokens tokens precede).matchTokens tokens { words := words } = .ok [] := by
    cases tokens with
    | nil =>
        rfl
    | cons =>
        simp [matchTokens, noneAccepted, withoutImmunized, Candidate.longestFirst, bind,
          Except.bind, pure, Except.pure]
  exact matchesIn_of_matchTokens rfl rfl rfl matched

/-- A rule given by its tokens alone has a match where some candidate is accepted. -/
theorem exists_matchesIn_of_accepted
    {tokens : List Token}
    (precede : referencesPrecede tokens)
    {words : List Word}
    {accepted : List Candidate}
    (areAccepted : acceptedCandidates tokens words = .ok accepted)
    (someTokens : tokens ≠ [])
    (someAccepted : accepted ≠ []) :
    ∃ found,
      (withTokens tokens precede).matchesIn { words := words } = .ok found ∧ found ≠ [] := by
  obtain ⟨steps, compiled, isFiltered⟩ := Outcome.bind_eq_ok_iff.mp areAccepted
  cases isFiltered
  obtain ⟨found, matched, sameLength⟩ :
      ∃ found,
        (withTokens tokens precede).matchTokens tokens { words := words } = .ok found ∧
          found.length = _ :=
    exists_matchTokens_of_compiled (exists_marked_of_no_corrections rfl rfl _) rfl
      (exists_buildMatch_withTokens precede _) someTokens compiled
  refine ⟨found, matchesIn_of_matchTokens rfl rfl rfl matched, ?_⟩
  rintro rfl
  exact Candidate.longestFirst_ne_nil someAccepted (List.eq_nil_of_length_eq_zero sameLength.symm)

end Rule

end ProseRules
