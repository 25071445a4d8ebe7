import ProseRules.Proofs.Rule.Marks
import ProseRules.Proofs.Rule.Messages
import ProseRules.Proofs.Token.Refusal

namespace ProseRules

/-!
# When matching a token pattern fails

Units are looked up only where they exist if no correction is negative, and the messages of a
rule can be expanded for all of its matches or for none. So only two steps can fail. The
expressions of tokens are read in every sentence or in none. The id of the rule, which may be too
long a number, is written where a candidate is left out because a flagged word is immunized.
-/

/-- The words of anti-patterns are found unless the expression of a token is refused. -/
theorem failsByRefusal_antipatternIndices
    (antipatterns : List (List Token))
    (words : List Word) :
    FailsByRefusal antipatterns.flatten (antipatternIndices antipatterns words) := by
  have compiles : FailsByRefusal antipatterns.flatten (antipatterns.mapM Step.ofTokens) :=
    .mapM fun tokens _ => Step.failsByRefusal_ofTokens tokens
  exact compiles.bind_of_succeeds fun patterns _ => ⟨_, rfl⟩

/-- A sentence is immunized unless the expression of a token is refused. -/
theorem failsByRefusal_immunizeByAntipatterns
    (antipatterns : List (List Token))
    (sentence : Sentence) :
    FailsByRefusal antipatterns.flatten (immunizeByAntipatterns antipatterns sentence) := by
  rw [← List.flatten_filter_not_isEmpty, immunizeByAntipatterns]
  split
  · rename_i noAntipattern
    rw [List.isEmpty_iff.mp noAntipattern]
    exact .pure sentence
  · exact
      (failsByRefusal_antipatternIndices _ sentence.words).bind_of_succeeds
        fun indices _ => ⟨_, rfl⟩

namespace Rule

/-- A word that is flagged for one of the candidates is immunized. -/
def LeavesOut (rule : Rule) (sentence : Sentence) (candidates : List Candidate) : Prop :=
  ∃ candidate ∈ candidates,
    ∃ first last : Nat,
      (UnitScale.ofRule rule).marked rule.startCorrection rule.endCorrection candidate =
          .ok (first, last) ∧
        sentence.isImmunized first last = true

/-- The matches for the candidates that are accepted in a sentence. -/
def matchAccepted (rule : Rule) (sentence : Sentence) (accepted : List Candidate) :
    Except Failure (List RuleMatch) := do
  let allowed ← rule.withoutImmunized (.ofRule rule) sentence accepted
  (Candidate.longestFirst allowed).mapM (rule.matchOfCandidate (.ofRule rule) sentence)

theorem matchTokens_eq_bind
    (rule : Rule)
    (tokens : List Token)
    (sentence : Sentence) :
    rule.matchTokens tokens sentence =
      acceptedCandidates tokens sentence.words >>= rule.matchAccepted sentence := by
  cases tokens with
  | nil =>
      have noneAccepted : acceptedCandidates [] sentence.words = .ok [] := by
        rw [acceptedCandidates_of_compiled rfl, candidates_no_steps]
        rfl
      rw [noneAccepted]
      simp [matchTokens, matchAccepted, withoutImmunized, Candidate.longestFirst, bind, Except.bind,
        pure, Except.pure]
  | cons token tokens =>
      rfl

/-- A sentence with its words immunized, and the candidates that are accepted in it. -/
def prepared (rule : Rule) (sentence : Sentence) : Except Failure (Sentence × List Candidate) := do
  let immunized ← rule.immunizer sentence
  return (immunized, ← acceptedCandidates rule.tokens immunized.words)

theorem matchPattern_immunized_eq_bind
    {rule : Rule}
    {tokens : List Token}
    {precede : referencesPrecede tokens}
    (pattern : rule.pattern = .tokens tokens precede)
    (sentence : Sentence) :
    (rule.immunizer sentence >>= rule.matchPattern) =
      rule.prepared sentence >>= fun (immunized, accepted) =>
        rule.matchAccepted immunized accepted := by
  simp only [prepared, tokens_of_pattern pattern, bind_assoc, pure_bind]
  refine congrArg _ (funext fun immunized => ?_)
  rw [matchPattern, pattern]
  exact matchTokens_eq_bind rule tokens immunized

/-- Some candidate that is accepted is left out. -/
def WritesId (rule : Rule) (sentence : Sentence) : Prop :=
  ∃ immunized accepted,
    rule.prepared sentence = .ok (immunized, accepted) ∧ rule.LeavesOut immunized accepted

/-- What is needed for matching exists unless the expression of a token is refused. -/
theorem failsByRefusal_prepared
    {rule : Rule}
    (defaultImmunizer : rule.ownImmunizer = none)
    (sentence : Sentence) :
    FailsByRefusal (rule.antipatterns.flatten ++ rule.tokens) (rule.prepared sentence) := by
  rw [prepared, immunizer, defaultImmunizer, Option.getD_none]
  refine (failsByRefusal_immunizeByAntipatterns _ sentence).bind fun immunized _ => ?_
  exact
    ((Step.failsByRefusal_ofTokens rule.tokens).bind_of_succeeds
      fun steps _ => ⟨_, rfl⟩).bind_of_succeeds fun accepted _ => ⟨_, rfl⟩

/-- No candidate is accepted without its words given to the tokens in order. -/
theorem pairwise_alignment_of_acceptedCandidates
    {tokens : List Token}
    {words : List Word}
    {accepted : List Candidate}
    (areAccepted : acceptedCandidates tokens words = .ok accepted)
    {candidate : Candidate}
    (member : candidate ∈ accepted) :
    candidate.alignment.Pairwise (· ≤ ·) := by
  obtain ⟨steps, compiled, isFiltered⟩ := Outcome.bind_eq_ok_iff.mp areAccepted
  cases isFiltered
  have isCandidate := (List.mem_filter.mp member).1
  have someTokens : tokens ≠ [] := by
    rintro rfl
    cases compiled
    rw [candidates_no_steps] at isCandidate
    cases isCandidate
  exact
    Candidate.pairwise_alignment_of_mem_candidates compiled
      (Step.ofTokens_ne_nil someTokens compiled) isCandidate

/-- The words of what is prepared are given to the tokens in order. -/
theorem pairwise_alignment_of_prepared
    {rule : Rule}
    {sentence immunized : Sentence}
    {accepted : List Candidate}
    (isPrepared : rule.prepared sentence = .ok (immunized, accepted)) :
    ∀ candidate ∈ accepted, candidate.alignment.Pairwise (· ≤ ·) := by
  obtain ⟨_, _, isPair⟩ := Outcome.bind_eq_ok_iff.mp isPrepared
  obtain ⟨_, areAccepted, ⟨⟩⟩ := Outcome.bind_eq_ok_iff.mp isPair
  exact fun _ => pairwise_alignment_of_acceptedCandidates areAccepted

section Corrections

variable {rule : Rule}
  (fromStart : 0 ≤ rule.startCorrection)
  (fromEnd : 0 ≤ rule.endCorrection)
include fromStart fromEnd

/-- Words are flagged for every candidate whose words are given to the tokens in order. -/
theorem exists_marked_of_nonneg_corrections
    {candidate : Candidate}
    (alignedInOrder : candidate.alignment.Pairwise (· ≤ ·)) :
    ∃ span,
      (UnitScale.ofRule rule).marked rule.startCorrection rule.endCorrection candidate =
        .ok span := by
  obtain ⟨first, last, marked, _⟩ :=
    exists_marked_flagsKeptUnits (Int.toNat_of_nonneg fromStart).symm
      (Int.toNat_of_nonneg fromEnd).symm alignedInOrder
  exact ⟨_, marked⟩

/-- Candidates are left out without failure if the id can be written or none is left out. -/
theorem exists_withoutImmunized
    {sentence : Sentence}
    {candidates : List Candidate}
    (alignedInOrder : ∀ candidate ∈ candidates, candidate.alignment.Pairwise (· ≤ ·))
    (idIsShown : rule.LeavesOut sentence candidates → rule.id.canBeShown = true) :
    ∃ allowed,
      rule.withoutImmunized (.ofRule rule) sentence candidates = .ok allowed := by
  induction candidates with
  | nil =>
      exact ⟨[], rfl⟩
  | cons candidate rest inductionHypothesis =>
      obtain ⟨isFirst, later⟩ := List.forall_mem_cons.mp alignedInOrder
      obtain ⟨⟨first, last⟩, marked⟩ :=
        exists_marked_of_nonneg_corrections fromStart fromEnd isFirst
      obtain ⟨kept, keptSucceeds⟩ :=
        inductionHypothesis later fun ⟨other, member, isLeftOut⟩ =>
          idIsShown ⟨other, List.mem_cons_of_mem _ member, isLeftOut⟩
      simp only [withoutImmunized_cons_eq_ok_iff]
      cases isImmunized : sentence.isImmunized first last with
      | true =>
          have isShown :=
            idIsShown ⟨candidate, List.mem_cons_self, first, last, marked, isImmunized⟩
          exact ⟨_, first, last, marked, kept, keptSucceeds, .inl ⟨isImmunized, isShown, rfl⟩⟩
      | false =>
          exact ⟨_, first, last, marked, kept, keptSucceeds, .inr ⟨isImmunized, rfl⟩⟩

/-- If the id cannot be written, then no candidate can be left out. -/
theorem withoutImmunized_eq_error
    {sentence : Sentence}
    {candidates : List Candidate}
    (alignedInOrder : ∀ candidate ∈ candidates, candidate.alignment.Pairwise (· ≤ ·))
    (notShown : rule.id.canBeShown = false)
    (leavesOut : rule.LeavesOut sentence candidates) :
    rule.withoutImmunized (.ofRule rule) sentence candidates = .error .tooLongToWrite := by
  induction candidates with
  | nil =>
      obtain ⟨_, member, _⟩ := leavesOut
      cases member
  | cons candidate rest inductionHypothesis =>
      obtain ⟨isFirst, later⟩ := List.forall_mem_cons.mp alignedInOrder
      obtain ⟨⟨first, last⟩, marked⟩ :=
        exists_marked_of_nonneg_corrections fromStart fromEnd isFirst
      rw [withoutImmunized, marked]
      cases isImmunized : sentence.isImmunized first last with
      | true =>
          simp [isImmunized, Value.shown, notShown, bind, Except.bind]
      | false =>
          have leavesOutLater : rule.LeavesOut sentence rest := by
            obtain ⟨other, member, first', last', marked', isLeftOut⟩ := leavesOut
            rcases List.mem_cons.mp member with rfl | inRest
            · cases marked.symm.trans marked'
              rw [isImmunized] at isLeftOut
              cases isLeftOut
            · exact ⟨other, inRest, first', last', marked', isLeftOut⟩
          simp [isImmunized, inductionHypothesis later leavesOutLater, bind, Except.bind]

section Accepted

variable {sentence : Sentence} {accepted : List Candidate}
  (alignedInOrder : ∀ candidate ∈ accepted, candidate.alignment.Pairwise (· ≤ ·))
include alignedInOrder

/-- Messages that can be expanded are all that a match needs besides. -/
theorem exists_matchAccepted
    (templates : rule.HasTemplates)
    (idIsShown : rule.LeavesOut sentence accepted → rule.id.canBeShown = true) :
    ∃ found, rule.matchAccepted sentence accepted = .ok found := by
  obtain ⟨allowed, isAllowed⟩ :=
    exists_withoutImmunized fromStart fromEnd alignedInOrder idIsShown
  have builtForEach :
      ∀ candidate ∈ Candidate.longestFirst allowed,
        ∃ ruleMatch,
          rule.matchOfCandidate (.ofRule rule) sentence candidate = .ok ruleMatch := by
    intro candidate kept
    have isAccepted :=
      mem_of_mem_withoutImmunized isAllowed (Candidate.mem_of_mem_longestFirst kept)
    obtain ⟨⟨first, last⟩, marked⟩ :=
      exists_marked_of_nonneg_corrections fromStart fromEnd (alignedInOrder candidate isAccepted)
    simp only [matchOfCandidate, marked, bind, Except.bind]
    exact exists_buildMatch_iff.mpr templates
  obtain ⟨found, matched, _⟩ := Outcome.exists_mapM_eq_ok builtForEach
  exact ⟨found, Outcome.bind_eq_ok_iff.mpr ⟨allowed, isAllowed, matched⟩⟩

theorem matchAccepted_eq_error
    (notShown : rule.id.canBeShown = false)
    (leavesOut : rule.LeavesOut sentence accepted) :
    rule.matchAccepted sentence accepted = .error .tooLongToWrite := by
  rw [matchAccepted, withoutImmunized_eq_error fromStart fromEnd alignedInOrder notShown leavesOut]
  rfl

end Accepted

end Corrections

/-- A refused expression is no failure of reading or writing a file. -/
theorem isInputOutput_ofRefusal
    (refusal : Regex.Refusal) :
    (Failure.ofRefusal refusal).isInputOutput = false := by
  cases refusal <;> rfl

section Prepared

variable {rule : Rule}
  {tokens : List Token}
  {precede : referencesPrecede tokens}
  (pattern : rule.pattern = .tokens tokens precede)
  {sentence : Sentence}
include pattern

/-- What prevents matching is reported with the text of the sentence. -/
theorem matchesIn_eq_error_of_prepared
    {cause : Failure}
    (fails : rule.prepared sentence = .error cause)
    (notInputOutput : cause.isInputOutput = false) :
    rule.matchesIn sentence = .error (.sentenceUnmatched sentence.text cause) := by
  have outcome := matchPattern_immunized_eq_bind pattern sentence
  rw [fails] at outcome
  rw [matchesIn_eq_error (hasPattern_of_pattern pattern) outcome, notInputOutput]
  rfl

variable (fromStart : 0 ≤ rule.startCorrection)
  (fromEnd : 0 ≤ rule.endCorrection)
include fromStart fromEnd

/-- A rule that is prepared has its matches unless its id has to be written and cannot be. -/
theorem exists_matchesIn_of_prepared
    (templates : rule.HasTemplates)
    {immunized : Sentence}
    {accepted : List Candidate}
    (isPrepared : rule.prepared sentence = .ok (immunized, accepted))
    (idIsShown : rule.WritesId sentence → rule.id.canBeShown = true) :
    ∃ found, rule.matchesIn sentence = .ok found := by
  obtain ⟨found, matched⟩ :=
    exists_matchAccepted fromStart fromEnd (pairwise_alignment_of_prepared isPrepared) templates
      fun leavesOut => idIsShown ⟨immunized, accepted, isPrepared, leavesOut⟩
  have outcome := matchPattern_immunized_eq_bind pattern sentence
  rw [isPrepared] at outcome
  refine ⟨found, matchesIn_eq_ok_iff.mpr ⟨hasPattern_of_pattern pattern, ?_⟩⟩
  exact Outcome.bind_eq_ok_iff.mp (outcome.trans matched)

/-- An id that has to be written and cannot be is reported with the text of the sentence. -/
theorem matchesIn_eq_error_of_writesId
    (notShown : rule.id.canBeShown = false)
    (writesId : rule.WritesId sentence) :
    rule.matchesIn sentence = .error (.sentenceUnmatched sentence.text .tooLongToWrite) := by
  obtain ⟨immunized, accepted, isPrepared, leavesOut⟩ := writesId
  have matched :=
    matchAccepted_eq_error fromStart fromEnd (pairwise_alignment_of_prepared isPrepared) notShown
      leavesOut
  have outcome := matchPattern_immunized_eq_bind pattern sentence
  rw [isPrepared] at outcome
  rw [matchesIn_eq_error (hasPattern_of_pattern pattern) (outcome.trans matched)]
  rfl

end Prepared

/--
A rule with a token pattern, no negative correction and messages that can be expanded has its
matches in every sentence, whatever is known of the words, unless the expression of a token of
the pattern or of an anti-pattern is refused, or the id of the rule is too long a number and has
to be written. The failure tells of such a refusal or of the number, with the text of the
sentence.
-/
theorem exists_matchesIn_iff_not_isRefusedWith
    {rule : Rule}
    {tokens : List Token}
    {precede : referencesPrecede tokens}
    (pattern : rule.pattern = .tokens tokens precede)
    (defaultImmunizer : rule.ownImmunizer = none)
    (fromStart : 0 ≤ rule.startCorrection)
    (fromEnd : 0 ≤ rule.endCorrection)
    (templates : rule.HasTemplates)
    (sentence : Sentence) :
    ((∃ found, rule.matchesIn sentence = .ok found) ↔
        (∀ token ∈ rule.antipatterns.flatten ++ tokens,
            ∀ refusal, ¬token.IsRefusedWith refusal) ∧
          (rule.WritesId sentence → rule.id.canBeShown = true)) ∧
      ∀ failure,
        rule.matchesIn sentence = .error failure →
          (∃ token ∈ rule.antipatterns.flatten ++ tokens,
              ∃ refusal,
                token.IsRefusedWith refusal ∧
                  failure = .sentenceUnmatched sentence.text (.ofRefusal refusal)) ∨
            rule.WritesId sentence ∧
              rule.id.canBeShown = false ∧
                failure = .sentenceUnmatched sentence.text .tooLongToWrite := by
  have fails := failsByRefusal_prepared defaultImmunizer sentence
  rw [tokens_of_pattern pattern] at fails
  cases prepared : rule.prepared sentence with
  | error cause =>
      obtain ⟨token, member, refusal, isRefused, rfl⟩ := fails.ofFailure cause prepared
      rw [matchesIn_eq_error_of_prepared pattern prepared (isInputOutput_ofRefusal refusal)]
      refine ⟨⟨?_, fun succeeds => (succeeds.1 token member refusal isRefused).elim⟩, ?_⟩
      · rintro ⟨_, ⟨⟩⟩
      · rintro _ ⟨⟩
        exact .inl ⟨token, member, refusal, isRefused, rfl⟩
  | ok both =>
      have noneRefused := fails.ofSuccess _ prepared
      by_cases idIsShown : rule.WritesId sentence → rule.id.canBeShown = true
      · obtain ⟨found, succeeds⟩ :=
          exists_matchesIn_of_prepared pattern fromStart fromEnd templates prepared idIsShown
        rw [succeeds]
        refine ⟨⟨fun _ => ⟨noneRefused, idIsShown⟩, fun _ => ⟨found, rfl⟩⟩, ?_⟩
        rintro _ ⟨⟩
      · obtain ⟨writesId, notShown⟩ := Classical.not_imp.mp idIsShown
        rw [Bool.not_eq_true] at notShown
        rw [matchesIn_eq_error_of_writesId pattern fromStart fromEnd notShown writesId]
        refine ⟨⟨?_, fun succeeds => (idIsShown succeeds.2).elim⟩, ?_⟩
        · rintro ⟨_, ⟨⟩⟩
        · rintro _ ⟨⟩
          exact .inr ⟨writesId, notShown, rfl⟩

/-- A token of any word whose base form is not a certain one. -/
def otherBaseForm : Token :=
  { Token.literal "have" true false with
    negated := true
    negation_has_subject := by simp [Token.literal] }

/-- A token of an expression that cannot be read. -/
def openParenthesis : Token :=
  { Token.literal "(" false true with isExpression := true }

/-- The rule of a word with another base form. -/
def anyOtherForm : Rule :=
  withTokens [otherBaseForm] (badReference?_eq_none_iff.mp (by decide))

/-- The same rule with an anti-pattern that cannot be read. -/
def anyOtherFormExceptUnreadable : Rule :=
  { anyOtherForm with
    antipatterns := [[openParenthesis]] }

/-- A word of which no base form is known. -/
def wordWithoutBaseForm : Sentence where
  words := [{ text := "is" }]

theorem hasTemplates_anyOtherForm :
    anyOtherForm.HasTemplates :=
  (@exists_buildMatch_iff anyOtherForm wordWithoutBaseForm (0, 0) (0, 0) fun _ => "").mp
    ⟨_, rfl⟩

theorem not_isRefusedWith_otherBaseForm
    (refusal : Regex.Refusal) :
    ¬otherBaseForm.IsRefusedWith refusal := by
  intro isRefused
  exact Bool.false_ne_true isRefused.isExpression

theorem isRefusedWith_openParenthesis_iff
    {refusal : Regex.Refusal} :
    openParenthesis.IsRefusedWith refusal ↔
      refusal = .malformed .unterminatedGroup (some 1) := by
  have refused :
      Regex.Expression.ofSource "^(?:()$" = .error (.malformed .unterminatedGroup (some 1)) := by
    decide +kernel
  constructor
  · intro isRefused
    exact (Except.error.inj (refused.symm.trans isRefused.refused)).symm
  · rintro rfl
    exact ⟨⟨rfl, by decide, rfl⟩, refused⟩

/-- The rule is matched with a word without a base form, and fails for its anti-pattern alone. -/
theorem exists_matchesIn_anyOtherForm :
    (∃ found, anyOtherForm.matchesIn wordWithoutBaseForm = .ok found) ∧
      anyOtherFormExceptUnreadable.matchesIn wordWithoutBaseForm =
        .error (.sentenceUnmatched "is" (.badExpression .unterminatedGroup)) := by
  obtain ⟨readable, _⟩ :=
    exists_matchesIn_iff_not_isRefusedWith (rfl : anyOtherForm.pattern = _) rfl (Int.le_refl 0)
      (Int.le_refl 0) hasTemplates_anyOtherForm wordWithoutBaseForm
  obtain ⟨unreadable, failures⟩ :=
    exists_matchesIn_iff_not_isRefusedWith (rfl : anyOtherFormExceptUnreadable.pattern = _) rfl
      (Int.le_refl 0) (Int.le_refl 0)
      ⟨hasTemplates_anyOtherForm.1, hasTemplates_anyOtherForm.2, hasTemplates_anyOtherForm.3⟩
      wordWithoutBaseForm
  constructor
  · refine readable.mpr ⟨fun token member => ?_, fun _ => rfl⟩
    rw [List.mem_singleton.mp member]
    exact not_isRefusedWith_otherBaseForm
  · cases outcome : anyOtherFormExceptUnreadable.matchesIn wordWithoutBaseForm with
    | ok found =>
        obtain ⟨noneRefused, _⟩ := unreadable.mp ⟨found, outcome⟩
        have isRefused := isRefusedWith_openParenthesis_iff.mpr rfl
        exact (noneRefused openParenthesis List.mem_cons_self _ isRefused).elim
    | error failure =>
        obtain ⟨token, member, refusal, isRefused, rfl⟩ | ⟨_, notShown, _⟩ :=
          failures failure outcome
        case inr => exact (Bool.false_ne_true notShown.symm).elim
        rcases List.mem_pair.mp member with rfl | rfl
        · rw [isRefusedWith_openParenthesis_iff.mp isRefused]
          rfl
        · exact (not_isRefusedWith_otherBaseForm refusal isRefused).elim

end Rule

/-- Some base form of the words is known. Of no words none is missing. -/
def Sentence.HasBaseForms (sentence : Sentence) : Prop :=
  sentence.words = [] ∨ ∃ word ∈ sentence.words, word.baseForm ≠ ""

/-- The token compares its text with the base forms of words. -/
structure Token.ComparesBaseForms (token : Token) : Prop where
  inflected : token.inflected = true
  hasText : token.text ≠ ""
  notReference : token.reference = none

/-- A word without a base form is compared like one with an empty base form, without failure. -/
theorem Rule.not_fails_without_baseForms :
    anyOtherForm.ownImmunizer = none ∧
      0 ≤ anyOtherForm.startCorrection ∧
        0 ≤ anyOtherForm.endCorrection ∧
          anyOtherForm.HasTemplates ∧
            (∀ token ∈ anyOtherForm.antipatterns.flatten ++ anyOtherForm.tokens,
                ∀ refusal, ¬token.IsRefusedWith refusal) ∧
              (∃ found,
                  anyOtherForm.matchesIn wordWithoutBaseForm = .ok found ∧
                    found.map (·.wordSpan) = [(0, 1)]) ∧
                ¬((∃ failure, anyOtherForm.matchesIn wordWithoutBaseForm = .error failure) ↔
                    ¬wordWithoutBaseForm.HasBaseForms ∧
                      ∃ token ∈ anyOtherForm.antipatterns.flatten ++ anyOtherForm.tokens,
                        token.ComparesBaseForms) := by
  have evaluated :
      (anyOtherForm.matchesIn wordWithoutBaseForm).toOption.map (·.map (·.wordSpan)) =
        some [(0, 1)] := by
    decide +kernel
  obtain ⟨found, succeeds, wordSpans⟩ := Outcome.exists_eq_ok_of_toOption_map evaluated
  refine
    ⟨rfl, Int.le_refl 0, Int.le_refl 0, hasTemplates_anyOtherForm, ?_, ⟨found, succeeds, wordSpans⟩,
      fun failsWithout => ?_⟩
  · intro token member
    rw [List.mem_singleton.mp member]
    exact not_isRefusedWith_otherBaseForm
  · have noBaseForms : ¬wordWithoutBaseForm.HasBaseForms := by
      simp [Sentence.HasBaseForms, wordWithoutBaseForm]
    have compares : otherBaseForm.ComparesBaseForms := ⟨rfl, by decide, rfl⟩
    obtain ⟨failure, fails⟩ :=
      failsWithout.mpr ⟨noBaseForms, otherBaseForm, List.mem_cons_self, compares⟩
    rw [succeeds] at fails
    cases fails

end ProseRules
