import ProseRules.Checker
import ProseRules.Proofs.Rule.FastReject
import ProseRules.Proofs.Sentence.Division

namespace ProseRules

/-!
# Checking with and without passing rules over

With the fast reject a rule is not matched with a sentence that lacks one of its
required words. A match is not lost by that, unless a literal overlooks a word.
A failure may be: a check that passes no rule over ends in the same way, or else
in the failure of a rule that the other check passes over.
-/

namespace Check

variable {α β : Type} {excused : Failure → Prop}

/-- A check ends like another one, or in a failure that is excused. -/
def EndsLike (excused : Failure → Prop) (first second : Check α) : Prop :=
  first.outcome = second.outcome ∨
    ∃ failure, excused failure ∧ first.outcome = .error failure

/-- A check ends like itself. -/
theorem EndsLike.refl
    (check : Check α) :
    EndsLike excused check check :=
  .inl rfl

/-- Checks that end alike end alike if they go on alike. -/
theorem EndsLike.andThen
    {first second : Check α}
    (starts : EndsLike excused first second)
    {next other : α → Check β}
    (goesOn : ∀ value, EndsLike excused (next value) (other value)) :
    EndsLike excused (first.andThen next) (second.andThen other) := by
  rcases starts with sameStart | ⟨failure, isExcused, fails⟩
  · cases start : first.outcome with
    | error failure =>
        refine .inl ?_
        simp only [Check.andThen, ← sameStart, start]
    | ok value =>
        rcases goesOn value with sameEnd | ⟨failure, isExcused, fails⟩
        · refine .inl ?_
          simp only [Check.andThen, ← sameStart, start, sameEnd]
        · refine .inr ⟨failure, isExcused, ?_⟩
          simp only [Check.andThen, start, fails]
  · refine .inr ⟨failure, isExcused, ?_⟩
    simp only [Check.andThen, fails]

/-- Checks of the items of a list end alike if those of each item do. -/
theorem EndsLike.concat
    {check other : α → Check (List β)}
    {items : List α}
    (each : ∀ item ∈ items, EndsLike excused (check item) (other item)) :
    EndsLike excused (Check.concat check items) (Check.concat other items) := by
  induction items with
  | nil =>
      exact .refl _
  | cons item items inductionHypothesis =>
      obtain ⟨first, later⟩ := List.forall_mem_cons.mp each
      exact first.andThen fun found =>
        (inductionHypothesis later).andThen fun others => .refl _

end Check

namespace Checker

/-- No mandatory literal of the rules overlooks one of the words. -/
def OverlooksNothing (checker : Checker) (words : List Word) : Prop :=
  ∀ rule ∈ checker.rules, ∀ token ∈ rule.tokens,
    token.isMandatoryLiteral = true → ∀ word ∈ words, ¬token.Overlooks word

/-- The entries of matches depend on the severity and the exceptions alone. -/
theorem entriesOf_congr
    {checker other : Checker}
    (sameSeverity : other.severity = checker.severity)
    (sameExceptions : other.exceptions = checker.exceptions)
    (found : List RuleMatch) :
    other.entriesOf found = checker.entriesOf found := by
  induction found with
  | nil =>
      rfl
  | cons first rest inductionHypothesis =>
      simp only [entriesOf, entryOf, inductionHypothesis, sameSeverity, sameExceptions]

/-- A failure of a rule that can be ignored for a sentence. -/
def FailsIgnored (checker : Checker) (sentences : List Sentence) (failure : Failure) : Prop :=
  ∃ sentence ∈ sentences, ∃ rule ∈ checker.rules,
    rule.canBeIgnoredFor sentence = true ∧
      ({ checker with fastReject := false }.checkRule sentence rule).outcome = .error failure

/-- The check of one rule ends alike, unless the rule fails where it can be ignored. -/
theorem checkRule_endsLike
    {checker : Checker}
    {sentences : List Sentence}
    {sentence : Sentence}
    (isSentence : sentence ∈ sentences)
    {rule : Rule}
    (isRule : rule ∈ checker.rules)
    (defaultImmunizer : rule.ownImmunizer = none)
    (nothingOverlooked : checker.OverlooksNothing sentence.words) :
    Check.EndsLike (checker.FailsIgnored sentences)
      ({ checker with fastReject := false }.checkRule sentence rule)
      ({ checker with fastReject := true }.checkRule sentence rule) := by
  cases ignored : rule.canBeIgnoredFor sentence with
  | false =>
      refine .inl ?_
      simp [checkRule, ignored]
  | true =>
      have passedOver :
          ({ checker with fastReject := true }.checkRule sentence rule).outcome = .ok [] := by
        simp [checkRule, ignored]
      cases outcome : ({ checker with fastReject := false }.checkRule sentence rule).outcome with
      | error failure =>
          exact .inr ⟨failure, ⟨sentence, isSentence, rule, isRule, ignored, outcome⟩, outcome⟩
      | ok found =>
          refine .inl ?_
          rw [passedOver, outcome]
          simp only [checkRule, Bool.false_and, Bool.false_eq_true, if_false] at outcome
          split at outcome
          · rename_i found' matched
            cases outcome
            rw [Rule.eq_nil_of_nothing_overlooked defaultImmunizer
              (nothingOverlooked rule isRule) ignored matched]
          · split at outcome
            · cases outcome
              rfl
            · cases outcome
          · cases outcome

/-- The check of one sentence ends alike, unless a rule fails that can be ignored for it. -/
theorem analyzeSentence_endsLike
    {checker : Checker}
    {sentences : List Sentence}
    {sentence : Sentence}
    (isSentence : sentence ∈ sentences)
    (defaultImmunizers : ∀ rule ∈ checker.rules, rule.ownImmunizer = none)
    (nothingOverlooked : checker.OverlooksNothing sentence.words) :
    Check.EndsLike (checker.FailsIgnored sentences)
      ({ checker with fastReject := false }.analyzeSentence sentence)
      ({ checker with fastReject := true }.analyzeSentence sentence) := by
  have sameMatches :
      Check.EndsLike (checker.FailsIgnored sentences)
        ({ checker with fastReject := false }.checkSentence sentence)
        ({ checker with fastReject := true }.checkSentence sentence) :=
    .concat fun rule isRule =>
      checkRule_endsLike isSentence isRule (defaultImmunizers rule isRule) nothingOverlooked
  refine sameMatches.andThen fun found => .inl ?_
  have sameEntries :=
    @entriesOf_congr { checker with fastReject := true } { checker with fastReject := false } rfl
      rfl found
  exact sameEntries

/--
Without passing rules over the check of a document ends as with it, or in the failure
of a rule that can be ignored for a sentence of the document.
-/
theorem analyze_without_fastReject
    {checker : Checker}
    (defaultImmunizers : ∀ rule ∈ checker.rules, rule.ownImmunizer = none)
    (context : Value)
    {document : Option (List Word)}
    (nothingOverlooked : ∀ words, document = some words → checker.OverlooksNothing words) :
    ({ checker with fastReject := false }.analyze context document).outcome =
        ({ checker with fastReject := true }.analyze context document).outcome ∨
      ∃ words sentence rule failure,
        document = some words ∧
          sentence ∈ Document.sentences words ∧
            rule ∈ checker.rules ∧
              rule.canBeIgnoredFor sentence = true ∧
                ({ checker with fastReject := false }.checkRule sentence rule).outcome =
                    .error failure ∧
                  ({ checker with fastReject := false }.analyze context document).outcome =
                    .error failure := by
  cases codeBlock : isCodeBlock context with
  | error failure =>
      exact .inl (by simp [analyze, codeBlock])
  | ok isCode =>
      cases isCode with
      | true =>
          exact .inl (by simp [analyze, codeBlock])
      | false =>
          cases document with
          | none =>
              exact .inl (by simp [analyze, codeBlock])
          | some words =>
              have endsLike :
                  Check.EndsLike (checker.FailsIgnored (Document.sentences words))
                    ({ checker with fastReject := false }.analyze context (some words))
                    ({ checker with fastReject := true }.analyze context (some words)) := by
                simp only [analyze, codeBlock]
                refine .concat fun sentence isSentence => ?_
                refine analyzeSentence_endsLike isSentence defaultImmunizers ?_
                intro rule isRule token member mandatory word inSentence
                exact nothingOverlooked words rfl rule isRule token member mandatory word
                  (Document.words_subset_of_mem_sentences isSentence inSentence)
              rcases endsLike with same | ⟨failure, fails, ends⟩
              · exact .inl same
              · obtain ⟨sentence, isSentence, rule, isRule, ignored, failsAlone⟩ := fails
                exact
                  .inr ⟨words, sentence, rule, failure, rfl, isSentence, isRule, ignored,
                    failsAlone, ends⟩

/-- A literal and an expression that cannot be read. -/
def literalThenUnreadable : List Token :=
  [.literal "missing" false false, { Token.literal "(" false true with isExpression := true }]

/-- The rule of a literal before an expression that cannot be read. -/
def unreadableRule : Rule :=
  .withTokens literalThenUnreadable (Rule.badReference?_eq_none_iff.mp (by decide))

/-- A checker of a rule that cannot be prepared. -/
def unreadableChecker : Checker where
  rules := [unreadableRule]
  fastReject := true
  severity := .text "medium"
  exceptions := .none

/-- Two words, neither of which is the literal. -/
def otherWords : List Word :=
  [{ text := "a" }, { text := "b" }]

/-- The literal of the rule of the example overlooks no word, so the checks end as they may. -/
theorem analyze_unreadable_without_fastReject :
    ({ unreadableChecker with fastReject := false }.analyze .null (some otherWords)).outcome =
        ({ unreadableChecker with fastReject := true }.analyze .null
          (some otherWords)).outcome ∨
      ∃ words sentence rule failure,
        some otherWords = some words ∧
          sentence ∈ Document.sentences words ∧
            rule ∈ unreadableChecker.rules ∧
              rule.canBeIgnoredFor sentence = true ∧
                ({ unreadableChecker with fastReject := false }.checkRule sentence
                      rule).outcome = .error failure ∧
                  ({ unreadableChecker with fastReject := false }.analyze .null
                      (some otherWords)).outcome = .error failure := by
  refine analyze_without_fastReject ?_ .null ?_
  · simp [unreadableChecker, unreadableRule, Rule.withTokens, Rule.ofPattern]
  · intro words isDocument rule isRule token member mandatory word inDocument
    have isLiteral : token = .literal "missing" false false := by
      simp only [unreadableChecker, List.mem_singleton] at isRule
      subst isRule
      rcases List.mem_cons.mp member with first | second
      · exact first
      · rw [List.mem_singleton] at second
        subst second
        simp [Token.isMandatoryLiteral] at mandatory
    subst isLiteral
    exact Token.not_overlooks_of_plain rfl rfl word

/-- A rule that cannot be prepared fails in every sentence that it is matched with. -/
theorem matchesIn_unreadableRule
    (sentence : Sentence) :
    unreadableRule.matchesIn sentence =
      .error (.sentenceUnmatched sentence.text (.badExpression .unterminatedGroup)) := by
  have refused :
      Regex.Expression.ofSource "^(?:()$" = .error (.malformed .unterminatedGroup (some 1)) := by
    decide +kernel
  have unprepared :
      Step.ofTokens literalThenUnreadable = .error (.badExpression .unterminatedGroup) := by
    simp [Step.ofTokens, Step.ofTokensFrom, literalThenUnreadable, Token.wordTest,
      Token.textTest, Token.literal, Token.isReference, Token.wholeExpression, WordTest.prepare,
      refused, Failure.ofRefusal, bind, Except.bind]
  exact
    Rule.matchesIn_of_unprepared rfl rfl rfl (by simp [literalThenUnreadable]) unprepared rfl
      sentence

/-- A rule whose expression cannot be read fails only where it is not passed over. -/
theorem analyze_unreadable_differs :
    ∃ failure,
      ({ unreadableChecker with fastReject := true }.analyze .null
            (some otherWords)).outcome = .ok [] ∧
        ({ unreadableChecker with fastReject := false }.analyze .null
            (some otherWords)).outcome = .error failure := by
  have oneSentence : Document.sentences otherWords = [{ words := otherWords }] := by
    rfl
  have ignored : unreadableRule.canBeIgnoredFor { words := otherWords } = true := by
    decide
  have passedOver :
      ({ unreadableChecker with fastReject := true }.checkSentence
          { words := otherWords }).outcome = .ok [] := by
    simp [checkSentence, unreadableChecker, Check.concat, checkRule, ignored, Check.andThen,
      Check.found]
  have endsInFailure :
      ({ unreadableChecker with fastReject := false }.checkSentence
          { words := otherWords }).outcome =
        .error (.sentenceUnmatched (Sentence.text { words := otherWords })
          (.badExpression .unterminatedGroup)) := by
    simp [checkSentence, unreadableChecker, Check.concat, checkRule, matchesIn_unreadableRule,
      Check.andThen, Check.failed]
  refine
    ⟨.sentenceUnmatched (Sentence.text { words := otherWords })
      (.badExpression .unterminatedGroup), ?_, ?_⟩
  · simp [analyze, isCodeBlock, Value.isTruthy, oneSentence, Check.concat, analyzeSentence,
      passedOver, Check.andThen, Check.found, entriesOf]
  · simp [analyze, isCodeBlock, Value.isTruthy, oneSentence, Check.concat, analyzeSentence,
      endsInFailure, Check.andThen]

end Checker

end ProseRules
