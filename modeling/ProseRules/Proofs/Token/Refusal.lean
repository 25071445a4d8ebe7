import ProseRules.Pattern.Step
import ProseRules.Proofs.Outcome
import ProseRules.Proofs.Regex.NegatedSource
import ProseRules.Proofs.Token.Literal

namespace ProseRules

/-!
# Tokens whose expression is refused

An escaped text is always read, so the test of a token can be prepared unless its text is an
expression that is refused where it is read. Steps that read tokens one after the other fail
with the refusal of one of them or not at all.
-/

namespace Token

/-- The text of the token is an expression, by which words are tested. -/
structure TestsByExpression (token : Token) : Prop where
  isExpression : token.isExpression = true
  hasText : token.text ≠ ""
  notReference : token.reference = none

/-- The expression of the token is refused in the form in which it is read. -/
structure IsRefusedWith (token : Token) (refusal : Regex.Refusal) : Prop
    extends token.TestsByExpression where
  refused :
    Regex.Expression.ofSource (wholeExpression token.text token.negated token.caseSensitive) =
      .error refusal

theorem TestsByExpression.wordTest_eq
    {token : Token}
    (byExpression : token.TestsByExpression) :
    token.wordTest =
      .search (if token.inflected then .baseForm else .surface)
        (wholeExpression token.text token.negated token.caseSensitive) := by
  obtain ⟨isExpression, hasText, notReference⟩ := byExpression
  simp [wordTest, textTest, isReference, isExpression, hasText, notReference]

/-- The expression for an escaped text, or for other texts, is read. -/
theorem exists_ofSource_wholeExpression_escape
    (text : String)
    (negated caseSensitive : Bool) :
    ∃ expression,
      Regex.Expression.ofSource (wholeExpression (Regex.escape text) negated caseSensitive) =
        .ok expression := by
  cases negated with
  | false =>
      obtain ⟨expression, read, _⟩ := ofSource_wholeExpression_escape text caseSensitive
      exact ⟨expression, read⟩
  | true =>
      obtain ⟨expression, read, _⟩ :=
        Regex.Expression.ofSource_negated_literal text (!caseSensitive)
      refine ⟨expression, ?_⟩
      rw [← read, wholeExpression]
      cases caseSensitive <;> simp [String.append_assoc]

/-- The test of a literal can be prepared, and so can that of a token without a test. -/
theorem exists_prepared_of_not_testsByExpression
    {token : Token}
    (notByExpression : ¬token.TestsByExpression) :
    ∃ test, token.wordTest.prepare = .ok test := by
  rw [wordTest]
  split
  · rename_i isTested
    obtain ⟨hasText, notReference⟩ : token.text ≠ "" ∧ token.reference = none := by
      simpa [isReference] using isTested
    rw [textTest]
    split
    · rename_i isExpression
      exact (notByExpression ⟨isExpression, hasText, notReference⟩).elim
    · split
      · exact ⟨_, rfl⟩
      · obtain ⟨expression, read⟩ :=
          exists_ofSource_wholeExpression_escape token.text token.negated token.caseSensitive
        simp only [WordTest.prepare, read]
        exact ⟨_, rfl⟩
  · exact ⟨.any, rfl⟩

/-- The test of a token is not prepared exactly if its expression is refused. -/
theorem prepare_eq_error_iff
    {token : Token}
    {failure : Failure} :
    token.wordTest.prepare = .error failure ↔
      ∃ refusal, token.IsRefusedWith refusal ∧ failure = .ofRefusal refusal := by
  by_cases byExpression : token.TestsByExpression
  · rw [byExpression.wordTest_eq, WordTest.prepare]
    constructor
    · intro fails
      split at fails
      · cases fails
      · rename_i refusal refused
        cases fails
        exact ⟨refusal, ⟨byExpression, refused⟩, rfl⟩
    · rintro ⟨refusal, isRefused, rfl⟩
      rw [isRefused.refused]
  · obtain ⟨test, prepared⟩ := exists_prepared_of_not_testsByExpression byExpression
    rw [prepared]
    constructor
    · intro fails
      cases fails
    · rintro ⟨_, isRefused, _⟩
      exact (byExpression isRefused.toTestsByExpression).elim

end Token

/-- What is done with some tokens fails with the refusal of one of them, or else not at all. -/
structure FailsByRefusal
    {α : Type}
    (tokens : List Token)
    (outcome : Except Failure α) :
    Prop where
  ofFailure :
    ∀ failure,
      outcome = .error failure →
        ∃ token ∈ tokens,
          ∃ refusal, token.IsRefusedWith refusal ∧ failure = .ofRefusal refusal
  ofSuccess :
    ∀ value, outcome = .ok value → ∀ token ∈ tokens, ∀ refusal, ¬token.IsRefusedWith refusal

namespace FailsByRefusal

variable {α β : Type}

theorem pure
    (value : α) :
    FailsByRefusal [] (.ok value) where
  ofFailure := nofun
  ofSuccess := by simp

/-- A step after another one adds its tokens to those of the first one. -/
theorem bind
    {tokens others : List Token}
    {first : Except Failure α}
    {next : α → Except Failure β}
    (firstFails : FailsByRefusal tokens first)
    (nextFails : ∀ value, first = .ok value → FailsByRefusal others (next value)) :
    FailsByRefusal (tokens ++ others) (first >>= next) := by
  cases outcome : first with
  | error failure =>
      refine ⟨?_, nofun⟩
      rintro _ ⟨⟩
      obtain ⟨token, member, refused⟩ := firstFails.ofFailure failure outcome
      exact ⟨token, List.mem_append_left _ member, refused⟩
  | ok value =>
      have later := nextFails value outcome
      refine ⟨fun failure fails => ?_, fun result succeeds token member => ?_⟩
      · obtain ⟨token, member, refused⟩ := later.ofFailure failure fails
        exact ⟨token, List.mem_append_right _ member, refused⟩
      · rcases List.mem_append.mp member with isFirst | isLater
        · exact firstFails.ofSuccess value outcome token isFirst
        · exact later.ofSuccess result succeeds token isLater

/-- A step after another one that does not fail itself fails as the first one does. -/
theorem bind_of_succeeds
    {tokens : List Token}
    {first : Except Failure α}
    {next : α → Except Failure β}
    (firstFails : FailsByRefusal tokens first)
    (succeeds : ∀ value, first = .ok value → ∃ result, next value = .ok result) :
    FailsByRefusal tokens (first >>= next) := by
  rw [← List.append_nil tokens]
  refine firstFails.bind fun value isValue => ?_
  obtain ⟨result, isResult⟩ := succeeds value isValue
  rw [isResult]
  exact .pure result

/-- Steps over rows of tokens fail with the refusal of a token of some row. -/
theorem mapM
    {rows : List (List Token)}
    {step : List Token → Except Failure α}
    (each : ∀ tokens ∈ rows, FailsByRefusal tokens (step tokens)) :
    FailsByRefusal rows.flatten (rows.mapM step) := by
  induction rows with
  | nil =>
      exact .pure []
  | cons tokens rows inductionHypothesis =>
      obtain ⟨first, later⟩ := List.forall_mem_cons.mp each
      rw [List.mapM_cons, List.flatten_cons]
      refine first.bind fun result _ => ?_
      exact (inductionHypothesis later).bind_of_succeeds fun results _ => ⟨_, rfl⟩

/-- Whether there is an outcome depends only on whether a token is refused. -/
theorem exists_eq_ok_iff
    {tokens : List Token}
    {outcome : Except Failure α}
    (fails : FailsByRefusal tokens outcome) :
    (∃ value, outcome = .ok value) ↔ ∀ token ∈ tokens, ∀ refusal, ¬token.IsRefusedWith refusal := by
  refine ⟨fun ⟨value, succeeds⟩ => fails.ofSuccess value succeeds, fun noneRefused => ?_⟩
  cases outcome with
  | error failure =>
      obtain ⟨token, member, refusal, isRefused, _⟩ := fails.ofFailure failure rfl
      exact (noneRefused token member refusal isRefused).elim
  | ok value =>
      exact ⟨value, rfl⟩

end FailsByRefusal

namespace Step

theorem failsByRefusal_ofTokensFrom
    (index : Nat)
    (tokens : List Token) :
    FailsByRefusal tokens (ofTokensFrom index tokens) := by
  induction tokens generalizing index with
  | nil =>
      exact .pure []
  | cons token rest inductionHypothesis =>
      have prepares : FailsByRefusal [token] token.wordTest.prepare := by
        refine ⟨fun failure fails => ?_, fun test prepared other member refusal isRefused => ?_⟩
        · exact ⟨token, List.mem_singleton_self _, Token.prepare_eq_error_iff.mp fails⟩
        · rw [List.mem_singleton.mp member] at isRefused
          have unprepared := Token.prepare_eq_error_iff.mpr ⟨refusal, isRefused, rfl⟩
          rw [prepared] at unprepared
          cases unprepared
      refine prepares.bind fun test _ => ?_
      exact (inductionHypothesis (index + 1)).bind_of_succeeds fun steps _ => ⟨_, rfl⟩

/-- The steps of a pattern exist unless the expression of a token is refused. -/
theorem failsByRefusal_ofTokens
    (tokens : List Token) :
    FailsByRefusal tokens (ofTokens tokens) :=
  failsByRefusal_ofTokensFrom 0 tokens

end Step

end ProseRules
