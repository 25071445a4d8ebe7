import ProseRules.Proofs.Outcome
import ProseRules.Rule.Matching

namespace ProseRules

/-!
# Messages that can be expanded

Whether a template can be expanded does not depend on the texts of its references: it has
to be a text, and each reference has to be short enough to be read as a number. So the
messages of a rule can be expanded for all of its matches or for none.
-/

/-- The value is a text whose references are all short enough to be read as numbers. -/
def IsTemplate (value : Value) : Prop :=
  ∃ text,
    value = .text text ∧
      ∀ digits, .reference digits ∈ templateParts text.toList →
        digits.length ≤ Text.digitLimit

theorem exists_expandPart_iff
    {reference : Nat → String}
    {part : TemplatePart} :
    (∃ characters, expandPart reference part = .ok characters) ↔
      ∀ digits, part = .reference digits → digits.length ≤ Text.digitLimit := by
  cases part with
  | literal character =>
      simp [expandPart]
  | reference digits =>
      by_cases tooLong : digits.length > Text.digitLimit
      · simp [expandPart, tooLong]
      · simp [expandPart, tooLong, Nat.le_of_not_lt tooLong]

/-- A value can be expanded exactly if it is a template, whatever its references stand for. -/
theorem exists_expandTemplate_iff
    {reference : Nat → String}
    {value : Value} :
    (∃ expanded, expandTemplate reference value = .ok expanded) ↔ IsTemplate value := by
  constructor
  · rintro ⟨expanded, succeeds⟩
    cases value with
    | text text =>
        obtain ⟨parts, expandedParts, _⟩ := Outcome.bind_eq_ok_iff.mp succeeds
        refine ⟨text, rfl, fun digits member => ?_⟩
        exact
          exists_expandPart_iff.mp (Outcome.exists_result_of_mem expandedParts member) digits rfl
    | _ =>
        cases succeeds
  · rintro ⟨text, rfl, shortReferences⟩
    have eachExpands :
        ∀ part ∈ templateParts text.toList,
          ∃ characters, expandPart reference part = .ok characters := by
      intro part member
      refine exists_expandPart_iff.mpr ?_
      rintro digits rfl
      exact shortReferences digits member
    obtain ⟨parts, expandedParts, _⟩ := Outcome.exists_mapM_eq_ok eachExpands
    exact ⟨_, Outcome.bind_eq_ok_iff.mpr ⟨parts, expandedParts, rfl⟩⟩

theorem templatePartsFrom_digits
    {characters : List Char}
    {values : List Nat}
    (areDigits : characters.map Text.digitValue? = values.map some)
    (digits : List Nat) :
    templatePartsFrom (some digits) characters = [closeReference (digits ++ values)] := by
  induction characters generalizing values digits with
  | nil =>
      cases List.map_eq_nil_iff.mp areDigits.symm
      rw [List.append_nil]
      rfl
  | cons character characters inductionHypothesis =>
      cases values with
      | nil =>
          simp at areDigits
      | cons value values =>
          rw [List.map_cons, List.map_cons, List.cons.injEq] at areDigits
          simp only [templatePartsFrom, areDigits.1]
          rw [inductionHypothesis areDigits.2, List.append_assoc, List.singleton_append]

/-- A backslash with digits up to the end of the template is one reference. -/
theorem templateParts_backslash
    {characters : List Char}
    {values : List Nat}
    (areDigits : characters.map Text.digitValue? = values.map some)
    (nonempty : values ≠ []) :
    templateParts ('\\' :: characters) = [.reference values] := by
  have parts := templatePartsFrom_digits areDigits []
  cases values with
  | nil =>
      exact (nonempty rfl).elim
  | cons value values =>
      exact parts

namespace Rule

/-- All messages of the rule can be expanded; further suggestions may be missing. -/
structure HasTemplates (rule : Rule) : Prop where
  message : IsTemplate rule.message
  shortMessage : IsTemplate rule.shortMessage
  extraSuggestions : rule.extraSuggestions.isTruthy = true → IsTemplate rule.extraSuggestions

variable {rule : Rule} {sentence : Sentence} {span wordSpan : Int × Int}
  {reference : Nat → String}

/-- A match can be built exactly if the messages of its rule can be expanded. -/
theorem exists_buildMatch_iff :
    (∃ ruleMatch, rule.buildMatch sentence span wordSpan reference = .ok ruleMatch) ↔
      rule.HasTemplates := by
  constructor
  · rintro ⟨ruleMatch, built⟩
    obtain ⟨message, messageExpands, afterMessage⟩ := Outcome.bind_eq_ok_iff.mp built
    obtain ⟨shortMessage, shortExpands, afterShort⟩ := Outcome.bind_eq_ok_iff.mp afterMessage
    refine
      ⟨exists_expandTemplate_iff.mp ⟨message, messageExpands⟩,
        exists_expandTemplate_iff.mp ⟨shortMessage, shortExpands⟩, fun someExtra => ?_⟩
    simp only [someExtra, if_true] at afterShort
    obtain ⟨extra, extraExpands, _⟩ := Outcome.bind_eq_ok_iff.mp afterShort
    exact exists_expandTemplate_iff.mp ⟨extra, extraExpands⟩
  · rintro ⟨messageTemplate, shortTemplate, extraTemplate⟩
    obtain ⟨message, messageExpands⟩ :=
      (@exists_expandTemplate_iff reference _).mpr messageTemplate
    obtain ⟨shortMessage, shortExpands⟩ :=
      (@exists_expandTemplate_iff reference _).mpr shortTemplate
    by_cases someExtra : rule.extraSuggestions.isTruthy = true
    · obtain ⟨extra, extraExpands⟩ :=
        (@exists_expandTemplate_iff reference _).mpr (extraTemplate someExtra)
      simp only [buildMatch, messageExpands, shortExpands, someExtra, if_true, extraExpands,
        bind, Except.bind]
      exact ⟨_, rfl⟩
    · simp only [buildMatch, messageExpands, shortExpands, someExtra, bind, Except.bind]
      exact ⟨_, rfl⟩

/-- Only the texts of a match have to be expanded. -/
theorem exists_texts_of_buildMatch
    {ruleMatch : RuleMatch}
    (built : rule.buildMatch sentence span wordSpan reference = .ok ruleMatch) :
    ∃ message shortMessage suggestions,
      ruleMatch =
        { ruleId := rule.id
          subId := rule.subId
          message := message
          shortMessage := shortMessage
          suggestions := suggestions
          sentence := sentence.text
          sentenceIndex := sentence.index
          span := span
          wordSpan := wordSpan } := by
  obtain ⟨_, _, afterMessage⟩ := Outcome.bind_eq_ok_iff.mp built
  obtain ⟨_, _, afterShortMessage⟩ := Outcome.bind_eq_ok_iff.mp afterMessage
  simp only at afterShortMessage
  split at afterShortMessage <;>
    · obtain ⟨_, _, result⟩ := Outcome.bind_eq_ok_iff.mp afterShortMessage
      cases result
      exact ⟨_, _, _, rfl⟩

theorem spans_of_buildMatch
    {ruleMatch : RuleMatch}
    (built : rule.buildMatch sentence span wordSpan reference = .ok ruleMatch) :
    ruleMatch.span = span ∧ ruleMatch.wordSpan = wordSpan := by
  obtain ⟨_, _, _, rfl⟩ := exists_texts_of_buildMatch built
  exact ⟨rfl, rfl⟩

theorem sentence_of_buildMatch
    {ruleMatch : RuleMatch}
    (built : rule.buildMatch sentence span wordSpan reference = .ok ruleMatch) :
    ruleMatch.sentence = sentence.text := by
  obtain ⟨_, _, _, rfl⟩ := exists_texts_of_buildMatch built
  rfl

theorem ids_of_buildMatch
    {ruleMatch : RuleMatch}
    (built : rule.buildMatch sentence span wordSpan reference = .ok ruleMatch) :
    ruleMatch.ruleId = rule.id ∧ ruleMatch.subId = rule.subId := by
  obtain ⟨_, _, _, rfl⟩ := exists_texts_of_buildMatch built
  exact ⟨rfl, rfl⟩

end Rule

end ProseRules
