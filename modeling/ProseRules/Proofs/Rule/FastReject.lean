import ProseRules.Proofs.Rule.Matching
import ProseRules.Proofs.Rule.Parts
import ProseRules.Proofs.Token.Literal

namespace ProseRules.Rule

/-!
# Rules passed over for lack of a word

A rule is passed over for a sentence none of whose words shows one of its mandatory
literals, while a match only has to hold a word that the test of the literal
accepts. The two agree on a literal compared in small letters. On one compared by
a regular expression they differ exactly at the words that it overlooks.
-/

/-- A rule can be ignored where no word shows one of its mandatory literals. -/
theorem canBeIgnoredFor_iff
    {rule : Rule}
    {sentence : Sentence} :
    rule.canBeIgnoredFor sentence = true ↔
      ∃ token ∈ rule.tokens,
        token.isMandatoryLiteral = true ∧
          ∀ word ∈ sentence.words, ¬token.IsShownBy word :=
  Requirement.isUnmetBy_vocabulary_iff

section TokenRules

variable {rule : Rule} {tokens : List Token} {precede : referencesPrecede tokens}
  {sentence : Sentence} {found : List RuleMatch}

/-- A sentence with a match has a word that a mandatory literal of the rule accepts. -/
theorem exists_accepted_word_of_matchesIn
    (pattern : rule.pattern = .tokens tokens precede)
    (defaultImmunizer : rule.ownImmunizer = none)
    (matched : rule.matchesIn sentence = .ok found)
    (someFound : found ≠ [])
    {token : Token}
    (member : token ∈ tokens)
    (mandatory : token.isMandatoryLiteral = true) :
    ∃ word ∈ sentence.words, token.Accepts word := by
  obtain ⟨_, _, _, required, _⟩ := Token.isMandatoryLiteral_iff.mp mandatory
  obtain ⟨test, prepared, word, inSentence, passed⟩ :=
    exists_passing_word_of_matchesIn pattern defaultImmunizer matched someFound member required
  obtain ⟨_, preparedLiteral, holdsIff⟩ :=
    Token.exists_prepared_of_isMandatoryLiteral mandatory
  rw [prepared] at preparedLiteral
  cases preparedLiteral
  exact ⟨word, inSentence, (holdsIff word).mp passed⟩

/-- A rule with a match can be ignored only where some mandatory literal overlooks a word. -/
theorem canBeIgnoredFor_iff_overlooks
    (pattern : rule.pattern = .tokens tokens precede)
    (defaultImmunizer : rule.ownImmunizer = none)
    (matched : rule.matchesIn sentence = .ok found)
    (someFound : found ≠ []) :
    rule.canBeIgnoredFor sentence = true ↔
      ∃ token ∈ tokens,
        token.isMandatoryLiteral = true ∧
          (∃ word ∈ sentence.words, token.Overlooks word) ∧
            ∀ word ∈ sentence.words, ¬token.IsShownBy word := by
  rw [canBeIgnoredFor_iff, tokens_of_pattern pattern]
  constructor
  · rintro ⟨token, member, mandatory, notShown⟩
    obtain ⟨word, inSentence, accepted⟩ :=
      exists_accepted_word_of_matchesIn pattern defaultImmunizer matched someFound member
        mandatory
    exact
      ⟨token, member, mandatory, ⟨word, inSentence, accepted, notShown word inSentence⟩,
        notShown⟩
  · rintro ⟨token, member, mandatory, _, notShown⟩
    exact ⟨token, member, mandatory, notShown⟩

/-- A rule that can be ignored has no match where its mandatory literals overlook no word. -/
theorem eq_nil_of_nothing_overlooked
    (defaultImmunizer : rule.ownImmunizer = none)
    (nothingOverlooked :
      ∀ token ∈ rule.tokens, token.isMandatoryLiteral = true →
        ∀ word ∈ sentence.words, ¬token.Overlooks word)
    (ignored : rule.canBeIgnoredFor sentence = true)
    (matched : rule.matchesIn sentence = .ok found) :
    found = [] := by
  by_contra someFound
  cases pattern : rule.pattern with
  | tokens tokens precede =>
      obtain ⟨token, member, mandatory, ⟨word, inSentence, overlooked⟩, _⟩ :=
        (canBeIgnoredFor_iff_overlooks pattern defaultImmunizer matched someFound).mp ignored
      rw [← tokens_of_pattern pattern] at member
      exact nothingOverlooked token member mandatory word inSentence overlooked
  | absent | expression =>
      -- Without tokens there is no literal that a sentence could lack.
      obtain ⟨token, member, _⟩ := canBeIgnoredFor_iff.mp ignored
      simp [Rule.tokens, pattern] at member

/--
A rule all of whose mandatory literals are compared as surfaces and without regard
to case has no match where it can be ignored.
-/
theorem matchesIn_eq_nil_of_canBeIgnoredFor
    (pattern : rule.pattern = .tokens tokens precede)
    (defaultImmunizer : rule.ownImmunizer = none)
    (plainLiterals :
      ∀ token ∈ tokens, token.isMandatoryLiteral = true →
        token.inflected = false ∧ token.caseSensitive = false)
    (ignored : rule.canBeIgnoredFor sentence = true)
    (matched : rule.matchesIn sentence = .ok found) :
    found = [] := by
  refine eq_nil_of_nothing_overlooked defaultImmunizer ?_ ignored matched
  intro token member mandatory word _
  rw [tokens_of_pattern pattern] at member
  obtain ⟨notInflected, caseFree⟩ := plainLiterals token member mandatory
  exact Token.not_overlooks_of_plain notInflected caseFree word

end TokenRules

/-- The rule of a literal before any word. -/
def literalBeforeAny : Rule :=
  withTokens [.literal "very" false false, .placeholder (.text "")]
    (badReference?_eq_none_iff.mp (by decide))

/-- A sentence in which the literal is missing. -/
def fineDay : Sentence where
  words := [{ text := "fine" }, { text := "day" }]

/-- A literal before any word has no match where the literal is missing. -/
theorem matchesIn_eq_nil_without_literal :
    ∃ found,
      literalBeforeAny.canBeIgnoredFor fineDay = true ∧
        literalBeforeAny.matchesIn fineDay = .ok found ∧ found = [] := by
  have noCandidates : acceptedCandidates literalBeforeAny.tokens fineDay.words = .ok [] := by
    rfl
  have matched : literalBeforeAny.matchTokens literalBeforeAny.tokens fineDay = .ok [] := by
    have someTokens : literalBeforeAny.tokens.isEmpty = false := rfl
    simp [matchTokens, someTokens, noCandidates, withoutImmunized, Candidate.longestFirst, bind,
      Except.bind, pure, Except.pure]
  have ignored : literalBeforeAny.canBeIgnoredFor fineDay = true := by
    decide
  have nothingFound : literalBeforeAny.matchesIn fineDay = .ok [] :=
    matchesIn_of_matchTokens rfl rfl rfl matched
  exact
    ⟨[], ignored, nothingFound,
      matchesIn_eq_nil_of_canBeIgnoredFor rfl rfl (by decide) ignored nothingFound⟩

/-- A mandatory literal matches as many words that it accepts as it has to take. -/
theorem exists_matchesIn_of_accepts
    {token : Token}
    (mandatory : token.isMandatoryLiteral = true)
    (precede : referencesPrecede [token])
    {word : Word}
    (accepted : token.Accepts word) :
    ∃ found,
      (withTokens [token] precede).matchesIn { words := List.replicate token.least word } =
          .ok found ∧
        found ≠ [] := by
  obtain ⟨_, _, notReference, required, _⟩ := Token.isMandatoryLiteral_iff.mp mandatory
  have noReference : ∀ other ∈ [token], other.reference = none := by
    simpa [Token.isReference] using notReference
  obtain ⟨test, prepared, holdsIff⟩ := Token.exists_prepared_of_isMandatoryLiteral mandatory
  have compiled : Step.ofTokens [token] = .ok (Step.ofToken token 0 test ++ []) :=
    Step.ofTokensFrom_cons_eq_ok_iff.mpr ⟨test, [], prepared, rfl, rfl⟩
  have takes :
      Step.Takes (Step.ofToken token 0 test ++ []) (List.replicate token.least word)
        (List.replicate token.least 0) := by
    rw [List.append_nil, Step.takes_ofToken_iff]
    refine ⟨by simp, ?_, ?_, by simp⟩
    · intro most isMost
      have := token.bounds_ordered most isMost
      rw [List.length_replicate]
      omega
    · intro other member
      rw [List.eq_of_mem_replicate member]
      exact (holdsIff word).mpr accepted
  have takesFromStart :
      List.replicate token.least word <+: (List.replicate token.least word).drop 0 := by
    simp
  have takesSome : List.replicate token.least word ≠ [] := by
    simp only [ne_eq, List.replicate_eq_nil_iff]
    omega
  obtain ⟨found, matched, someFound⟩ :
      ∃ found,
        (withTokens [token] precede).matchTokens [token]
            { words := List.replicate token.least word } = .ok found ∧
          found ≠ [] :=
    exists_matchTokens_of_takes (exists_marked_of_no_corrections rfl rfl _) rfl
      (exists_buildMatch_withTokens precede _) (by simp) noReference compiled takesFromStart takes
      takesSome
  exact ⟨found, matchesIn_of_matchTokens rfl rfl rfl matched, someFound⟩

/--
The words that a mandatory literal overlooks are those on which a rule of that literal
alone is ignored although it matches.
-/
theorem overlooks_iff_exists_ignored_match
    {token : Token}
    (mandatory : token.isMandatoryLiteral = true)
    (canBeWritten : token.operator.canBeWritten = true)
    (word : Word) :
    token.Overlooks word ↔
      ∃ rule found,
        Rule.ofParts { tokens := some [token] } = .ok rule ∧
          rule.canBeIgnoredFor { words := List.replicate token.least word } = true ∧
            rule.matchesIn { words := List.replicate token.least word } = .ok found ∧
              found ≠ [] := by
  obtain ⟨_, _, notReference, required, _⟩ := Token.isMandatoryLiteral_iff.mp mandatory
  have precede : referencesPrecede [token] := by
    rw [← badReference?_eq_none_iff]
    simp_all [badReference?, Token.isReference]
  have signs : HaveSigns [token] := by
    simpa [HaveSigns] using canBeWritten
  constructor
  · rintro ⟨accepted, notShown⟩
    obtain ⟨found, matched, someFound⟩ :=
      exists_matchesIn_of_accepts mandatory precede accepted
    refine ⟨withTokens [token] precede, found, ofParts_tokens precede signs, ?_, matched, someFound⟩
    rw [canBeIgnoredFor_iff]
    refine ⟨token, List.mem_singleton.mpr rfl, mandatory, ?_⟩
    intro other member
    rw [List.eq_of_mem_replicate member]
    exact notShown
  · rintro ⟨rule, found, made, ignored, matched, someFound⟩
    rw [ofParts_tokens precede signs] at made
    cases made
    obtain ⟨other, isToken, _, ⟨word', member, overlooked⟩, _⟩ :=
      (canBeIgnoredFor_iff_overlooks rfl rfl matched someFound).mp ignored
    rw [List.mem_singleton] at isToken
    subst isToken
    rw [← List.eq_of_mem_replicate member]
    exact overlooked

/--
To be ignored rules out a match exactly where, if the rule matches, every mandatory
literal that overlooks a word of the sentence is shown by another one. For every
literal of the pattern that makes a rule a rule of that literal alone goes wrong on the
words that the literal overlooks, and on no others.
-/
theorem eq_nil_of_ignored_iff_shown
    {rule : Rule}
    {tokens : List Token}
    {precede : referencesPrecede tokens}
    (pattern : rule.pattern = .tokens tokens precede)
    (defaultImmunizer : rule.ownImmunizer = none)
    (sentence : Sentence) :
    ((rule.canBeIgnoredFor sentence = true →
          ∀ found, rule.matchesIn sentence = .ok found → found = []) ↔
        ∀ found, rule.matchesIn sentence = .ok found → found ≠ [] →
          ∀ token ∈ tokens, token.isMandatoryLiteral = true →
            (∃ word ∈ sentence.words, token.Overlooks word) →
              ∃ word ∈ sentence.words, token.IsShownBy word) ∧
      ∀ token ∈ tokens, token.isMandatoryLiteral = true → token.operator.canBeWritten = true →
        ∀ word : Word,
          token.Overlooks word ↔
            ∃ alone found,
              Rule.ofParts { tokens := some [token] } = .ok alone ∧
                alone.canBeIgnoredFor { words := List.replicate token.least word } = true ∧
                  alone.matchesIn { words := List.replicate token.least word } = .ok found ∧
                    found ≠ [] := by
  refine ⟨⟨?_, ?_⟩, ?_⟩
  · intro noMatch found matched someFound token member mandatory overlooked
    by_contra notShown
    have ignored : rule.canBeIgnoredFor sentence = true :=
      (canBeIgnoredFor_iff_overlooks pattern defaultImmunizer matched someFound).mpr
        ⟨token, member, mandatory, overlooked,
          fun word inSentence shown => notShown ⟨word, inSentence, shown⟩⟩
    exact someFound (noMatch ignored found matched)
  · intro shown ignored found matched
    by_contra someFound
    obtain ⟨token, member, mandatory, overlooked, notShown⟩ :=
      (canBeIgnoredFor_iff_overlooks pattern defaultImmunizer matched someFound).mp ignored
    obtain ⟨word, inSentence, isShown⟩ :=
      shown found matched someFound token member mandatory overlooked
    exact notShown word inSentence isShown
  · intro token _ mandatory canBeWritten word
    exact overlooks_iff_exists_ignored_match mandatory canBeWritten word

/-- A literal whose case counts overlooks itself with a line feed. -/
theorem eq_nil_of_ignored_iff_shown_lineFeed :
    ∃ rule found,
      Rule.ofParts { tokens := some [.literal "go" false true] } = .ok rule ∧
        rule.canBeIgnoredFor { words := [{ text := "go\n" }] } = true ∧
          rule.matchesIn { words := [{ text := "go\n" }] } = .ok found ∧
            found ≠ [] := by
  have precede : referencesPrecede [.literal "go" false true] :=
    badReference?_eq_none_iff.mp (by decide)
  have overlooked : (Token.literal "go" false true).Overlooks { text := "go\n" } :=
    (Token.overlooks_iff_of_caseSensitive rfl _).mpr (by decide)
  obtain ⟨_, overlooksIff⟩ :=
    @eq_nil_of_ignored_iff_shown (withTokens [.literal "go" false true] precede) _ precede rfl rfl
      { words := [{ text := "go\n" }] }
  exact
    (overlooksIff (.literal "go" false true) List.mem_cons_self (by decide) (by decide) _).mp
      overlooked

/-- A long s counts as an s without regard to case, but its small form is another letter. -/
theorem ignored_match_of_long_s :
    ∃ rule found,
      Rule.ofParts { tokens := some [.literal "is" true false] } = .ok rule ∧
        rule.canBeIgnoredFor { words := [{ text := "is", baseForm := "iſ" }] } = true ∧
          rule.matchesIn { words := [{ text := "is", baseForm := "iſ" }] } = .ok found ∧
            found ≠ [] := by
  have overlooked :
      (Token.literal "is" true false).Overlooks { text := "is", baseForm := "iſ" } := by
    refine ⟨⟨"iſ".toList, .inl rfl, ?_⟩, ?_⟩
    · decide
    · simp only [Token.IsShownBy]
      decide
  exact (overlooks_iff_exists_ignored_match (by decide) (by decide) _).mp overlooked

end ProseRules.Rule
