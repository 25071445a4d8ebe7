import ProseRules.Proofs.Regex.LiteralSearch
import ProseRules.Proofs.Text.Lower
import ProseRules.Token.Requirement
import ProseRules.Token.Spec

namespace ProseRules

/-!
# Two comparisons of a literal with a word

A mandatory literal is compared with words twice. The test of the token accepts a
word by its small form or by a regular expression, and the required words of a
pattern are compared in small letters only. `Token.Overlooks` holds where the
first comparison succeeds and the second one fails.
-/

namespace Token

/-- The text of a word that a token is compared with. -/
def subjectOf (token : Token) (word : Word) : String :=
  if token.inflected then word.baseForm else word.text

/-- The test of a literal accepts a word. -/
def Accepts (token : Token) (word : Word) : Prop :=
  if token.inflected || token.caseSensitive then
    Regex.Comparison.Spells ⟨!token.caseSensitive, false⟩ token.text.toList
      (token.subjectOf word).toList
  else
    Text.lower word.text = Text.lower token.text

/-- A word equals a literal in small letters. -/
def IsShownBy (token : Token) (word : Word) : Prop :=
  Text.lower (token.subjectOf word) = Text.lower token.text

/-- The test of a literal accepts a word that does not equal it in small letters. -/
def Overlooks (token : Token) (word : Word) : Prop :=
  token.Accepts word ∧ ¬token.IsShownBy word

/-- The literal that takes one word. -/
def literal (text : String) (inflected caseSensitive : Bool) : Token where
  text := text
  negated := false
  isExpression := false
  inflected := inflected
  caseSensitive := caseSensitive
  least := 1
  most := some 1
  phrase := .text ""
  reference := none
  bounds_ordered := (placeholder (.text "")).bounds_ordered
  negation_has_subject := by simp

/-- The parts of being a mandatory literal. -/
theorem isMandatoryLiteral_iff
    {token : Token} :
    token.isMandatoryLiteral = true ↔
      token.negated = false ∧
        token.isExpression = false ∧
          token.isReference = false ∧ 0 < token.least ∧ token.text ≠ "" := by
  simp [isMandatoryLiteral, and_assoc]

/-- A literal that is compared as a surface without regard to case overlooks no word. -/
theorem not_overlooks_of_plain
    {token : Token}
    (notInflected : token.inflected = false)
    (caseFree : token.caseSensitive = false)
    (word : Word) :
    ¬token.Overlooks word := by
  rintro ⟨accepted, notShown⟩
  simp only [Accepts, notInflected, caseFree, Bool.or_self, Bool.false_eq_true,
    if_false] at accepted
  exact notShown (by simpa [IsShownBy, subjectOf, notInflected] using accepted)

/-- A literal whose case counts overlooks itself with a line feed, and nothing else. -/
theorem overlooks_iff_of_caseSensitive
    {token : Token}
    (caseSensitive : token.caseSensitive = true)
    (word : Word) :
    token.Overlooks word ↔ token.subjectOf word = token.text ++ "\n" := by
  have accepts :
      token.Accepts word ↔
        token.subjectOf word = token.text ∨ token.subjectOf word = token.text ++ "\n" := by
    simp [Accepts, caseSensitive, Regex.Comparison.spells_sensitive_iff,
      ← String.toList_inj]
  rw [Overlooks, accepts, IsShownBy]
  constructor
  · rintro ⟨same | withLineFeed, notShown⟩
    · exact (notShown (by rw [same])).elim
    · exact withLineFeed
  · intro withLineFeed
    refine ⟨.inr withLineFeed, ?_⟩
    rw [withLineFeed]
    exact Text.lower_append_ne token.text (by decide)

/-- The expression for a literal is read as the row of its characters between two anchors. -/
theorem ofSource_wholeExpression_escape
    (text : String)
    (caseSensitive : Bool) :
    ∃ expression,
      Regex.Expression.ofSource
            (wholeExpression (Regex.escape text) false caseSensitive) = .ok expression ∧
        expression.tree = .whole (.literal ⟨!caseSensitive, false⟩ text.toList) := by
  cases caseSensitive with
  | true =>
      simpa [wholeExpression] using Regex.Expression.ofSource_sensitive_literal text
  | false =>
      simpa [wholeExpression] using Regex.Expression.ofSource_insensitive_literal text

/-- The test of a mandatory literal can be prepared, and it holds for the accepted words. -/
theorem exists_prepared_of_isMandatoryLiteral
    {token : Token}
    (mandatory : token.isMandatoryLiteral = true) :
    ∃ test,
      token.wordTest.prepare = .ok test ∧
        ∀ word, test.holds word = true ↔ token.Accepts word := by
  obtain ⟨notNegated, notExpression, notReference, _, hasText⟩ :=
    isMandatoryLiteral_iff.mp mandatory
  by_cases bySource : (token.inflected || token.caseSensitive) = true
  · obtain ⟨expression, source, shape⟩ :=
      ofSource_wholeExpression_escape token.text token.caseSensitive
    have isSearch :
        token.wordTest =
          .search (if token.inflected then .baseForm else .surface)
            (wholeExpression (Regex.escape token.text) false token.caseSensitive) := by
      have notSmallForm : (!token.inflected && !token.caseSensitive) = false := by
        simpa [← Bool.not_or] using bySource
      simp [wordTest, textTest, hasText, notReference, notExpression, notNegated,
        notSmallForm]
    refine ⟨.search (if token.inflected then .baseForm else .surface) expression, ?_, ?_⟩
    · rw [isSearch]
      simp only [WordTest.prepare, source]
    · intro word
      rw [Accepts, if_pos bySource, subjectOf,
        ← Regex.Expression.isFoundIn_whole_literal_iff shape]
      cases token.inflected <;> rfl
  · obtain ⟨notInflected, caseFree⟩ :
        token.inflected = false ∧ token.caseSensitive = false := by
      simpa using bySource
    refine ⟨.smallForm (Text.lower token.text) false, ?_, ?_⟩
    · simp [wordTest, textTest, hasText, notReference, notExpression, notNegated,
        notInflected, caseFree, WordTest.prepare]
    · intro word
      simp [ReadyTest.holds, Accepts, notInflected, caseFree]

end Token

namespace Requirement

/-- The required words of one kind are the small forms of the mandatory literals of that kind. -/
theorem mem_wordsOf_iff
    {tokens : List Token}
    {inflected : Bool}
    {form : String} :
    form ∈ wordsOf tokens inflected ↔
      ∃ token ∈ tokens,
        token.isMandatoryLiteral = true ∧
          token.inflected = inflected ∧ Text.lower token.text = form := by
  simp only [wordsOf, List.mem_eraseDups, List.mem_map, List.mem_filter, Bool.and_eq_true,
    beq_iff_eq]
  constructor
  · rintro ⟨token, ⟨member, kind, mandatory⟩, formShape⟩
    exact ⟨token, member, mandatory, kind, formShape⟩
  · rintro ⟨token, member, mandatory, kind, formShape⟩
    exact ⟨token, ⟨member, kind, mandatory⟩, formShape⟩

/-- A sentence has the small form of a literal among those of its kind if a word shows it. -/
theorem lower_mem_vocabulary_iff
    {token : Token}
    (hasText : token.text ≠ "")
    {sentence : Sentence} :
    Text.lower token.text ∈
        (if token.inflected then sentence.vocabulary.lemmas
          else sentence.vocabulary.surfaces) ↔
      ∃ word ∈ sentence.words, token.IsShownBy word := by
  cases inflected : token.inflected with
  | false =>
      simp [Sentence.vocabulary, Token.IsShownBy, Token.subjectOf, inflected]
  | true =>
      simp only [Sentence.vocabulary, Token.IsShownBy, Token.subjectOf, inflected, if_true,
        List.mem_eraseDups, List.mem_map, List.mem_filter, decide_eq_true_eq]
      constructor
      · rintro ⟨word, ⟨inSentence, _⟩, same⟩
        exact ⟨word, inSentence, same⟩
      · rintro ⟨word, inSentence, same⟩
        refine ⟨word, ⟨inSentence, ?_⟩, same⟩
        -- An unknown base form is left out, but it shows no literal that has a text.
        intro unknown
        rw [unknown] at same
        exact Text.lower_ne_lower_empty hasText same.symm

/-- A requirement is unmet if some mandatory literal is shown by no word of the sentence. -/
theorem isUnmetBy_vocabulary_iff
    {tokens : List Token}
    {sentence : Sentence} :
    (ofTokens tokens).isUnmetBy sentence.vocabulary = true ↔
      ∃ token ∈ tokens,
        token.isMandatoryLiteral = true ∧
          ∀ word ∈ sentence.words, ¬token.IsShownBy word := by
  have missingForm :
      (ofTokens tokens).isUnmetBy sentence.vocabulary = true ↔
        (∃ form ∈ wordsOf tokens false, form ∉ sentence.vocabulary.surfaces) ∨
          ∃ form ∈ wordsOf tokens true, form ∉ sentence.vocabulary.lemmas := by
    simp [isUnmetBy, isSubset, ofTokens]
  have shownByNone :
      ∀ token : Token, token.isMandatoryLiteral = true →
        ((∀ word ∈ sentence.words, ¬token.IsShownBy word) ↔
          Text.lower token.text ∉
            (if token.inflected then sentence.vocabulary.lemmas
              else sentence.vocabulary.surfaces)) := by
    intro token mandatory
    obtain ⟨_, _, _, _, hasText⟩ := Token.isMandatoryLiteral_iff.mp mandatory
    rw [lower_mem_vocabulary_iff hasText]
    simp
  rw [missingForm]
  constructor
  · rintro (⟨form, required, missing⟩ | ⟨form, required, missing⟩)
    · obtain ⟨token, member, mandatory, kind, rfl⟩ := mem_wordsOf_iff.mp required
      exact ⟨token, member, mandatory, (shownByNone token mandatory).mpr (by simpa [kind])⟩
    · obtain ⟨token, member, mandatory, kind, rfl⟩ := mem_wordsOf_iff.mp required
      exact ⟨token, member, mandatory, (shownByNone token mandatory).mpr (by simpa [kind])⟩
  · rintro ⟨token, member, mandatory, notShown⟩
    have missing := (shownByNone token mandatory).mp notShown
    cases kind : token.inflected with
    | false =>
        exact .inl ⟨_, mem_wordsOf_iff.mpr ⟨token, member, mandatory, kind, rfl⟩,
          by simpa [kind] using missing⟩
    | true =>
        exact .inr ⟨_, mem_wordsOf_iff.mpr ⟨token, member, mandatory, kind, rfl⟩,
          by simpa [kind] using missing⟩

end Requirement

end ProseRules
