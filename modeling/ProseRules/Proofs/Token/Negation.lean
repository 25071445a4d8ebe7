import ProseRules.Proofs.Regex.AnchoredSource
import ProseRules.Proofs.Regex.NegatedSearch
import ProseRules.Proofs.Token.Literal

namespace ProseRules

/-!
# The negation of a token

A token and the same token with its negation flipped are tested by two expressions of different
shape, or by two comparisons of the small form. Exactly one of the two tests accepts a word.
-/

namespace Token

/-- The token with its negation flipped. -/
def flipped (token : Token) (hasText : token.text ≠ "") : Token :=
  { token with
    negated := !token.negated
    negation_has_subject := fun _ => .inl hasText }

/-- The body between the anchors of the expression of a token. -/
def expressionBody (token : Token) : String :=
  if token.isExpression then token.text else Regex.escape token.text

/-- Words are compared by the small form of the surface. -/
def comparesSmallForms (token : Token) : Bool :=
  !token.isExpression && !token.inflected && !token.caseSensitive

/-- The aspect of a word in which the expression is searched. -/
def aspect (token : Token) : Aspect :=
  if token.inflected then .baseForm else .surface

theorem textTest_eq
    (token : Token) :
    token.textTest =
      if token.comparesSmallForms then .smallForm (Text.lower token.text) token.negated
      else
        .search token.aspect
          (wholeExpression token.expressionBody token.negated token.caseSensitive) := by
  cases isExpression : token.isExpression <;> cases inflected : token.inflected <;>
    cases caseSensitive : token.caseSensitive <;>
    simp [textTest, comparesSmallForms, expressionBody, aspect, isExpression, inflected,
      caseSensitive]

/-- The flipped token differs in its negation only. -/
theorem flipped_textTest_eq
    (token : Token)
    (hasText : token.text ≠ "") :
    (token.flipped hasText).textTest =
      if token.comparesSmallForms then .smallForm (Text.lower token.text) (!token.negated)
      else
        .search token.aspect
          (wholeExpression token.expressionBody (!token.negated) token.caseSensitive) :=
  textTest_eq (token.flipped hasText)

/--
The text of the token, if it is an expression, is one on its own and in one of the forms in which
words are tested by it.
-/
def IsReadAlone (token : Token) : Prop :=
  token.isExpression = true →
    (∃ own, Regex.Expression.ofSource token.text = .ok own) ∧
      ∃ negated expression,
        Regex.Expression.ofSource (wholeExpression token.text negated token.caseSensitive) =
          .ok expression

/-- The expressions of a token and of the flipped one have the same body. -/
theorem exists_expressions
    {token : Token}
    (isReadAlone : token.IsReadAlone) :
    ∃ body wanted refused,
      Regex.Expression.ofSource
            (wholeExpression token.expressionBody false token.caseSensitive) = .ok wanted ∧
        wanted.tree = .whole body ∧
          Regex.Expression.ofSource
                (wholeExpression token.expressionBody true token.caseSensitive) = .ok refused ∧
            refused.tree = .notWhole body := by
  unfold expressionBody
  by_cases isExpression : token.isExpression = true
  · obtain ⟨⟨own, isOwn⟩, negated, expression, read⟩ := isReadAlone isExpression
    rw [if_pos isExpression]
    exact Regex.Expression.exists_whole_notWhole isOwn read
  · rw [if_neg isExpression]
    obtain ⟨wanted, isWanted, wantedTree⟩ :=
      ofSource_wholeExpression_escape token.text token.caseSensitive
    obtain ⟨refused, isRefused, refusedTree⟩ :=
      Regex.Expression.ofSource_negated_literal token.text (!token.caseSensitive)
    refine ⟨_, wanted, refused, isWanted, wantedTree, ?_, refusedTree⟩
    rw [← isRefused, wholeExpression]
    cases token.caseSensitive <;> simp [String.append_assoc]

/-- One of two texts is searched in a word. -/
theorem holds_search_eq_not
    {wanted refused : Regex.Expression}
    {body : Regex.Tree}
    (wantedTree : wanted.tree = .whole body)
    (refusedTree : refused.tree = .notWhole body)
    (aspect : Aspect)
    (word : Word) :
    (ReadyTest.search aspect wanted).holds word =
      !(ReadyTest.search aspect refused).holds word := by
  cases aspect with
  | surface =>
      exact Regex.Expression.isFoundIn_eq_not wantedTree refusedTree word.text
  | baseForm =>
      exact Regex.Expression.isFoundIn_eq_not wantedTree refusedTree word.baseForm

/--
The tests of a token with a text and of the flipped token can be prepared, and a word passes one of
them exactly if it does not pass the other one.
-/
theorem holds_eq_not_flipped
    (token : Token)
    (notReference : token.isReference = false)
    (hasText : token.text ≠ "")
    (isReadAlone : token.IsReadAlone) :
    ∃ test flippedTest,
      token.spec.test.prepare = .ok test ∧
        (token.flipped hasText).spec.test.prepare = .ok flippedTest ∧
          ∀ word, test.holds word = !flippedTest.holds word := by
  have testOf : token.spec.test = token.textTest := by
    simp [spec, wordTest, hasText, notReference]
  have flippedTestOf : (token.flipped hasText).spec.test = (token.flipped hasText).textTest := by
    have flippedNotReference : (token.flipped hasText).isReference = false := notReference
    have flippedHasText : (token.flipped hasText).text ≠ "" := hasText
    simp [spec, wordTest, flippedHasText, flippedNotReference]
  rw [testOf, flippedTestOf, textTest_eq, flipped_textTest_eq]
  split
  · refine ⟨_, _, rfl, rfl, fun word => ?_⟩
    cases token.negated <;> simp [ReadyTest.holds]
  · obtain ⟨body, wanted, refused, isWanted, wantedTree, isRefused, refusedTree⟩ :=
      exists_expressions isReadAlone
    have complementary := holds_search_eq_not wantedTree refusedTree token.aspect
    cases token.negated with
    | false =>
        refine ⟨.search token.aspect wanted, .search token.aspect refused, ?_, ?_, complementary⟩
        · simp only [WordTest.prepare, isWanted]
        · simp only [WordTest.prepare, Bool.not_false, isRefused]
    | true =>
        refine ⟨.search token.aspect refused, .search token.aspect wanted, ?_, ?_, fun word => ?_⟩
        · simp only [WordTest.prepare, isRefused]
        · simp only [WordTest.prepare, Bool.not_true, isWanted]
        · rw [complementary word, Bool.not_not]

/-- The token that accepts words of one letter, an a or a b. -/
def eitherLetter : Token :=
  { literal "a|b" false false with isExpression := true }

theorem eitherLetter_isReadAlone :
    eitherLetter.IsReadAlone := by
  have own :
      Regex.Expression.ofSource "a|b" =
        .ok ⟨"a|b", { allScripts := true }, 0,
          .choice (.character {} (.single 97 false)) (.character {} (.single 98 false))⟩ := by
    decide +kernel
  have wrapped :
      Regex.Expression.ofSource (wholeExpression "a|b" false false) =
        .ok ⟨wholeExpression "a|b" false false, { ignoreCase := true, allScripts := true }, 0,
          .whole
            (.choice (.character ⟨true, false⟩ (.single 97 false))
              (.character ⟨true, false⟩ (.single 98 false)))⟩ := by
    decide +kernel
  exact fun _ => ⟨⟨_, own⟩, false, _, wrapped⟩

/-- A word is an a or a b exactly if the flipped token does not accept it. -/
theorem holds_eq_not_flipped_eitherLetter :
    ∃ test flippedTest,
      eitherLetter.spec.test.prepare = .ok test ∧
        (eitherLetter.flipped (by decide)).spec.test.prepare = .ok flippedTest ∧
          ∀ word, test.holds word = !flippedTest.holds word :=
  holds_eq_not_flipped eitherLetter rfl (by decide) eitherLetter_isReadAlone

end Token

end ProseRules
