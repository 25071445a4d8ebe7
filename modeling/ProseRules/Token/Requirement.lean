import ProseRules.Sentence.Document
import ProseRules.Token.Basic

namespace ProseRules

/-!
# Required words

A literal that a pattern cannot do without has to occur in a sentence that the
pattern matches. The required words are compared in small letters with the words
of the sentence, so a rule can be skipped without trying to match it.
-/

/-- The required words of a pattern in small letters, each once. -/
structure Requirement where
  surfaces : List String
  lemmas : List String
  deriving Repr, DecidableEq

namespace Token

/-- Every match holds a word for this token that equals its text up to case. -/
def isMandatoryLiteral (token : Token) : Bool :=
  !token.negated && !token.isExpression && !token.isReference && 0 < token.least
    && token.text ≠ ""

end Token

namespace Requirement

/-- The required words of one kind. -/
def wordsOf (tokens : List Token) (inflected : Bool) : List String :=
  ((tokens.filter fun token => token.inflected == inflected && token.isMandatoryLiteral).map
    fun token => Text.lower token.text).eraseDups

/-- The required words of a pattern. -/
def ofTokens (tokens : List Token) : Requirement :=
  ⟨wordsOf tokens false, wordsOf tokens true⟩

/-- Every word is one of the others. -/
def isSubset (words others : List String) : Bool :=
  words.all others.contains

/-- A required word is missing, so the pattern cannot match. -/
def isUnmetBy (requirement : Requirement) (vocabulary : Vocabulary) : Bool :=
  !isSubset requirement.surfaces vocabulary.surfaces
    || !isSubset requirement.lemmas vocabulary.lemmas

end Requirement

end ProseRules
