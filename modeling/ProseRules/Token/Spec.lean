import ProseRules.Regex.Escape
import ProseRules.Regex.Search
import ProseRules.Sentence.Document
import ProseRules.Token.Basic

namespace ProseRules

/-!
# Token specifications

A token is compiled in two steps. Its specification says what is tested of each
word and how many words are taken; the regular expression of a specification is
read when the specification is prepared for matching.
-/

/-- What is looked at of a word. -/
inductive Aspect where
  | surface
  | baseForm
  deriving Repr, DecidableEq

/-- What is tested of a word. -/
inductive WordTest where
  /-- Any word passes. -/
  | any
  /-- The small form of the surface is the given one, or is another one. -/
  | smallForm (form : String) (negated : Bool)
  /-- The expression occurs in the aspect. -/
  | search (aspect : Aspect) (source : String)
  deriving Repr, DecidableEq

/-- How many consecutive words are taken. -/
inductive Operator where
  | once
  | optional
  | anyNumber
  | atLeastOnce
  | atLeast (least : Nat)
  | exactly (count : Nat)
  | between (least most : Nat)
  deriving Repr, DecidableEq

namespace Operator

/-- The sign of an operator; taking one word has none. -/
def sign? : Operator → Option String
  | once => none
  | optional => some "?"
  | anyNumber => some "*"
  | atLeastOnce => some "+"
  | atLeast least => some ("\x7b" ++ toString least ++ ",\x7d")
  | exactly count => some ("\x7b" ++ toString count ++ "\x7d")
  | between least most => some ("\x7b" ++ toString least ++ "," ++ toString most ++ "\x7d")

/-- The numbers in the sign of an operator have few enough digits to be written. -/
def canBeWritten : Operator → Bool
  | once | optional | anyNumber | atLeastOnce => true
  | atLeast least => least < Text.digitBound
  | exactly count => count < Text.digitBound
  | between least most => least < Text.digitBound && most < Text.digitBound

/-- The operator allows a run of so many words. -/
def Admits : Operator → Nat → Prop
  | once, count => count = 1
  | optional, count => count ≤ 1
  | anyNumber, _ => True
  | atLeastOnce, count => 1 ≤ count
  | atLeast least, count => least ≤ count
  | exactly wanted, count => count = wanted
  | between least most, count => least ≤ count ∧ count ≤ most

end Operator

/-- What a token asks of a run of words. -/
structure Spec where
  test : WordTest
  operator : Operator
  deriving Repr, DecidableEq

namespace Token

/-- The operator for the bounds of a token. -/
def operator (token : Token) : Operator :=
  match token.least, token.most with
  | 1, some 1 => .once
  | 0, some 1 => .optional
  | 0, none => .anyNumber
  | 1, none => .atLeastOnce
  | least, none => .atLeast least
  | least, some most => if least = most then .exactly least else .between least most

/-- The expression that the whole aspect of a word has to match, or must not match. -/
def wholeExpression (body : String) (negated caseSensitive : Bool) : String :=
  let flags := if caseSensitive then "" else "(?i)"
  if negated then flags ++ "^(?!(?:" ++ body ++ ")$)" else flags ++ "^(?:" ++ body ++ ")$"

/-- What is tested of a word for the text of a token. -/
def textTest (token : Token) : WordTest :=
  let aspect := if token.inflected then Aspect.baseForm else .surface
  if token.isExpression then
    .search aspect (wholeExpression token.text token.negated token.caseSensitive)
  else if !token.inflected && !token.caseSensitive then
    .smallForm (Text.lower token.text) token.negated
  else
    .search aspect
      (wholeExpression (Regex.escape token.text) token.negated token.caseSensitive)

/-- What is tested of a word; a reference is checked after matching only. -/
def wordTest (token : Token) : WordTest :=
  if token.text ≠ "" && !token.isReference then token.textTest else .any

/-- The specification of a token. -/
def spec (token : Token) : Spec :=
  ⟨token.wordTest, token.operator⟩

end Token

/-- A test of words that is ready to run. -/
inductive ReadyTest where
  | any
  | smallForm (form : String) (negated : Bool)
  | search (aspect : Aspect) (expression : Regex.Expression)
  deriving Repr, DecidableEq

namespace WordTest

/-- Read the expression of a test. -/
def prepare : WordTest → Except Failure ReadyTest
  | any => .ok .any
  | smallForm form negated => .ok (.smallForm form negated)
  | search aspect source =>
      match Regex.Expression.ofSource source with
      | .ok expression => .ok (.search aspect expression)
      | .error refusal => .error (.ofRefusal refusal)

end WordTest

namespace ReadyTest

/-- A word passes the test. -/
def holds (word : Word) : ReadyTest → Bool
  | any => true
  | smallForm form negated => (Text.lower word.text = form) != negated
  | search .surface expression => expression.isFoundIn word.text
  | search .baseForm expression => expression.isFoundIn word.baseForm

end ReadyTest

end ProseRules
