import ProseRules.Failure

namespace ProseRules

/-!
# Pattern tokens

A pattern token is one constraint of a pattern: a literal word, a lemma or a
regular expression, possibly negated, with bounds on the number of consecutive
words it takes. A token may belong to a phrase, and it may refer back to the text
of an earlier token.
-/

/-- The parts of a pattern token before they are checked. -/
structure TokenParts where
  text : String := ""
  negated : Bool := false
  isExpression : Bool := false
  inflected : Bool := false
  caseSensitive : Bool := false
  least : Int := 1
  /-- The greatest number of words; -1 stands for no bound. -/
  most : Int := 1
  phrase : Value := .text ""
  reference : Option Int := none

/-- A pattern token. -/
structure Token where
  /-- A literal word, lemma or expression; an empty one accepts any word. -/
  text : String
  negated : Bool
  isExpression : Bool
  /-- The lemma of a word is compared, not its surface. -/
  inflected : Bool
  caseSensitive : Bool
  /-- The least number of consecutive words. -/
  least : Nat
  /-- The greatest number of consecutive words, if there is one. -/
  most : Option Nat
  /-- The name of the phrase that the token belongs to; an empty name is none. -/
  phrase : Value
  /-- The place of the earlier token whose text is repeated. -/
  reference : Option Int
  bounds_ordered : ∀ most', most = some most' → max least 1 ≤ most'
  negation_has_subject : negated = true → text ≠ "" ∨ reference.isSome = true

namespace Token

/-- The token with the given parts, or the flaw of its bounds or its negation. -/
def ofParts (parts : TokenParts) : Except ValueFlaw Token :=
  if parts.least < 0 then
    .error (.negativeLeast parts.least)
  else
    let least := parts.least.toNat
    let most := if parts.most = -1 then none else some parts.most.toNat
    if ordered : ∀ most', most = some most' → max least 1 ≤ most' then
      if subject : parts.negated = true → parts.text ≠ "" ∨ parts.reference.isSome = true then
        .ok
          { text := parts.text
            negated := parts.negated
            isExpression := parts.isExpression
            inflected := parts.inflected
            caseSensitive := parts.caseSensitive
            least := least
            most := most
            phrase := parts.phrase
            reference := parts.reference
            bounds_ordered := ordered
            negation_has_subject := subject }
      else
        .error .negationOfNothing
    else
      .error (.mostBelowLeast parts.most parts.least)

/-- A token that accepts any one word and belongs to a phrase. -/
def placeholder (phrase : Value) : Token where
  text := ""
  negated := false
  isExpression := false
  inflected := false
  caseSensitive := false
  least := 1
  most := some 1
  phrase := phrase
  reference := none
  bounds_ordered := by simp
  negation_has_subject := by simp

/-- The token belongs to a phrase. -/
def isPartOfPhrase (token : Token) : Bool :=
  token.phrase.isTruthy

/-- The token repeats the text of an earlier one. -/
def isReference (token : Token) : Bool :=
  token.reference.isSome

/-- The greatest number of words as a number, -1 if there is no bound. -/
def mostAsInt (token : Token) : Int :=
  match token.most with
  | none => -1
  | some most => most

/-- The token takes exactly one word. -/
def takesOneWord (token : Token) : Bool :=
  token.least = 1 && token.most = some 1

/-- The text of a token in a pattern string. -/
def display (token : Token) : String :=
  let base :=
    match token.reference with
    | some reference => "\\" ++ toString (reference + 1)
    | none => token.text
  let inflected := if token.inflected then base ++ "/INFL" else base
  let expression := if token.isExpression then inflected ++ "/RE" else inflected
  let negated := if token.negated then "!" ++ expression else expression
  if token.takesOneWord then
    negated
  else
    let upper :=
      match token.most with
      | none => "*"
      | some most => toString most
    negated ++ "\x7b" ++ toString token.least ++ "," ++ upper ++ "\x7d"

end Token

end ProseRules
