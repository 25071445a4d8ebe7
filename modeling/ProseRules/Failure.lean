import ProseRules.Regex.Defect
import ProseRules.Value.Basic

namespace ProseRules

/-!
# Failures

A step that cannot be done fails with a cause. The causes of a definition that
cannot be used are told apart from those of a value of the wrong kind, of a
failure while a sentence is matched, and of a failure outside of the rules.
-/

/-- Why a value of the right kind is refused. -/
inductive ValueFlaw where
  | integer (flaw : Text.IntegerFlaw)
  | integerBytes (content : List UInt8)
  /-- A number without a value has no whole part. -/
  | undefinedNumber
  | missingText (field : String)
  | negativeLeast (least : Int)
  | mostBelowLeast (most least : Int)
  | negationOfNothing
  | clashingAlphabets
  /-- An element that should be a pair has another length. -/
  | notAPair (index length : Nat)
  | calendar (flaw : CalendarFlaw)
  | based (base : Nat) (text : String)
  | realText (text : String)
  /-- A number is no code point. -/
  | codePoint
  deriving Repr, DecidableEq

namespace ValueFlaw

/-- Words that name whole numbers, or those for a number with too many digits among them. -/
def naming (numbers : List Int) (words : String) : String :=
  if numbers.all (·.natAbs < Text.digitBound) then words
  else Text.IntegerFlaw.message .tooLongToWrite

/-- The words for a flaw. -/
def message : ValueFlaw → String
  | integer flaw => flaw.message
  | integerBytes content =>
      "invalid literal for int() with base 10: "
        ++ String.ofList ((Text.quotedBytes content).toList.take 200)
  | undefinedNumber => "cannot convert float NaN to integer"
  | missingText field => field ++ " must not be None"
  | negativeLeast least =>
      naming [least] ("min_occurrence must be >= 0, got " ++ toString least)
  | mostBelowLeast most least =>
      naming [most, least]
        ("max_occurrence " ++ toString most ++ " is smaller than min_occurrence "
          ++ toString least)
  | negationOfNothing => "a negated token needs a string or a reference"
  | clashingAlphabets => "ASCII and UNICODE flags are incompatible"
  | notAPair index length =>
      "dictionary update sequence element #" ++ toString index ++ " has length "
        ++ toString length ++ "; 2 is required"
  | calendar flaw => flaw.message
  | based base text =>
      "invalid literal for int() with base " ++ toString base ++ ": "
        ++ String.ofList ((Text.quoted text).toList.take 200)
  | realText text => "could not convert string to float: " ++ Text.quoted text
  | codePoint => "chr() arg not in range(0x110000)"

end ValueFlaw

/-- Why a rule definition is unusable. -/
inductive DefinitionFlaw where
  | noPattern (id : String)
  | tokensAndExpression (id : String)
  | badReference (token reference : Int)
  | badExpression (id source : String) (defect : Regex.Defect) (place : Option Nat)
  | noSuchMark (mark : Int) (source : String)
  | malformedMarkup (source : String)
  | topLevel (source : String)
  | phrases (source : String)
  | noId (source : String)
  | unknownRuleKeys (source id : String) (keys : List Value)
  | noMessage (source id : String)
  | patternAndExpression (source id : String)
  | unknownPhrase (source id name : String)
  | badToken (source id : String) (token : Value)
  | unknownTokenKeys (source id : String) (keys : List Value)
  | badTokenReference (source id : String) (reference : Value)
  | tokenFlaw (source id : String) (flaw : ValueFlaw)

namespace DefinitionFlaw

/-- The words for a flaw. -/
def message : DefinitionFlaw → String
  | noPattern id => "Neither pattern tokens nor regex set for rule " ++ id
  | tokensAndExpression id => "Rule " ++ id ++ " sets both pattern tokens and a regex"
  | badReference token reference =>
      "Token " ++ toString token ++ " refers to token " ++ toString reference
        ++ ", which does not precede it"
  | badExpression id source defect place =>
      "Rule " ++ id ++ " has an invalid regex: " ++ Regex.describe source.toList defect place
  | noSuchMark mark source =>
      "Regex mark group " ++ toString mark ++ " does not exist in /" ++ source ++ "/"
  | malformedMarkup source => "Malformed YAML in " ++ source
  | topLevel source => source ++ ": top level must be a mapping"
  | phrases source => source ++ ": 'phrases' must be a mapping"
  | noId source => source ++ ": every rule needs an 'id'"
  | unknownRuleKeys source id keys =>
      source ++ ": rule " ++ id ++ " has unknown keys " ++ (Value.list keys).literal
  | noMessage source id => source ++ ": rule " ++ id ++ " has no message"
  | patternAndExpression source id =>
      source ++ ": rule " ++ id ++ " sets both 'pattern' and 'regex'"
  | unknownPhrase source id name =>
      source ++ ": rule " ++ id ++ " refers to unknown phrase '" ++ name ++ "'"
  | badToken source id token =>
      source ++ ": rule " ++ id ++ " has an invalid token " ++ token.literal
  | unknownTokenKeys source id keys =>
      source ++ ": rule " ++ id ++ " token has unknown keys " ++ (Value.list keys).literal
  | badTokenReference source id reference =>
      source ++ ": rule " ++ id ++ " has invalid reference " ++ reference.display
  | tokenFlaw source id flaw => source ++ ": rule " ++ id ++ ": " ++ flaw.message

end DefinitionFlaw

/-- Why a step cannot be done. -/
inductive Failure where
  /-- A rule definition is unusable. -/
  | definition (flaw : DefinitionFlaw)
  /-- Reading or writing failed while a sentence was matched. -/
  | sentenceUnreadable (sentence : String)
  /-- Matching a sentence failed for another cause. -/
  | sentenceUnmatched (sentence : String) (cause : Failure)
  /-- A value of the right kind is refused. -/
  | badValue (flaw : ValueFlaw)
  /-- A value has the wrong kind for a step. -/
  | wrongKind
  /-- A value of its kind has no such member. -/
  | noMember
  | noKey
  | outOfRange
  | tooLarge
  /-- A regular expression is malformed. -/
  | badExpression (defect : Regex.Defect)
  | fileNotFound
  | isDirectory
  /-- A text would hold a surrogate, which is no character. -/
  | surrogate
  /-- A failure with a name of its own, one of reading and writing or not. -/
  | outside (name : String) (isInputOutput : Bool)

namespace Failure

/-- The failure is one of reading or writing. -/
def isInputOutput : Failure → Bool
  | sentenceUnreadable _ | fileNotFound | isDirectory => true
  | outside _ isInputOutput => isInputOutput
  | _ => false

/-- What is said about a sentence that could not be matched. -/
def sentenceMessage (sentence : String) : String :=
  "Error analyzing sentence: '" ++ sentence ++ "'"

/-- The words of a failure, if it has any. -/
def message? : Failure → Option String
  | definition flaw => some flaw.message
  | sentenceUnreadable sentence | sentenceUnmatched sentence _ => some (sentenceMessage sentence)
  | badValue flaw => some flaw.message
  | _ => none

/-- A whole number has too many digits to be written into a text. -/
def tooLongToWrite : Failure :=
  badValue (.integer .tooLongToWrite)

/-- The refusal of a definition in words that name some values, if they can be written. -/
def refusing (named : List Value) (flaw : DefinitionFlaw) : Failure :=
  if Value.canAllBeShown named then definition flaw else tooLongToWrite

theorem refusing_of_forall
    {named : List Value}
    (canBeShown : ∀ value ∈ named, value.canBeShown = true)
    (flaw : DefinitionFlaw) :
    refusing named flaw = definition flaw :=
  if_pos (Value.canAllBeShown_iff.mpr canBeShown)

theorem refusing_of_exists
    {named : List Value}
    (notShown : ∃ value ∈ named, value.canBeShown = false)
    (flaw : DefinitionFlaw) :
    refusing named flaw = tooLongToWrite := by
  obtain ⟨value, member, isLong⟩ := notShown
  refine if_neg fun allShown => ?_
  rw [Value.canAllBeShown_iff.mp allShown value member] at isLong
  cases isLong

/-- The failure for a refused expression outside of a rule definition. -/
def ofRefusal : Regex.Refusal → Failure
  | .malformed defect _ => badExpression defect
  | .boundTooLarge => tooLarge
  | .boundTooLong digits => badValue (.integer (.tooManyDigits digits))
  | .clashingAlphabets => badValue .clashingAlphabets

end Failure

namespace Value

/-- The value as a text for reading, refused if a number in it cannot be written. -/
def shown (value : Value) : Except Failure String :=
  if value.canBeShown then .ok value.display else .error .tooLongToWrite

@[simp] theorem shown_text
    (s : String) :
    shown (text s) = .ok s :=
  rfl

theorem shown_eq_ok_iff
    {value : Value}
    {s : String} :
    value.shown = .ok s ↔ value.canBeShown = true ∧ value.display = s := by
  cases isShort : value.canBeShown <;> simp [shown, isShort]

end Value

end ProseRules
