import ProseRules.Message
import ProseRules.Regex.Search
import ProseRules.Rule.Immunization
import ProseRules.Rule.Match
import ProseRules.Rule.Overlap

namespace ProseRules

/-!
# Matching a rule with a sentence

A token pattern takes ranges of words; those whose back references do not hold or
whose flagged words are immunized are dropped before overlaps are resolved. A
regular expression is matched with the text of the sentence, and the flagged
characters are traced back to words.
-/

/-- The element of a list at a place, counted from the end if the place is negative. -/
def elementAt? (elements : List Nat) (place : Int) : Option Nat :=
  if 0 ≤ place then
    elements[place.toNat]?
  else if place.natAbs ≤ elements.length then
    elements[elements.length - place.natAbs]?
  else
    none

/-- How the tokens of a pattern are counted: one by one, or by units with these offsets. -/
structure UnitScale where
  tokens : Nat
  offsets : Option (List Nat)
  deriving Repr, DecidableEq

namespace UnitScale

/-- The scale of a rule. -/
def ofRule (rule : Rule) : UnitScale where
  tokens := rule.tokens.length
  offsets := if rule.usesGrouping then some (unitOffsets rule.unitSizes) else none

/-- The number of units. -/
def count (scale : UnitScale) : Nat :=
  match scale.offsets with
  | none => scale.tokens
  | some offsets => offsets.length - 1

/-- The tokens of a unit, from the first one up to the one after the last. -/
def bounds (scale : UnitScale) (unit : Int) : Except Failure (Int × Int) :=
  match scale.offsets with
  | none => .ok (unit, unit + 1)
  | some offsets =>
      match elementAt? offsets unit, elementAt? offsets (unit + 1) with
      | some first, some last => .ok (first, last)
      | _, _ => .error .outOfRange

/-- The words of a candidate that are flagged after the given numbers of units are dropped. -/
def marked (scale : UnitScale) (startCorrection endCorrection : Int) (candidate : Candidate) :
    Except Failure (Nat × Nat) := do
  let whole := (candidate.start, candidate.stop)
  let firstUnit := startCorrection
  let lastUnit := scale.count - endCorrection
  if firstUnit ≥ lastUnit then
    return whole
  let (first, _) ← scale.bounds firstUnit
  let (_, last) ← scale.bounds (lastUnit - 1)
  let positions := candidate.positionsBetween scale.tokens first last
  match positions.min?, positions.max? with
  | some least, some greatest => return (least, greatest + 1)
  | _, _ => return whole

end UnitScale

/-- The texts of words with blanks between them. -/
def textOfWords (words : List Word) (positions : List Nat) : String :=
  String.intercalate " " (positions.filterMap fun position => (words[position]?).map (·.text))

/-- The text of a unit of a candidate; a unit that does not exist has none. -/
def UnitScale.unitText (scale : UnitScale) (words : List Word) (candidate : Candidate)
    (unit : Int) : String :=
  if unit < 0 ∨ unit ≥ scale.count then
    ""
  else
    match scale.bounds unit with
    | .ok (first, last) => textOfWords words (candidate.positionsBetween scale.tokens first last)
    | .error _ => ""

/-- The text of the words given to a token, in small letters unless case counts. -/
def tokenText (words : List Word) (candidate : Candidate) (caseSensitive : Bool) (token : Int) :
    String :=
  let positions := if token < 0 then [] else candidate.positionsOf token.toNat
  let text := textOfWords words positions
  if caseSensitive then text else Text.lower text

/-- A back reference holds: its words repeat those of its target, or differ if it is negated. -/
def referenceHolds (words : List Word) (candidate : Candidate) (token : Token) (index : Nat) :
    Bool :=
  match token.reference with
  | none => true
  | some reference =>
      if (candidate.positionsOf index).isEmpty then
        true
      else
        let own := tokenText words candidate token.caseSensitive index
        let target := tokenText words candidate token.caseSensitive reference
        (own = target) != token.negated

/-- All back references hold. -/
def referencesHold (words : List Word) (tokens : List Token) (candidate : Candidate) : Bool :=
  tokens.zipIdx.all fun (token, index) => referenceHolds words candidate token index

namespace Rule

/-- The match of a rule with its messages expanded. -/
def buildMatch (rule : Rule) (sentence : Sentence) (span wordSpan : Int × Int)
    (reference : Nat → String) : Except Failure RuleMatch := do
  let message ← expandTemplate reference rule.message
  let shortMessage ← expandTemplate reference rule.shortMessage
  let extra ←
    if rule.extraSuggestions.isTruthy then expandTemplate reference rule.extraSuggestions
    else .ok ""
  return {
    ruleId := rule.id
    subId := rule.subId
    message := displayOf message
    shortMessage := displayOf shortMessage
    suggestions := appendNew (suggestionsOf message) (suggestionsOf extra)
    sentence := sentence.text
    sentenceIndex := sentence.index
    span := span
    wordSpan := wordSpan }

/-- Drop the candidates whose flagged words are immunized; the id of the rule is written then. -/
def withoutImmunized (rule : Rule) (scale : UnitScale) (sentence : Sentence) :
    List Candidate → Except Failure (List Candidate)
  | [] => .ok []
  | candidate :: rest => do
      let (first, last) ← scale.marked rule.startCorrection rule.endCorrection candidate
      if sentence.isImmunized first last then
        let _ ← rule.id.shown
        withoutImmunized rule scale sentence rest
      else
        return candidate :: (← withoutImmunized rule scale sentence rest)

/-- The match of a candidate. -/
def matchOfCandidate (rule : Rule) (scale : UnitScale) (sentence : Sentence)
    (candidate : Candidate) : Except Failure RuleMatch := do
  let (first, last) ← scale.marked rule.startCorrection rule.endCorrection candidate
  let words := sentence.words
  let lastLength := ((words[last - 1]?).map Word.length).getD 0
  let span : Int × Int := (offsetOf words first, offsetOf words (last - 1) + lastLength)
  rule.buildMatch sentence span (first, last) fun number =>
    scale.unitText words candidate (Int.ofNat number - 1)

/-- The candidates of a token pattern whose references hold. -/
def acceptedCandidates (tokens : List Token) (words : List Word) :
    Except Failure (List Candidate) := do
  let steps ← Step.ofTokens tokens
  return (candidates [steps] words).filter (referencesHold words tokens)

/-- The matches of a token pattern; an empty pattern has none. -/
def matchTokens (rule : Rule) (tokens : List Token) (sentence : Sentence) :
    Except Failure (List RuleMatch) := do
  if tokens.isEmpty then
    return []
  let scale := UnitScale.ofRule rule
  let accepted ← acceptedCandidates tokens sentence.words
  let allowed ← rule.withoutImmunized scale sentence accepted
  (Candidate.longestFirst allowed).mapM (rule.matchOfCandidate scale sentence)

/-- The text of a group of an occurrence; a group that does not exist or take part has none. -/
def groupText (text : List Char) (occurrence : Regex.Occurrence) (group : Nat) : String :=
  match occurrence.span? group with
  | none => ""
  | some (start, stop) => String.ofList ((text.drop start).take (stop - start))

/--
The match of an occurrence, or none if nothing is flagged or a flagged word is immunized; the
id of the rule is written then.
-/
def matchOfOccurrence (rule : Rule) (mark : Nat) (sentence : Sentence) (text : List Char)
    (occurrence : Regex.Occurrence) : Except Failure (Option RuleMatch) :=
  match occurrence.span? mark with
  | none => .ok none
  | some (start, stop) =>
      if start = stop then
        .ok none
      else
        let (first, last) := wordSpan sentence.words start stop
        if sentence.isImmunized first last then
          rule.id.shown.map fun _ => none
        else
          (rule.buildMatch sentence (start, stop) (first, last) (groupText text occurrence)).map
            some

/-- The matches of a regular expression. -/
def matchExpression (rule : Rule) (expression : Regex.Expression) (mark : Nat)
    (sentence : Sentence) : Except Failure (List RuleMatch) := do
  let text := sentence.text.toList
  let found ← (expression.occurrences text).mapM (rule.matchOfOccurrence mark sentence text)
  return found.filterMap fun entry => entry

/-- The matches of the pattern of a rule in a sentence that was immunized. -/
def matchPattern (rule : Rule) (sentence : Sentence) : Except Failure (List RuleMatch) :=
  match rule.pattern with
  | .absent => .ok []
  | .tokens tokens _ => rule.matchTokens tokens sentence
  | .expression expression mark _ => rule.matchExpression expression mark sentence

/--
The matches of a rule in a sentence. A rule without a pattern is refused; any other
failure is reported with the text of the sentence.
-/
def matchesIn (rule : Rule) (sentence : Sentence) : Except Failure (List RuleMatch) :=
  if rule.hasPattern then
    match rule.immunizer sentence >>= rule.matchPattern with
    | .ok found => .ok found
    | .error failure =>
        .error
          (if failure.isInputOutput then .sentenceUnreadable sentence.text
          else .sentenceUnmatched sentence.text failure)
  else do
    let _ ← rule.fullId
    throw (.definition (.noPattern rule.id.display))

end Rule

end ProseRules
