import ProseRules.Value.Basic

namespace ProseRules

/-!
# Matches

A match is one issue that a rule reports for one sentence.
-/

/-- An end of a slice, counted from the end of the text if negative, within the text. -/
def sliceEnd (length : Nat) (place : Int) : Nat :=
  if place < 0 then (length + place).toNat else min place.toNat length

/-- The characters from one place up to another; places may lie outside of the text. -/
def slice (characters : List Char) (start stop : Int) : List Char :=
  let first := sliceEnd characters.length start
  let last := sliceEnd characters.length stop
  (characters.drop first).take (last - first)

/-- An issue that a rule reports. -/
structure RuleMatch where
  ruleId : Value
  subId : Value
  message : String
  shortMessage : String
  suggestions : List String
  /-- The text of the sentence. -/
  sentence : String
  sentenceIndex : Int
  /-- The characters of the sentence that are flagged. -/
  span : Int × Int
  /-- The words of the sentence that are flagged. -/
  wordSpan : Int × Int
  deriving Repr

namespace RuleMatch

/-- The flagged part of the sentence. -/
def flaggedText (found : RuleMatch) : String :=
  String.ofList (slice found.sentence.toList found.span.1 found.span.2)

end RuleMatch

end ProseRules
