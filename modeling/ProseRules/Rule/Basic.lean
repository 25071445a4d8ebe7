import ProseRules.Regex.Expression
import ProseRules.Sentence.Document
import ProseRules.Token.Grouping
import ProseRules.Token.Requirement
import ProseRules.Token.Spec

namespace ProseRules

/-!
# Rules

A rule describes an issue of a text by a row of pattern tokens or by a regular
expression, with the messages that are shown where it matches. Anti-patterns are
rows of tokens that describe correct usage: their words belong to no match.
-/

/-- Every reference of a pattern goes to an earlier token. -/
def referencesPrecede (tokens : List Token) : Prop :=
  ∀ entry ∈ tokens.zipIdx, ∀ reference, entry.1.reference = some reference →
    0 ≤ reference ∧ reference < entry.2

/-- What a rule looks for. -/
inductive RulePattern where
  | absent
  | tokens (tokens : List Token) (references_precede : referencesPrecede tokens)
  /-- An expression and the number of the group that is flagged. -/
  | expression (expression : Regex.Expression) (mark : Nat)
      (mark_exists : mark ≤ expression.groups)

/-- A step before matching that says which words no match may touch. -/
abbrev Immunizer : Type :=
  Sentence → Except Failure Sentence

/-- A rule. Texts that a definition left in another kind of value are kept as they are. -/
structure Rule where
  id : Value
  subId : Value
  language : Value
  description : Value
  message : Value
  shortMessage : Value
  /-- A message whose suggestions are added to those of a match. -/
  extraSuggestions : Value
  pattern : RulePattern
  /-- The anti-patterns without empty ones. -/
  antipatterns : List (List Token)
  /-- The units dropped from the start of what is flagged. -/
  startCorrection : Int
  /-- The units dropped from the end of what is flagged. -/
  endCorrection : Int
  /-- The rule is one of several alternatives and need not match. -/
  isAlternative : Bool
  /-- A step before matching in place of the anti-patterns. -/
  ownImmunizer : Option Immunizer

/-- A regular expression as it is given for a rule. -/
inductive GivenExpression where
  | source (source : Value)
  | compiled (expression : Regex.Expression)

/-- The parts of a rule before they are checked. -/
structure RuleParts where
  id : Value := .text "R"
  subId : Value := .null
  language : Value := .text "en"
  description : Value := .text "d"
  message : Value := .text "m"
  shortMessage : Value := .text ""
  extraSuggestions : Value := .text ""
  tokens : Option (List Token) := none
  expression : Option GivenExpression := none
  mark : Int := 0
  antipatterns : List (List Token) := []
  startCorrection : Int := 0
  endCorrection : Int := 0
  isAlternative : Bool := false
  ownImmunizer : Option Immunizer := none

namespace Rule

/-- Refuse a field that is null. -/
def requireField (name : String) : Value → Except Failure Unit
  | .null => .error (.badValue (.missingText name))
  | _ => .ok ()

/-- The first token whose reference does not go to an earlier one. -/
def badReference? (tokens : List Token) : Option (Nat × Int) :=
  tokens.zipIdx.findSome? fun (token, index) =>
    match token.reference with
    | none => none
    | some reference =>
        if 0 ≤ reference ∧ reference < index then none else some (index, reference)

/-- A pattern without a bad reference has all references in order. -/
theorem referencesPrecede_of_badReference?_eq_none
    {tokens : List Token}
    (accepted : badReference? tokens = none) :
    referencesPrecede tokens := by
  intro entry entryMem reference isReference
  have entryAccepted := List.findSome?_eq_none_iff.mp accepted entry entryMem
  simp only [isReference] at entryAccepted
  split at entryAccepted
  · assumption
  · simp at entryAccepted

/-- Refuse tokens whose bounds have too many digits to be written. -/
def requireSigns (tokens : List Token) : Except Failure Unit :=
  if tokens.all (·.operator.canBeWritten) then .ok () else .error .tooLongToWrite

/--
A pattern of tokens, refused if a reference does not go to an earlier token or the bounds
of a token cannot be written.
-/
def tokenPattern (tokens : List Token) : Except Failure RulePattern :=
  match check : badReference? tokens with
  | some (index, reference) =>
      .error (.refusing [.int index, .int reference] (.badReference index reference))
  | none => do
      requireSigns tokens
      return .tokens tokens (referencesPrecede_of_badReference?_eq_none check)

/-- The expression given for a rule with an id, read if need be. -/
def readExpression (id : Value) : GivenExpression → Except Failure Regex.Expression
  | .compiled expression => .ok expression
  | .source (.text source) =>
      match Regex.Expression.ofSource source with
      | .ok expression => .ok expression
      | .error (.malformed defect place) =>
          .error (.refusing [id] (.badExpression id.display source defect place))
      | .error refusal => .error (.ofRefusal refusal)
  | .source _ => .error .wrongKind

/-- A pattern of an expression, refused if the flagged group does not exist. -/
def expressionPattern (expression : Regex.Expression) (mark : Int) : Except Failure RulePattern :=
  if inRange : 0 ≤ mark ∧ mark.toNat ≤ expression.groups then
    .ok (.expression expression mark.toNat inRange.2)
  else
    .error (.refusing [.int mark] (.noSuchMark mark expression.source))

/-- The rule with the given parts. Texts are checked first, then the pattern, then the rest. -/
def ofParts (parts : RuleParts) : Except Failure Rule := do
  requireField "message" parts.message
  requireField "short_message" parts.shortMessage
  requireField "suggestions_out_msg" parts.extraSuggestions
  let pattern ←
    match parts.tokens, parts.expression with
    | some _, some _ => .error (.refusing [parts.id] (.tokensAndExpression parts.id.display))
    | some tokens, none => tokenPattern tokens
    | none, some given => do
        let expression ← readExpression parts.id given
        expressionPattern expression parts.mark
    | none, none => .ok .absent
  requireSigns parts.antipatterns.flatten
  return {
    id := parts.id
    subId := parts.subId
    language := parts.language
    description := parts.description
    message := parts.message
    shortMessage := parts.shortMessage
    extraSuggestions := parts.extraSuggestions
    pattern := pattern
    antipatterns := parts.antipatterns.filter (!·.isEmpty)
    startCorrection := parts.startCorrection
    endCorrection := parts.endCorrection
    isAlternative := parts.isAlternative
    ownImmunizer := parts.ownImmunizer }

/-- The tokens of a rule; a rule without a token pattern has none. -/
def tokens (rule : Rule) : List Token :=
  match rule.pattern with
  | .tokens tokens _ => tokens
  | _ => []

/-- The expression of a rule and the group that is flagged. -/
def expression? (rule : Rule) : Option (Regex.Expression × Nat) :=
  match rule.pattern with
  | .expression expression mark _ => some (expression, mark)
  | _ => none

/-- The rule has something to look for. -/
def hasPattern (rule : Rule) : Bool :=
  match rule.pattern with
  | .absent => false
  | _ => true

/-- The sizes of the logical units of a rule. -/
def unitSizes (rule : Rule) : List Nat :=
  Token.unitSizes rule.tokens

/-- Some token of the rule belongs to a phrase. -/
def usesGrouping (rule : Rule) : Bool :=
  Token.usesGrouping rule.tokens

/-- The words that a sentence needs for the rule to match. -/
def requirement (rule : Rule) : Requirement :=
  Requirement.ofTokens rule.tokens

/-- The rule cannot match a sentence because a required word is missing. -/
def canBeIgnoredFor (rule : Rule) (sentence : Sentence) : Bool :=
  rule.requirement.isUnmetBy sentence.vocabulary

/-- The rule no longer counts as one of several alternatives. -/
def clearAlternative (rule : Rule) : Rule :=
  { rule with isAlternative := false }

/-- The tokens of a rule as a text. -/
def patternString (rule : Rule) : String :=
  String.intercalate ", " (rule.tokens.map Token.display)

/-- The id of a rule as a text, with the number of a member of a group. -/
def fullId (rule : Rule) : Except Failure String :=
  if rule.subId.isTruthy then do
    let id ← rule.id.shown
    let subId ← rule.subId.shown
    return id ++ "[" ++ subId ++ "]"
  else
    match rule.id with
    | .text id => .ok id
    | _ => .error .wrongKind

/-- A rule in short: its id and its language. -/
def display (rule : Rule) : Except Failure String := do
  let id ← rule.fullId
  let _ ← rule.language.shown
  return "PatternRule(" ++ id ++ ", " ++ rule.language.literal ++ ")"

end Rule

end ProseRules
