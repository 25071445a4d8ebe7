import ProseRules.Definition.Expansion
import ProseRules.Notice
import ProseRules.Rule.Basic

namespace ProseRules

/-!
# Rule definitions

A document of definitions has a language, a table of phrases and a list of rules.
A rule may be a group: each member takes over the keys of the group, sets its own
ones, and is numbered from 1.
-/

/-- The entries of the mapping that defines a rule. -/
abbrev RuleEntries : Type :=
  List (Value × Value)

/-- Rules with the notices that arose while they were read. -/
structure Loaded where
  rules : List Rule
  notices : List Notice

namespace Loaded

/-- Nothing was defined. -/
def none : Loaded :=
  ⟨[], []⟩

/-- The rules and notices of one reading followed by those of another. -/
def append (first second : Loaded) : Loaded :=
  ⟨first.rules ++ second.rules, first.notices ++ second.notices⟩

/-- The rules and notices of several readings in order. -/
def concat (parts : List Loaded) : Loaded :=
  parts.foldr append none

end Loaded

/-- What the definitions of a document have in common. -/
structure DefinitionContext where
  source : String
  language : Value
  phrases : PhraseTable

namespace RuleEntries

/-- The keys that the definition of a rule may have. -/
def knownKeys : List String :=
  ["id", "description", "message", "short_message", "suggestions_out_msg", "pattern", "regex",
    "regex_mark", "antipatterns", "mark", "rules"]

/-- One of the two corrections of a mark. -/
def correction (name : String) (mark : Value) : Except Failure Int :=
  match mark with
  | .mapping entries => (Value.fieldOr name (.int 0) entries).toInteger
  | _ => if mark.isTruthy then .error .noMember else .ok 0

/-- The anti-patterns of a rule. -/
def antipatterns (place : DefinitionPlace) (entries : RuleEntries) :
    Except Failure (List (List Token)) := do
  let given ← (Value.fieldOr "antipatterns" .null entries).elementsIfAny
  given.mapM (antipatternOf place)

/-- The parts that all alternatives of a rule have in common. -/
def commonParts (context : DefinitionContext) (place : DefinitionPlace) (subId : Value)
    (message : Value) (entries : RuleEntries) : Except Failure RuleParts := do
  let mark := Value.fieldOr "mark" .null entries
  let antipatterns ← antipatterns place entries
  let startCorrection ← correction "from" mark
  let endCorrection ← correction "to" mark
  return {
    id := place.id
    subId := subId
    language := context.language
    description := Value.fieldOr "description" (.text "") entries
    message := message
    shortMessage := Value.fieldOr "short_message" (.text "") entries
    extraSuggestions := Value.fieldOr "suggestions_out_msg" (.text "") entries
    antipatterns := antipatterns
    startCorrection := startCorrection
    endCorrection := endCorrection }

/-- The message of a rule, which has to be present. -/
def message (place : DefinitionPlace) (entries : RuleEntries) : Except Failure Value :=
  match Value.field? "message" entries with
  | some message => .ok message
  | none => .error (place.refusal [] .noMessage)

/-- The rule of an expression. -/
def expressionRule (parts : RuleParts) (expression : Value) (entries : RuleEntries) :
    Except Failure Rule := do
  let mark ← (Value.fieldOr "regex_mark" (.int 0) entries).toInteger
  let given :=
    match expression with
    | .null => none
    | expression => some (GivenExpression.source expression)
  Rule.ofParts { parts with expression := given, mark := mark }

/-- The rules of a pattern, one for each way to choose alternatives of its phrases. -/
def patternRules (context : DefinitionContext) (place : DefinitionPlace) (parts : RuleParts)
    (pattern : Value) : Except Failure (List Rule) := do
  let alternatives ← expand context.phrases place pattern
  alternatives.mapM fun tokens =>
    Rule.ofParts
      { parts with tokens := some tokens, isAlternative := decide (1 < alternatives.length) }

/-- The rules that the entries of one definition stand for. -/
def rules (context : DefinitionContext) (id subId : Value) (entries : RuleEntries) :
    Except Failure Loaded := do
  let place : DefinitionPlace := ⟨context.source, id⟩
  place.requireKnown knownKeys .unknownRuleKeys entries
  let message ← message place entries
  let parts ← commonParts context place subId message entries
  match Value.field? "regex" entries, Value.field? "pattern" entries with
  | some _, some _ =>
      throw (place.refusal [] .patternAndExpression)
  | some expression, none => return ⟨[← expressionRule parts expression entries], []⟩
  | none, none | none, some .null => do
      let notice := Notice.nothingToMatch place.source (← place.id.shown)
      return ⟨[← Rule.ofParts parts], [notice]⟩
  | none, some pattern => return ⟨← patternRules context place parts pattern, []⟩

/-- The entries of a group that its members take over. -/
def inherited (entries : RuleEntries) : RuleEntries :=
  entries.filter fun entry => !entry.1.equals (.text "rules")

/-- The rules of one member of a group. -/
def memberRules (context : DefinitionContext) (id : Value) (group : RuleEntries) (number : Nat)
    (member : Value) : Except Failure Loaded := do
  let own ← member.toEntries
  rules context id (.text (toString number)) (Value.update group.inherited own)

/-- The rules of a definition, which may be a group. -/
def allRules (context : DefinitionContext) (definition : Value) : Except Failure Loaded :=
  match definition with
  | .mapping entries =>
      match Value.field? "id" entries with
      | none => .error (.definition (.noId context.source))
      | some id =>
          match Value.fieldOr "rules" .null entries with
          | .null => rules context id .null entries
          | group => do
              let members ← group.elements
              let loaded ← members.zipIdx.mapM fun (member, index) =>
                memberRules context id entries (index + 1) member
              return .concat loaded
  | _ => .error (.definition (.noId context.source))

end RuleEntries

namespace DefinitionContext

/-- What a document says for all of its definitions; a given language counts more. -/
def ofEntries (source : String) (language : String) (entries : List (Value × Value)) :
    Except Failure DefinitionContext := do
  let language :=
    if language = "" then Value.fieldOr "language" (.text "en") entries else .text language
  let phrases := Value.fieldOr "phrases" .null entries
  match phrases with
  | .mapping phrases => return ⟨source, language, phrases⟩
  | _ =>
      if phrases.isTruthy then
        throw (.definition (.phrases source))
      return ⟨source, language, []⟩

end DefinitionContext

/-- The rules that a document defines. An empty language is none. -/
def rulesOfEntries (source : String) (language : String) (entries : List (Value × Value)) :
    Except Failure Loaded := do
  let context ← DefinitionContext.ofEntries source language entries
  let definitions ← (Value.fieldOr "rules" .null entries).elementsIfAny
  let loaded ← definitions.mapM (RuleEntries.allRules context)
  return .concat loaded

end ProseRules
