import ProseRules.Rule.Basic
import ProseRules.Yaml.Document

namespace ProseRules

/-!
# Writing definitions

A rule is written as a definition from which it can be loaded again. What has its
usual value is left out, a token that has only a text is written as that text, and
a reference counts logical units from 1.
-/

/-- An entry of a definition that is written if a condition holds. -/
def entryIf (condition : Bool) (name : String) (value : Value) : List (Value × Value) :=
  if condition then [(.text name, value)] else []

namespace Token

/-- The number of the unit a reference goes to, counted from 1. -/
def exportedReference (offsets : List Nat) (reference : Int) : Int :=
  unitOf offsets reference.toNat + 1

/-- The entries of the definition of a token; without offsets a reference is left out. -/
def definitionEntries (token : Token) (offsets : Option (List Nat)) : List (Value × Value) :=
  let reference :=
    match token.reference, offsets with
    | some reference, some offsets =>
        [(Value.text "reference", Value.int (exportedReference offsets reference))]
    | _, _ => []
  let most :=
    match token.most with
    | none => Value.text "*"
    | some most => .int most
  entryIf (token.text ≠ "") "string" (.text token.text)
    ++ entryIf token.negated "negation" (.bool true)
    ++ entryIf token.isExpression "regex" (.bool true)
    ++ entryIf token.inflected "inflected" (.bool true)
    ++ entryIf token.caseSensitive "case_sensitive" (.bool true)
    ++ entryIf (token.least ≠ 1) "min" (.int token.least)
    ++ entryIf (token.most ≠ some 1) "max" most
    ++ entryIf token.isPartOfPhrase "phrase" token.phrase
    ++ reference

/-- The definition of a token: its text if there is nothing else to say. -/
def definition (token : Token) (offsets : Option (List Nat)) : Value :=
  match token.definitionEntries offsets with
  | [(.text "string", content)] => content
  | entries => .mapping entries

end Token

namespace Rule

/-- The entries that say what a rule looks for. -/
def patternEntries (rule : Rule) : List (Value × Value) :=
  match rule.pattern with
  | .absent => []
  | .expression expression mark _ =>
      (.text "regex", .text expression.source) :: entryIf (mark ≠ 0) "regex_mark" (.int mark)
  | .tokens tokens _ =>
      let offsets := unitOffsets rule.unitSizes
      entryIf (!tokens.isEmpty) "pattern"
        (.list (tokens.map fun token => token.definition (some offsets)))

/-- The definition of a rule. -/
def definition (rule : Rule) : Value :=
  let antipatterns := rule.antipatterns.map fun tokens =>
    Value.list (tokens.map fun token => token.definition none)
  let corrections := Value.mapping
    [(.text "from", .int rule.startCorrection), (.text "to", .int rule.endCorrection)]
  .mapping
    ([(.text "id", rule.id)]
      ++ entryIf rule.description.isTruthy "description" rule.description
      ++ [(.text "message", rule.message)]
      ++ entryIf rule.shortMessage.isTruthy "short_message" rule.shortMessage
      ++ entryIf rule.extraSuggestions.isTruthy "suggestions_out_msg" rule.extraSuggestions
      ++ rule.patternEntries
      ++ entryIf (!rule.antipatterns.isEmpty) "antipatterns" (.list antipatterns)
      ++ entryIf (rule.startCorrection ≠ 0 || rule.endCorrection ≠ 0) "mark" corrections)

/-- The document that defines a rule alone. -/
def document (rule : Rule) : Value :=
  .mapping [(.text "language", rule.language), (.text "rules", .list [rule.definition])]

/-- The text of the document that defines a rule, refused if a number in it cannot be written. -/
def yaml (rule : Rule) : Except Failure String :=
  rule.document.shown.map fun _ => Yaml.render rule.document

end Rule

end ProseRules
