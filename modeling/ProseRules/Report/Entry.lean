import ProseRules.Report.Datum
import ProseRules.Value.Conversion
import ProseRules.Value.Indented

namespace ProseRules

/-!
# Report entries

An entry of a report tells of one issue. Its fields come in a fixed order; further
data follow in plain form, and data with the name of a field replace it.
-/

/-- What an entry tells, before it is checked. -/
structure EntryParts where
  sentence : Value
  sentenceIndex : Value
  message : Value
  suggestions : Value
  severity : Value := .text "medium"
  further : List (String × Datum) := []

/-- The severities that are kept. -/
def knownSeverities : List String :=
  ["low", "medium", "high"]

/-- A severity as it is reported; an unknown one counts as medium. -/
def settledSeverity (severity : Value) : Value :=
  match severity.asText? with
  | some name => if knownSeverities.contains name then severity else .text "medium"
  | none => .text "medium"

/-- An entry of a report. -/
abbrev ReportEntry : Type :=
  List (Value × Value)

namespace ReportEntry

/-- The fields of an entry. -/
def fieldsOf (ruleType : Value) (parts : EntryParts) : Except Failure ReportEntry := do
  let message ← parts.message.shown
  let suggestions ← (← parts.suggestions.elements).mapM Value.shown
  let sentence ← parts.sentence.shown
  let index ← parts.sentenceIndex.toInteger
  return [(.text "type", ruleType),
    (.text "message", .text message),
    (.text "suggestions", .list (suggestions.map Value.text)),
    (.text "sentence", .text sentence),
    (.text "sentence_index", .int index),
    (.text "severity", settledSeverity parts.severity)]

/-- Further data under their names, in plain form. -/
def plainData (further : List (String × Datum)) : Except Failure (List (Value × Value)) :=
  Datum.plainEntries (further.map fun item => (.text item.1, item.2))

/-- The entry of a rule type that tells the given parts. -/
def ofParts (ruleType : Value) (parts : EntryParts) : Except Failure ReportEntry := do
  let fields ← fieldsOf ruleType parts
  let further ← plainData parts.further
  return Value.update fields further

/-- An entry with the name of the text it comes from. -/
def withSource (entry : ReportEntry) (source : String) : ReportEntry :=
  Value.insert (.text "source") (.text source) entry

/-- What is written for a report. -/
def report (entries : List ReportEntry) : Value.Written :=
  (Value.list (entries.map Value.mapping)).written.andThen (.whole "\n")

end ReportEntry

end ProseRules
