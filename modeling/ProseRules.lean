import ProseRules.Definition.Export
import ProseRules.Main
import ProseRules.Pattern.Cache
import ProseRules.Proofs.Checker.ExceptedTexts
import ProseRules.Proofs.Command.Report
import ProseRules.Proofs.Definition.Behaviour
import ProseRules.Proofs.Definition.EscapingFailures
import ProseRules.Proofs.Definition.Expansion
import ProseRules.Proofs.Definition.Groups
import ProseRules.Proofs.Definition.OccurrenceBounds
import ProseRules.Proofs.Definition.PhraseReferences
import ProseRules.Proofs.Definition.RenderedReferences
import ProseRules.Proofs.Definition.UnitNumbers
import ProseRules.Proofs.Definition.Units
import ProseRules.Proofs.Message.Marked
import ProseRules.Proofs.Pattern.Recency
import ProseRules.Proofs.Report.FurtherData
import ProseRules.Proofs.Rule.Accounting
import ProseRules.Proofs.Rule.AntipatternRanges
import ProseRules.Proofs.Rule.ExtraSuggestions
import ProseRules.Proofs.Rule.FlaggedText
import ProseRules.Proofs.Rule.ImmunizedUnion
import ProseRules.Proofs.Rule.Occurrences
import ProseRules.Proofs.Rule.OwnAntipattern
import ProseRules.Proofs.Rule.RenderedUnits
import ProseRules.Proofs.Rule.Separation
import ProseRules.Proofs.Rule.Suggestions
import ProseRules.Proofs.Sentence.Division
import ProseRules.Proofs.Token.Negation
import ProseRules.Proofs.Token.SurfaceAndBaseForm
