import ProseRules.Proofs.Definition.Origins
import ProseRules.Proofs.Definition.Rule

namespace ProseRules

/-!
# A written rule is restored

The document that is written of a rule is loaded as one rule with the same texts,
corrections and anti-patterns and the same expression or row of tokens. Only the
references of its tokens go to the starts of units, where those of a loaded rule
go anyway, and nothing of this can be told from the definition.
-/

namespace Rule

section Reloaded

variable (rule : Rule)

theorem tokens_reloaded :
    rule.reloaded.tokens = rule.tokens.map (·.referringToStart rule.unitSizes) := by
  cases pattern : rule.pattern <;>
    simp [tokens, reloaded, ofPattern, unitSizes, referringToStarts, pattern]

theorem expression?_reloaded :
    rule.reloaded.expression? = rule.expression? := by
  cases pattern : rule.pattern <;>
    simp [expression?, reloaded, ofPattern, referringToStarts, pattern]

theorem unitSizes_reloaded :
    rule.reloaded.unitSizes = rule.unitSizes := by
  rw [unitSizes, tokens_reloaded, Token.unitSizes_map_referringToStart]
  rfl

theorem usesGrouping_reloaded :
    rule.reloaded.usesGrouping = rule.usesGrouping := by
  rw [usesGrouping, tokens_reloaded, usesGrouping, Token.usesGrouping, List.any_map]
  rfl

theorem antipatterns_reloaded
    (nonempty : ∀ tokens ∈ rule.antipatterns, tokens ≠ []) :
    rule.reloaded.antipatterns = rule.antipatterns := by
  refine List.filter_eq_self.mpr fun tokens member => ?_
  simpa using nonempty tokens member

/-- What a rule looks for is written of the reloaded rule as of the rule itself. -/
theorem patternEntries_reloaded :
    rule.reloaded.patternEntries = rule.patternEntries := by
  cases pattern : rule.pattern with
  | absent =>
      simp [patternEntries, reloaded, ofPattern, referringToStarts, pattern]
  | expression expression mark markExists =>
      simp [patternEntries, reloaded, ofPattern, referringToStarts, pattern]
  | tokens tokens precede =>
      have sameTokens := tokens_of_pattern pattern
      have sameDefinitions := Token.map_definition_referringToStart precede
      have newPattern : rule.reloaded.pattern = referringToStarts (.tokens tokens precede) := by
        rw [← pattern]
        rfl
      rw [patternEntries, patternEntries, newPattern, pattern, unitSizes_reloaded, unitSizes,
        sameTokens]
      simp only [referringToStarts, sameDefinitions, List.isEmpty_map]

/-- The reloaded rule has the same definition. -/
theorem definition_reloaded
    (nonempty : ∀ tokens ∈ rule.antipatterns, tokens ≠ []) :
    rule.reloaded.definition = rule.definition := by
  have sameAntipatterns := antipatterns_reloaded rule nonempty
  rw [definition_eq, definition_eq, definitionEntries, definitionEntries, patternEntries_reloaded,
    writtenAntipatterns, writtenAntipatterns, sameAntipatterns]
  rfl

/-- A rule whose references go to the starts of units is reloaded with the same tokens. -/
theorem tokens_reloaded_of_refersToStarts
    (refersToStarts : rule.RefersToStarts) :
    rule.reloaded.tokens = rule.tokens := by
  rw [tokens_reloaded]
  exact (List.map_congr_left refersToStarts).trans (List.map_id' rule.tokens)

end Reloaded

/-- The definition of a rule is no group, so it is read by its own entries. -/
theorem allRules_definition
    (rule : Rule)
    (context : DefinitionContext) :
    RuleEntries.allRules context rule.definition =
      RuleEntries.rules context rule.id .null rule.definitionEntries := by
  simp only [RuleEntries.allRules, definition_eq, field?_id, fieldOr_rules]

/-- The document of a rule is read as the rules of its definition. -/
theorem rulesOfEntries_document
    (rule : Rule)
    (source : String) :
    rulesOfEntries source ""
        [(.text "language", rule.language), (.text "rules", .list [rule.definition])] =
      RuleEntries.allRules ⟨source, rule.language, []⟩ rule.definition := by
  have context :
      DefinitionContext.ofEntries source ""
          [(.text "language", rule.language), (.text "rules", .list [rule.definition])] =
        .ok ⟨source, rule.language, []⟩ := by
    simp [DefinitionContext.ofEntries, Value.fieldOr, Value.isTruthy, pure, Except.pure]
  have definitions :
      (Value.list [rule.definition]).elementsIfAny = .ok [rule.definition] := by
    simp [Value.elementsIfAny, Value.isTruthy, Value.elements]
  have onlyPart : ∀ loaded, Loaded.concat [loaded] = loaded := by
    simp [Loaded.concat, Loaded.append, Loaded.none]
  cases read : RuleEntries.allRules ⟨source, rule.language, []⟩ rule.definition <;>
    simp [rulesOfEntries, context, Value.fieldOr, definitions, read, onlyPart, bind, Except.bind,
      pure, Except.pure]

/--
A rule is restored by one with the same texts, corrections and anti-patterns that looks
for the same, with its references at the starts of units.
-/
structure RestoredBy (rule restored : Rule) : Prop where
  id : restored.id = rule.id
  language : restored.language = rule.language
  description : restored.description = rule.description
  message : restored.message = rule.message
  shortMessage : restored.shortMessage = rule.shortMessage
  extraSuggestions : restored.extraSuggestions = rule.extraSuggestions
  startCorrection : restored.startCorrection = rule.startCorrection
  endCorrection : restored.endCorrection = rule.endCorrection
  expression : restored.expression? = rule.expression?
  antipatterns : restored.antipatterns = rule.antipatterns
  unitSizes : restored.unitSizes = rule.unitSizes
  usesGrouping : restored.usesGrouping = rule.usesGrouping
  tokens : restored.tokens = rule.tokens.map (·.referringToStart rule.unitSizes)

theorem restoredBy_reloaded
    {rule : Rule}
    (nonempty : ∀ tokens ∈ rule.antipatterns, tokens ≠ []) :
    rule.RestoredBy rule.reloaded where
  id := rfl
  language := rfl
  description := rfl
  message := rfl
  shortMessage := rfl
  extraSuggestions := rfl
  startCorrection := rfl
  endCorrection := rfl
  expression := expression?_reloaded rule
  antipatterns := antipatterns_reloaded rule nonempty
  unitSizes := unitSizes_reloaded rule
  usesGrouping := usesGrouping_reloaded rule
  tokens := tokens_reloaded rule

/-- The definition of a rule that looks for tokens or for a source is read as one rule. -/
theorem allRules_definition_of_ofParts
    {parts : RuleParts}
    {rule : Rule}
    (made : Rule.ofParts parts = .ok rule)
    (readable : rule.IsReadable)
    (pattern :
      (∃ tokens, parts.tokens = some tokens ∧ tokens ≠ []) ∨
        ∃ source, parts.expression = some (.source (.text source)))
    (source : String) :
    RuleEntries.allRules ⟨source, rule.language, []⟩ rule.definition =
      .ok ⟨[rule.reloaded], []⟩ := by
  rw [allRules_definition]
  rcases pattern with ⟨tokens, given, someTokens⟩ | ⟨expressionSource, given⟩
  · obtain ⟨precede, isPattern⟩ := exists_pattern_of_tokens given made
    exact rules_definitionEntries_of_tokens readable _ (hasSigns_of_ofParts made) rfl isPattern
      someTokens
  · obtain ⟨expression, mark, markExists, isPattern, wasRead⟩ :=
      exists_expression_of_source given made
    exact rules_definitionEntries_of_expression readable _ (hasSigns_of_ofParts made) rfl isPattern
      wasRead

/--
The document of a rule loads as the rule with references to the starts of units, which
has the same definition, and as the same tokens if the rule was loaded itself.
-/
theorem rulesOfEntries_definition
    {parts : RuleParts}
    {rule : Rule}
    (made : Rule.ofParts parts = .ok rule)
    (readable : rule.IsReadable)
    (pattern :
      (∃ tokens, parts.tokens = some tokens ∧ tokens ≠ []) ∨
        ∃ source, parts.expression = some (.source (.text source)))
    (source : String) :
    ∃ restored,
      rulesOfEntries source ""
          [(.text "language", rule.language), (.text "rules", .list [rule.definition])] =
        .ok ⟨[restored], []⟩ ∧
      rule.RestoredBy restored ∧
      restored.definition = rule.definition ∧
      ∀ document language entries loaded,
        rulesOfEntries document language entries = .ok loaded →
          rule ∈ loaded.rules → restored.tokens = rule.tokens := by
  have nonempty : ∀ tokens ∈ rule.antipatterns, tokens ≠ [] :=
    fun tokens => ne_nil_of_mem_antipatterns made
  have read := allRules_definition_of_ofParts made readable pattern source
  rw [← rulesOfEntries_document] at read
  refine ⟨rule.reloaded, read, restoredBy_reloaded nonempty, definition_reloaded rule nonempty, ?_⟩
  intro document language entries loaded wasLoaded member
  exact
    tokens_reloaded_of_refersToStarts rule
      (refersToStarts_of_mem_rulesOfEntries wasLoaded member)

/-- Two words of one phrase and then the second of them once more. -/
def repeatedName : List Token :=
  [.placeholder (.text "name"), .placeholder (.text "name"),
    { Token.placeholder (.text "") with
      reference := some 1
      negation_has_subject := by simp }]

/-- A reference into a phrase goes to its first word once the rule was written and read. -/
theorem rulesOfEntries_definition_repeatedName :
    ∃ rule restored,
      Rule.ofParts { tokens := some repeatedName } = .ok rule ∧
        rulesOfEntries "<string>" ""
            [(.text "language", rule.language), (.text "rules", .list [rule.definition])] =
          .ok ⟨[restored], []⟩ ∧
        restored.definition = rule.definition ∧
        rule.tokens.map (·.reference) = [none, none, some 1] ∧
        restored.tokens.map (·.reference) = [none, none, some 0] := by
  have precede : referencesPrecede repeatedName := badReference?_eq_none_iff.mp (by decide)
  have signs : HaveSigns repeatedName := requireSigns_eq_ok_iff.mp rfl
  have readable : (withTokens repeatedName precede).IsReadable := by
    constructor
    case phrases =>
      intro token member
      have isOne : token ∈ repeatedName := member
      simp only [repeatedName, List.mem_cons, List.not_mem_nil, or_false] at isOne
      rcases isOne with rfl | rfl | rfl <;> exact ⟨_, rfl⟩
    case antipatternPhrases => simp [withTokens, ofPattern]
    case antipatternReferences => simp [withTokens, ofPattern]
    all_goals exact ⟨_, rfl⟩
  obtain ⟨restored, loads, restoredBy, sameDefinition, _⟩ :=
    rulesOfEntries_definition (ofParts_tokens precede signs) readable
      (.inl ⟨repeatedName, rfl, by simp [repeatedName]⟩) "<string>"
  have starts :
      (repeatedName.map (·.referringToStart (Token.unitSizes repeatedName))).map (·.reference) =
        [none, none, some 0] := by
    decide +kernel
  refine ⟨withTokens repeatedName precede, restored, ofParts_tokens precede signs, loads,
    sameDefinition, rfl, ?_⟩
  rw [restoredBy.tokens]
  exact starts

end Rule

end ProseRules
