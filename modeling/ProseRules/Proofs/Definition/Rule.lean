import ProseRules.Definition.Rules
import ProseRules.Proofs.Definition.Pattern
import ProseRules.Proofs.Rule.Parts

namespace ProseRules

/-!
# Reading a written rule

The entries that are written of a rule are read as one rule: its texts, corrections
and anti-patterns field by field, and then the expression or the row of tokens that
it looks for.
-/

namespace Rule

/-- The entry for the anti-patterns of a rule. -/
def writtenAntipatterns (rule : Rule) : List (Value × Value) :=
  entryIf (!rule.antipatterns.isEmpty) "antipatterns"
    (.list (rule.antipatterns.map fun tokens =>
      Value.list (tokens.map fun token => token.definition none)))

/-- The entry for the corrections of a rule. -/
def writtenMark (rule : Rule) : List (Value × Value) :=
  entryIf (rule.startCorrection ≠ 0 || rule.endCorrection ≠ 0) "mark"
    (.mapping [(.text "from", .int rule.startCorrection), (.text "to", .int rule.endCorrection)])

/-- The entries of the definition of a rule. -/
def definitionEntries (rule : Rule) : List (Value × Value) :=
  (.text "id", rule.id) ::
    (entryIf rule.description.isTruthy "description" rule.description ++
      ((.text "message", rule.message) ::
        (entryIf rule.shortMessage.isTruthy "short_message" rule.shortMessage ++
          (entryIf rule.extraSuggestions.isTruthy "suggestions_out_msg" rule.extraSuggestions ++
            (rule.patternEntries ++ (rule.writtenAntipatterns ++ rule.writtenMark))))))

theorem definition_eq
    (rule : Rule) :
    rule.definition = .mapping rule.definitionEntries := by
  simp only [definition, definitionEntries, writtenAntipatterns, writtenMark, List.append_assoc,
    List.cons_append, List.nil_append]

/-- The keys that say what a rule looks for. -/
def patternKeys : List String :=
  ["regex", "regex_mark", "pattern"]

theorem key_mem_patternKeys
    {rule : Rule}
    {entry : Value × Value}
    (member : entry ∈ rule.patternEntries) :
    ∃ name ∈ patternKeys, entry.1 = .text name := by
  unfold patternEntries at member
  split at member
  · simp at member
  · rcases List.mem_cons.mp member with rfl | isMark
    · exact ⟨"regex", by decide, rfl⟩
    · obtain ⟨_, rfl⟩ := mem_entryIf_iff.mp isMark
      exact ⟨"regex_mark", by decide, rfl⟩
  · obtain ⟨_, rfl⟩ := mem_entryIf_iff.mp member
    exact ⟨"pattern", by decide, rfl⟩

/-- Other fields are not among the entries for the pattern. -/
theorem field?_patternEntries_append
    (rule : Rule)
    {name : String}
    (other : name ∉ patternKeys)
    (entries : List (Value × Value)) :
    Value.field? name (rule.patternEntries ++ entries) = Value.field? name entries := by
  have passedOver :
      ∀ written : List (Value × Value),
        (∀ entry ∈ written, ∃ key ∈ patternKeys, entry.1 = .text key) →
          Value.field? name (written ++ entries) = Value.field? name entries := by
    intro written
    induction written with
    | nil =>
        intro _
        rfl
    | cons entry written inductionHypothesis =>
        intro keys
        obtain ⟨⟨key, isPatternKey, isKey⟩, laterKeys⟩ := List.forall_mem_cons.mp keys
        obtain ⟨_, value⟩ := entry
        simp only at isKey
        subst isKey
        have notSame : key ≠ name := by
          rintro rfl
          exact other isPatternKey
        rw [List.cons_append, Value.field?_cons, if_neg notSame, inductionHypothesis laterKeys]
  exact passedOver rule.patternEntries fun entry member => key_mem_patternKeys member

/-- Only known keys are written. -/
theorem unknownKeys_definitionEntries
    (rule : Rule) :
    Value.unknownKeys RuleEntries.knownKeys rule.definitionEntries = [] := by
  refine Value.unknownKeys_eq_nil fun entry member => ?_
  simp only [definitionEntries, writtenAntipatterns, writtenMark, List.mem_cons, List.mem_append,
    mem_entryIf_iff] at member
  rcases member with rfl | ⟨_, rfl⟩ | rfl | ⟨_, rfl⟩ | ⟨_, rfl⟩ | inPattern | ⟨_, rfl⟩ |
    ⟨_, rfl⟩
  case inr.inr.inr.inr.inr.inl =>
    obtain ⟨name, isPatternKey, isName⟩ := key_mem_patternKeys inPattern
    have allKnown : ∀ name ∈ patternKeys, name ∈ RuleEntries.knownKeys := by decide
    exact ⟨name, allKnown name isPatternKey, isName⟩
  all_goals exact ⟨_, by simp [RuleEntries.knownKeys], rfl⟩

section Fields

variable (rule : Rule)

theorem field?_id :
    Value.field? "id" rule.definitionEntries = some rule.id := by
  simp [definitionEntries]

theorem message_definitionEntries
    (place : DefinitionPlace) :
    RuleEntries.message place rule.definitionEntries = .ok rule.message := by
  simp [RuleEntries.message, definitionEntries]

theorem requireKnown_definitionEntries
    (place : DefinitionPlace) :
    place.requireKnown RuleEntries.knownKeys .unknownRuleKeys rule.definitionEntries = .ok () := by
  simp [DefinitionPlace.requireKnown, unknownKeys_definitionEntries, pure, Except.pure]

/-- A text that was written, or left out because it is empty, is read again. -/
theorem texts_definitionEntries
    (description : ∃ text, rule.description = .text text)
    (shortMessage : ∃ text, rule.shortMessage = .text text)
    (extraSuggestions : ∃ text, rule.extraSuggestions = .text text) :
    Value.fieldOr "description" (.text "") rule.definitionEntries = rule.description ∧
      Value.fieldOr "short_message" (.text "") rule.definitionEntries = rule.shortMessage ∧
        Value.fieldOr "suggestions_out_msg" (.text "") rule.definitionEntries =
          rule.extraSuggestions := by
  obtain ⟨description, isDescription⟩ := description
  obtain ⟨shortMessage, isShortMessage⟩ := shortMessage
  obtain ⟨extraSuggestions, isExtraSuggestions⟩ := extraSuggestions
  refine ⟨?_, ?_, ?_⟩
  · by_cases empty : description = "" <;>
      simp [Value.fieldOr, definitionEntries, field?_patternEntries_append, patternKeys,
        writtenAntipatterns, writtenMark, isDescription, Value.isTruthy, empty]
  · by_cases empty : shortMessage = "" <;>
      simp [Value.fieldOr, definitionEntries, field?_patternEntries_append, patternKeys,
        writtenAntipatterns, writtenMark, isShortMessage, Value.isTruthy, empty]
  · by_cases empty : extraSuggestions = "" <;>
      simp [Value.fieldOr, definitionEntries, field?_patternEntries_append, patternKeys,
        writtenAntipatterns, writtenMark, isExtraSuggestions, Value.isTruthy, empty]

theorem fieldOr_rules :
    Value.fieldOr "rules" .null rule.definitionEntries = .null := by
  simp [Value.fieldOr, definitionEntries, field?_patternEntries_append, patternKeys,
    writtenAntipatterns, writtenMark]

/-- The anti-patterns are read one by one as they were written. -/
theorem antipatterns_definitionEntries_eq
    (place : DefinitionPlace) :
    RuleEntries.antipatterns place rule.definitionEntries =
      (rule.antipatterns.map fun tokens =>
          Value.list (tokens.map fun token => token.definition none)).mapM
        (antipatternOf place) := by
  have given :
      Value.fieldOr "antipatterns" .null rule.definitionEntries =
        if rule.antipatterns.isEmpty then .null
        else .list (rule.antipatterns.map fun tokens =>
          Value.list (tokens.map fun token => token.definition none)) := by
    by_cases empty : rule.antipatterns = [] <;>
      simp [Value.fieldOr, definitionEntries, field?_patternEntries_append, patternKeys,
        writtenAntipatterns, writtenMark, empty]
  rw [RuleEntries.antipatterns, given]
  by_cases empty : rule.antipatterns = []
  · simp [empty, Value.elementsIfAny, Value.isTruthy, bind, Except.bind, pure, Except.pure]
  · simp [empty, Value.elementsIfAny, Value.isTruthy, Value.elements, bind, Except.bind]

/-- The anti-patterns that were written are read again. -/
theorem antipatterns_definitionEntries
    (place : DefinitionPlace)
    (phrasesAreTexts :
      ∀ tokens ∈ rule.antipatterns, ∀ token ∈ tokens, ∃ name, token.phrase = .text name)
    (noReference : ∀ tokens ∈ rule.antipatterns, ∀ token ∈ tokens, token.reference = none) :
    RuleEntries.antipatterns place rule.definitionEntries = .ok rule.antipatterns := by
  rw [antipatterns_definitionEntries_eq]
  exact
    Outcome.mapM_map_eq_self fun tokens member =>
      antipatternOf_definition place (phrasesAreTexts tokens member) (noReference tokens member)

/-- A definition is not read unless each of its anti-patterns is. -/
theorem exists_antipatternOf_of_rules
    {context : DefinitionContext}
    {loaded : Loaded}
    (read : RuleEntries.rules context rule.id .null rule.definitionEntries = .ok loaded)
    {tokens : List Token}
    (member : tokens ∈ rule.antipatterns) :
    ∃ readTokens,
      antipatternOf ⟨context.source, rule.id⟩
          (.list (tokens.map fun token => token.definition none)) =
        .ok readTokens := by
  obtain ⟨_, _, afterKeys⟩ := Outcome.bind_eq_ok_iff.mp read
  obtain ⟨_, _, afterMessage⟩ := Outcome.bind_eq_ok_iff.mp afterKeys
  obtain ⟨_, common, _⟩ := Outcome.bind_eq_ok_iff.mp afterMessage
  obtain ⟨antipatterns, readAll, _⟩ := Outcome.bind_eq_ok_iff.mp common
  rw [antipatterns_definitionEntries_eq] at readAll
  exact Outcome.exists_result_of_mem readAll (List.mem_map_of_mem member)

/-- The corrections that were written are read again. -/
theorem correction_definitionEntries :
    RuleEntries.correction "from" (Value.fieldOr "mark" .null rule.definitionEntries) =
        .ok rule.startCorrection ∧
      RuleEntries.correction "to" (Value.fieldOr "mark" .null rule.definitionEntries) =
        .ok rule.endCorrection := by
  have given :
      Value.fieldOr "mark" .null rule.definitionEntries =
        if rule.startCorrection = 0 ∧ rule.endCorrection = 0 then .null
        else .mapping
          [(.text "from", .int rule.startCorrection), (.text "to", .int rule.endCorrection)] := by
    by_cases noStart : rule.startCorrection = 0 <;> by_cases noEnd : rule.endCorrection = 0 <;>
      simp [Value.fieldOr, definitionEntries, field?_patternEntries_append, patternKeys,
        writtenAntipatterns, writtenMark, noStart, noEnd]
  rw [given]
  split
  · rename_i noCorrection
    simp [RuleEntries.correction, Value.isTruthy, noCorrection]
  · simp [RuleEntries.correction, Value.fieldOr, Value.toInteger]

end Fields

/-- The parts that the definition of a rule gives, apart from what the rule looks for. -/
def writtenParts (rule : Rule) : RuleParts where
  id := rule.id
  language := rule.language
  description := rule.description
  message := rule.message
  shortMessage := rule.shortMessage
  extraSuggestions := rule.extraSuggestions
  antipatterns := rule.antipatterns
  startCorrection := rule.startCorrection
  endCorrection := rule.endCorrection

/-- The pattern in which every reference goes to the start of a unit. -/
def referringToStarts : RulePattern → RulePattern
  | .absent => .absent
  | .tokens tokens precede =>
      .tokens (tokens.map (·.referringToStart (Token.unitSizes tokens)))
        (Token.referencesPrecede_map_referringToStart precede _)
  | .expression expression mark markExists => .expression expression mark markExists

/-- The rule that is read from the definition of a rule. -/
def reloaded (rule : Rule) : Rule :=
  ofPattern rule.writtenParts (referringToStarts rule.pattern)

/-- What can be read again of a rule: its texts are texts and no anti-pattern has a reference. -/
structure IsReadable (rule : Rule) : Prop where
  id : ∃ text, rule.id = .text text
  language : ∃ text, rule.language = .text text
  description : ∃ text, rule.description = .text text
  message : ∃ text, rule.message = .text text
  shortMessage : ∃ text, rule.shortMessage = .text text
  extraSuggestions : ∃ text, rule.extraSuggestions = .text text
  phrases : ∀ token ∈ rule.tokens, ∃ name, token.phrase = .text name
  antipatternPhrases :
    ∀ tokens ∈ rule.antipatterns, ∀ token ∈ tokens, ∃ name, token.phrase = .text name
  antipatternReferences :
    ∀ tokens ∈ rule.antipatterns, ∀ token ∈ tokens, token.reference = none

/-- The written parts make a rule with whatever pattern is accepted beside them. -/
theorem ofParts_writtenParts
    {rule : Rule}
    (readable : rule.IsReadable)
    (signs : rule.HasSigns)
    {tokens : Option (List Token)}
    {expression : Option GivenExpression}
    {mark : Int}
    {pattern : RulePattern}
    (accepted :
      patternOf
          { rule.writtenParts with
            tokens := tokens
            expression := expression
            mark := mark } =
        .ok pattern) :
    Rule.ofParts
        { rule.writtenParts with
          tokens := tokens
          expression := expression
          mark := mark } =
      .ok (ofPattern rule.writtenParts pattern) := by
  obtain ⟨message, isMessage⟩ := readable.message
  obtain ⟨shortMessage, isShortMessage⟩ := readable.shortMessage
  obtain ⟨extraSuggestions, isExtraSuggestions⟩ := readable.extraSuggestions
  rw [ofParts_of_patternOf (by simp [writtenParts, isMessage])
    (by simp [writtenParts, isShortMessage]) (by simp [writtenParts, isExtraSuggestions])
    signs.antipatterns accepted]
  rfl

section Reading

variable {rule : Rule} (readable : rule.IsReadable) (context : DefinitionContext)
include readable

theorem commonParts_definitionEntries
    (sameLanguage : context.language = rule.language) :
    RuleEntries.commonParts context ⟨context.source, rule.id⟩ .null rule.message
        rule.definitionEntries =
      .ok rule.writtenParts := by
  obtain ⟨description, shortMessage, extraSuggestions⟩ :=
    texts_definitionEntries rule readable.description readable.shortMessage
      readable.extraSuggestions
  obtain ⟨startCorrection, endCorrection⟩ := correction_definitionEntries rule
  have antipatterns :=
    antipatterns_definitionEntries rule ⟨context.source, rule.id⟩ readable.antipatternPhrases
      readable.antipatternReferences
  simp only [RuleEntries.commonParts, antipatterns, startCorrection, endCorrection, description,
    shortMessage, extraSuggestions, sameLanguage, bind, Except.bind]
  rfl

variable (signs : rule.HasSigns)
include signs

/-- The row of tokens of a rule is read as the pattern of one rule. -/
theorem patternRules_definition
    {tokens : List Token}
    {precede : referencesPrecede tokens}
    (pattern : rule.pattern = .tokens tokens precede) :
    RuleEntries.patternRules context ⟨context.source, rule.id⟩ rule.writtenParts
        (.list (tokens.map fun token =>
          token.definition (some (unitOffsets (Token.unitSizes tokens))))) =
      .ok [rule.reloaded] := by
  have phrasesAreTexts : ∀ token ∈ tokens, ∃ name, token.phrase = .text name := by
    rw [← tokens_of_pattern pattern]
    exact readable.phrases
  have expanded :=
    expand_definition context.phrases ⟨context.source, rule.id⟩ precede phrasesAreTexts
  have sameSigns :
      HaveSigns (tokens.map (·.referringToStart (Token.unitSizes tokens))) := by
    have ofTokens := signs.tokens
    rw [tokens_of_pattern pattern] at ofTokens
    exact List.forall_mem_map.mpr ofTokens
  have made :
      Rule.ofParts
          { rule.writtenParts with
            tokens := some (tokens.map (·.referringToStart (Token.unitSizes tokens))) } =
        .ok rule.reloaded := by
    rw [reloaded, pattern]
    exact ofParts_writtenParts readable signs (tokenPattern_of_referencesPrecede _ sameSigns)
  -- A single row is no alternative.
  have onlyOne :
      decide (1 < [tokens.map (·.referringToStart (Token.unitSizes tokens))].length) = false :=
    rfl
  simp only [RuleEntries.patternRules, expanded, bind, Except.bind, List.mapM_cons,
    List.mapM_nil, pure, Except.pure, onlyOne]
  change (Rule.ofParts { rule.writtenParts with tokens := _ } >>= fun read => .ok [read]) = _
  rw [made]
  rfl

/-- The definition of a rule with a row of tokens is read as the rule with such a row. -/
theorem rules_definitionEntries_of_tokens
    (sameLanguage : context.language = rule.language)
    {tokens : List Token}
    {precede : referencesPrecede tokens}
    (pattern : rule.pattern = .tokens tokens precede)
    (someTokens : tokens ≠ []) :
    RuleEntries.rules context rule.id .null rule.definitionEntries =
      .ok ⟨[rule.reloaded], []⟩ := by
  have parts := commonParts_definitionEntries readable context sameLanguage
  have sameTokens := tokens_of_pattern pattern
  have noExpression : Value.field? "regex" rule.definitionEntries = none := by
    simp [definitionEntries, patternEntries, pattern, writtenAntipatterns, writtenMark]
  have writtenPattern :
      Value.field? "pattern" rule.definitionEntries =
        some (.list (tokens.map fun token =>
          token.definition (some (unitOffsets (Token.unitSizes tokens))))) := by
    simp [definitionEntries, patternEntries, pattern, someTokens, unitSizes, sameTokens]
  have read := patternRules_definition readable context signs pattern
  simp only [RuleEntries.rules, requireKnown_definitionEntries, message_definitionEntries, parts,
    noExpression, writtenPattern, read, bind, Except.bind, pure, Except.pure]

/-- The definition of a rule that looks for nothing is read as such a rule, with a notice. -/
theorem rules_definitionEntries_of_absent
    (sameLanguage : context.language = rule.language)
    (pattern : rule.pattern = .absent) :
    RuleEntries.rules context rule.id .null rule.definitionEntries =
      .ok ⟨[rule.reloaded], [.nothingToMatch context.source rule.id.display]⟩ := by
  have parts := commonParts_definitionEntries readable context sameLanguage
  have noExpression : Value.field? "regex" rule.definitionEntries = none := by
    simp [definitionEntries, patternEntries, pattern, writtenAntipatterns, writtenMark]
  have noTokens : Value.field? "pattern" rule.definitionEntries = none := by
    simp [definitionEntries, patternEntries, pattern, writtenAntipatterns, writtenMark]
  have made : Rule.ofParts rule.writtenParts = .ok rule.reloaded := by
    rw [reloaded, pattern]
    exact ofParts_writtenParts readable signs rfl
  have shownId : rule.id.shown = .ok rule.id.display := by
    obtain ⟨text, isText⟩ := readable.id
    rw [isText]
    rfl
  simp only [RuleEntries.rules, requireKnown_definitionEntries, message_definitionEntries, parts,
    noExpression, noTokens, made, bind, Except.bind, pure, Except.pure, shownId]

/-- The definition of a rule with an expression that was read is read as the rule with it. -/
theorem rules_definitionEntries_of_expression
    (sameLanguage : context.language = rule.language)
    {expression : Regex.Expression}
    {mark : Nat}
    {markExists : mark ≤ expression.groups}
    (pattern : rule.pattern = .expression expression mark markExists)
    (wasRead : Regex.Expression.ofSource expression.source = .ok expression) :
    RuleEntries.rules context rule.id .null rule.definitionEntries =
      .ok ⟨[rule.reloaded], []⟩ := by
  have parts := commonParts_definitionEntries readable context sameLanguage
  have noTokens : Value.field? "pattern" rule.definitionEntries = none := by
    simp [definitionEntries, patternEntries, pattern, writtenAntipatterns, writtenMark]
  have writtenExpression :
      Value.field? "regex" rule.definitionEntries = some (.text expression.source) := by
    simp [definitionEntries, patternEntries, pattern]
  have writtenMark' :
      Value.fieldOr "regex_mark" (.int 0) rule.definitionEntries = .int mark := by
    by_cases noMark : mark = 0 <;>
      simp [Value.fieldOr, definitionEntries, patternEntries, pattern, noMark,
        writtenAntipatterns, writtenMark]
  have read :
      RuleEntries.expressionRule rule.writtenParts (.text expression.source)
          rule.definitionEntries =
        .ok rule.reloaded := by
    simp only [RuleEntries.expressionRule, writtenMark', Value.toInteger, bind, Except.bind]
    rw [reloaded, pattern]
    refine ofParts_writtenParts readable signs ?_
    simp [patternOf, writtenParts, readExpression, wasRead, expressionPattern, markExists, bind,
      Except.bind, referringToStarts]
  simp only [RuleEntries.rules, requireKnown_definitionEntries, message_definitionEntries, parts,
    noTokens, writtenExpression, read, bind, Except.bind, pure, Except.pure]

end Reading

end Rule

end ProseRules
