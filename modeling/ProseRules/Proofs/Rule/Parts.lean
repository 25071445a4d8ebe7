import ProseRules.Proofs.Outcome
import ProseRules.Rule.Basic

namespace ProseRules

/-!
# Which parts make a rule

A row of tokens is refused only for a reference that does not go back or for bounds
that cannot be written. Parts with texts make a rule exactly if what they look for and
the bounds in their anti-patterns are accepted, and the rule has them.
-/

/-- An expression keeps the source it was read from. -/
theorem Regex.Expression.source_of_ofSource
    {source : String}
    {flags : Flags}
    {expression : Expression}
    (read : ofSource source flags = .ok expression) :
    expression.source = source := by
  simp only [ofSource] at read
  split at read
  · cases read
  · split at read
    · cases read
    · split at read
      · cases read
      · split at read
        · split at read
          · cases read
          · split at read
            · cases read
            · cases read
              rfl
        · cases read

namespace Rule

/-- No reference is bad exactly if each goes to an earlier token. -/
theorem badReference?_eq_none_iff
    {tokens : List Token} :
    badReference? tokens = none ↔ referencesPrecede tokens := by
  constructor
  · exact referencesPrecede_of_badReference?_eq_none
  · intro precede
    rw [badReference?, List.findSome?_eq_none_iff]
    intro entry member
    cases isReference : entry.1.reference with
    | none =>
        simp [isReference]
    | some reference =>
        simp [isReference, precede entry member reference isReference]

/-- The bounds of all tokens can be written. -/
def HaveSigns (tokens : List Token) : Prop :=
  ∀ token ∈ tokens, token.operator.canBeWritten = true

theorem requireSigns_eq_ok_iff
    {tokens : List Token} :
    requireSigns tokens = .ok () ↔ HaveSigns tokens := by
  rw [requireSigns, HaveSigns, ← List.all_eq_true]
  split
  · rename_i signs
    simp only [signs]
  · rename_i noSigns
    simp only [noSigns, reduceCtorEq]

/-- Tokens whose references go to earlier ones and whose bounds can be written are a pattern. -/
theorem tokenPattern_of_referencesPrecede
    {tokens : List Token}
    (precede : referencesPrecede tokens)
    (signs : HaveSigns tokens) :
    tokenPattern tokens = .ok (.tokens tokens precede) := by
  have accepted := badReference?_eq_none_iff.mpr precede
  unfold tokenPattern
  split
  · rename_i refused
    rw [accepted] at refused
    cases refused
  · rw [requireSigns_eq_ok_iff.mpr signs]
    rfl

/-- A row of tokens is a pattern only as it is, and on conditions for references and bounds. -/
theorem tokenPattern_eq_ok_iff
    {tokens : List Token}
    {pattern : RulePattern} :
    tokenPattern tokens = .ok pattern ↔
      HaveSigns tokens ∧
        ∃ precede : referencesPrecede tokens, pattern = .tokens tokens precede := by
  constructor
  · intro accepted
    unfold tokenPattern at accepted
    split at accepted
    · cases accepted
    · obtain ⟨_, signs, isPattern⟩ := Outcome.bind_eq_ok_iff.mp accepted
      cases isPattern
      exact ⟨requireSigns_eq_ok_iff.mp signs, _, rfl⟩
  · rintro ⟨signs, precede, rfl⟩
    exact tokenPattern_of_referencesPrecede precede signs

/-- What the parts of a rule look for. -/
def patternOf (parts : RuleParts) : Except Failure RulePattern :=
  match parts.tokens, parts.expression with
  | some _, some _ => .error (.refusing [parts.id] (.tokensAndExpression parts.id.display))
  | some tokens, none => tokenPattern tokens
  | none, some given => do
      let expression ← readExpression parts.id given
      expressionPattern expression parts.mark
  | none, none => .ok .absent

/-- The rule of parts that look for a pattern. -/
def ofPattern (parts : RuleParts) (pattern : RulePattern) : Rule where
  id := parts.id
  subId := parts.subId
  language := parts.language
  description := parts.description
  message := parts.message
  shortMessage := parts.shortMessage
  extraSuggestions := parts.extraSuggestions
  pattern := pattern
  antipatterns := parts.antipatterns.filter (!·.isEmpty)
  startCorrection := parts.startCorrection
  endCorrection := parts.endCorrection
  isAlternative := parts.isAlternative
  ownImmunizer := parts.ownImmunizer

/-- Parts make a rule by a check of the texts, then of the pattern and of the bounds. -/
theorem ofParts_eq
    (parts : RuleParts) :
    Rule.ofParts parts =
      (do
        requireField "message" parts.message
        requireField "short_message" parts.shortMessage
        requireField "suggestions_out_msg" parts.extraSuggestions
        let pattern ← patternOf parts
        requireSigns parts.antipatterns.flatten
        return ofPattern parts pattern) := by
  unfold Rule.ofParts patternOf
  cases parts.tokens with
  | some tokens =>
      cases parts.expression <;> rfl
  | none =>
      cases parts.expression with
      | none =>
          rfl
      | some given =>
          simp only [bind_assoc]
          rfl

/-- A rule that parts make has these parts, an accepted pattern and bounds that can be written. -/
theorem exists_checked_of_ofParts
    {parts : RuleParts}
    {rule : Rule}
    (made : Rule.ofParts parts = .ok rule) :
    ∃ pattern, patternOf parts = .ok pattern ∧
      HaveSigns parts.antipatterns.flatten ∧ rule = ofPattern parts pattern := by
  rw [ofParts_eq] at made
  obtain ⟨_, _, afterMessage⟩ := Outcome.bind_eq_ok_iff.mp made
  obtain ⟨_, _, afterShortMessage⟩ := Outcome.bind_eq_ok_iff.mp afterMessage
  obtain ⟨_, _, afterSuggestions⟩ := Outcome.bind_eq_ok_iff.mp afterShortMessage
  obtain ⟨pattern, accepted, afterPattern⟩ := Outcome.bind_eq_ok_iff.mp afterSuggestions
  obtain ⟨_, signs, result⟩ := Outcome.bind_eq_ok_iff.mp afterPattern
  cases result
  exact ⟨pattern, accepted, requireSigns_eq_ok_iff.mp signs, rfl⟩

theorem exists_pattern_of_ofParts
    {parts : RuleParts}
    {rule : Rule}
    (made : Rule.ofParts parts = .ok rule) :
    ∃ pattern, patternOf parts = .ok pattern ∧ rule = ofPattern parts pattern := by
  obtain ⟨pattern, accepted, _, isRule⟩ := exists_checked_of_ofParts made
  exact ⟨pattern, accepted, isRule⟩

/-- No message of a rule is null. -/
theorem messages_ne_null_of_ofParts
    {parts : RuleParts}
    {rule : Rule}
    (made : Rule.ofParts parts = .ok rule) :
    parts.message ≠ .null ∧ parts.shortMessage ≠ .null ∧ parts.extraSuggestions ≠ .null := by
  have notNull :
      ∀ (name : String) (value : Value), requireField name value = .ok () → value ≠ .null := by
    rintro name value present rfl
    cases present
  rw [ofParts_eq] at made
  obtain ⟨_, message, afterMessage⟩ := Outcome.bind_eq_ok_iff.mp made
  obtain ⟨_, shortMessage, afterShortMessage⟩ := Outcome.bind_eq_ok_iff.mp afterMessage
  obtain ⟨_, suggestions, _⟩ := Outcome.bind_eq_ok_iff.mp afterShortMessage
  exact ⟨notNull _ _ message, notNull _ _ shortMessage, notNull _ _ suggestions⟩

/-- Parts with messages and with bounds that can be written make a rule of their pattern. -/
theorem ofParts_of_patternOf
    {parts : RuleParts}
    (message : parts.message ≠ .null)
    (shortMessage : parts.shortMessage ≠ .null)
    (extraSuggestions : parts.extraSuggestions ≠ .null)
    (antipatternSigns : HaveSigns parts.antipatterns.flatten)
    {pattern : RulePattern}
    (accepted : patternOf parts = .ok pattern) :
    Rule.ofParts parts = .ok (ofPattern parts pattern) := by
  have present :
      ∀ (name : String) (value : Value), value ≠ .null → requireField name value = .ok () := by
    intro name value notNull
    cases value with
    | null =>
        exact (notNull rfl).elim
    | _ =>
        rfl
  rw [ofParts_eq, present "message" _ message, present "short_message" _ shortMessage,
    present "suggestions_out_msg" _ extraSuggestions, accepted,
    requireSigns_eq_ok_iff.mpr antipatternSigns]
  rfl

/-- The tokens of a rule with a token pattern are those of the pattern. -/
theorem tokens_of_pattern
    {rule : Rule}
    {tokens : List Token}
    {precede : referencesPrecede tokens}
    (pattern : rule.pattern = .tokens tokens precede) :
    rule.tokens = tokens := by
  rw [Rule.tokens, pattern]

theorem hasPattern_of_pattern
    {rule : Rule}
    {tokens : List Token}
    {precede : referencesPrecede tokens}
    (pattern : rule.pattern = .tokens tokens precede) :
    rule.hasPattern = true := by
  rw [Rule.hasPattern, pattern]

/-- Parts look for a row of tokens, for an expression or for nothing. -/
theorem patternOf_cases
    {parts : RuleParts}
    {pattern : RulePattern}
    (accepted : patternOf parts = .ok pattern) :
    (∃ tokens precede,
        parts.tokens = some tokens ∧
          parts.expression = none ∧ HaveSigns tokens ∧ pattern = .tokens tokens precede) ∨
      (∃ given expression mark markExists,
        parts.tokens = none ∧
          parts.expression = some given ∧
            readExpression parts.id given = .ok expression ∧
              pattern = .expression expression mark markExists) ∨
        parts.tokens = none ∧ parts.expression = none ∧ pattern = .absent := by
  unfold patternOf at accepted
  split at accepted
  · cases accepted
  · rename_i tokens isTokens noExpression
    obtain ⟨signs, precede, rfl⟩ := tokenPattern_eq_ok_iff.mp accepted
    exact .inl ⟨tokens, precede, isTokens, noExpression, signs, rfl⟩
  · rename_i given noTokens isExpression
    obtain ⟨expression, read, isPattern⟩ := Outcome.bind_eq_ok_iff.mp accepted
    unfold expressionPattern at isPattern
    split at isPattern
    · cases isPattern
      exact .inr (.inl ⟨given, expression, _, _, noTokens, isExpression, read, rfl⟩)
    · cases isPattern
  · rename_i noTokens noExpression
    cases accepted
    exact .inr (.inr ⟨noTokens, noExpression, rfl⟩)

/-- The tokens of a rule are those among its parts. -/
theorem tokens_of_ofParts
    {parts : RuleParts}
    {rule : Rule}
    (made : Rule.ofParts parts = .ok rule) :
    rule.tokens = parts.tokens.getD [] := by
  obtain ⟨pattern, accepted, rfl⟩ := exists_pattern_of_ofParts made
  obtain ⟨tokens, _, isTokens, _, _, rfl⟩ | ⟨_, _, _, _, noTokens, _, _, rfl⟩ |
    ⟨noTokens, _, rfl⟩ := patternOf_cases accepted
  · rw [isTokens]
    rfl
  · rw [noTokens]
    rfl
  · rw [noTokens]
    rfl

/-- The bounds in the pattern and in the anti-patterns of a rule can be written. -/
structure HasSigns (rule : Rule) : Prop where
  tokens : HaveSigns rule.tokens
  antipatterns : HaveSigns rule.antipatterns.flatten

/-- All bounds are written while a rule is made. -/
theorem hasSigns_of_ofParts
    {parts : RuleParts}
    {rule : Rule}
    (made : Rule.ofParts parts = .ok rule) :
    rule.HasSigns := by
  obtain ⟨pattern, accepted, antipatternSigns, rfl⟩ := exists_checked_of_ofParts made
  constructor
  case tokens =>
    obtain ⟨tokens, _, _, _, signs, rfl⟩ | ⟨_, _, _, _, _, _, _, rfl⟩ | ⟨_, _, rfl⟩ :=
      patternOf_cases accepted
    · exact signs
    · exact List.forall_mem_nil _
    · exact List.forall_mem_nil _
  case antipatterns =>
    intro token member
    refine antipatternSigns token ?_
    rwa [← List.flatten_filter_not_isEmpty]

/-- No anti-pattern of a rule is empty. -/
theorem ne_nil_of_mem_antipatterns
    {parts : RuleParts}
    {rule : Rule}
    (made : Rule.ofParts parts = .ok rule)
    {tokens : List Token}
    (member : tokens ∈ rule.antipatterns) :
    tokens ≠ [] := by
  obtain ⟨pattern, _, rfl⟩ := exists_pattern_of_ofParts made
  have kept := (List.mem_filter.mp member).2
  simpa using kept

/-- What is read of a source is the expression that its own source gives. -/
theorem ofSource_of_readExpression
    {id : Value}
    {source : String}
    {expression : Regex.Expression}
    (read : readExpression id (.source (.text source)) = .ok expression) :
    Regex.Expression.ofSource expression.source = .ok expression := by
  cases outcome : Regex.Expression.ofSource source with
  | ok expression' =>
      simp only [readExpression, outcome, Except.ok.injEq] at read
      subst read
      rw [Regex.Expression.source_of_ofSource outcome]
      exact outcome
  | error refusal =>
      cases refusal <;> simp [readExpression, outcome] at read

/-- A rule that was given a source looks for the expression of the source. -/
theorem exists_expression_of_source
    {parts : RuleParts}
    {source : String}
    (given : parts.expression = some (.source (.text source)))
    {rule : Rule}
    (made : Rule.ofParts parts = .ok rule) :
    ∃ expression mark markExists,
      rule.pattern = .expression expression mark markExists ∧
        Regex.Expression.ofSource expression.source = .ok expression := by
  obtain ⟨pattern, accepted, rfl⟩ := exists_pattern_of_ofParts made
  obtain ⟨_, _, _, noExpression, _⟩ | ⟨_, expression, mark, markExists, _, isGiven, read, rfl⟩ |
    ⟨_, noExpression, _⟩ := patternOf_cases accepted
  · rw [given] at noExpression
    cases noExpression
  · rw [given] at isGiven
    cases isGiven
    exact ⟨expression, mark, markExists, rfl, ofSource_of_readExpression read⟩
  · rw [given] at noExpression
    cases noExpression

/-- A rule that was given tokens looks for these. -/
theorem exists_pattern_of_tokens
    {parts : RuleParts}
    {tokens : List Token}
    (given : parts.tokens = some tokens)
    {rule : Rule}
    (made : Rule.ofParts parts = .ok rule) :
    ∃ precede, rule.pattern = .tokens tokens precede := by
  obtain ⟨pattern, accepted, rfl⟩ := exists_pattern_of_ofParts made
  obtain ⟨tokens', precede, isGiven, _, _, rfl⟩ | ⟨_, _, _, _, noTokens, _⟩ | ⟨noTokens, _⟩ :=
    patternOf_cases accepted
  · rw [given] at isGiven
    cases isGiven
    exact ⟨precede, rfl⟩
  · rw [given] at noTokens
    cases noTokens
  · rw [given] at noTokens
    cases noTokens

/-- The rule with a row of tokens and nothing else given. -/
def withTokens (tokens : List Token) (precede : referencesPrecede tokens) : Rule :=
  ofPattern { tokens := some tokens } (.tokens tokens precede)

/-- A row of tokens alone makes a rule. -/
theorem ofParts_tokens
    {tokens : List Token}
    (precede : referencesPrecede tokens)
    (signs : HaveSigns tokens) :
    Rule.ofParts { tokens := some tokens } = .ok (.withTokens tokens precede) :=
  ofParts_of_patternOf (by simp) (by simp) (by simp) (by simp [HaveSigns])
    (tokenPattern_of_referencesPrecede precede signs)

end Rule

end ProseRules
