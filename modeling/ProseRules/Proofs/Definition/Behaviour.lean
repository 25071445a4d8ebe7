import ProseRules.Proofs.Definition.RoundTrip
import ProseRules.Proofs.Rule.Labels
import ProseRules.Proofs.Rule.Matching
import ProseRules.Proofs.Token.Literal

namespace ProseRules

/-!
# A restored rule matches alike

A rule that is written and loaded again has the matches of the rule whose references go
to the starts of units. The sub-id is not written. A reference of an anti-pattern is not
written either. It was never looked at, but it hid the text and the negation of its token,
which count once it is gone.
-/

namespace Token

/-- The token without a reference, if it accepts any word without one too. -/
def withoutIdleReference (token : Token) : Token :=
  if idle : token.text = "" ∧ token.negated = false then
    { token with
      reference := none
      negation_has_subject := by simp [idle.2] }
  else
    token

theorem operator_withoutIdleReference
    (token : Token) :
    token.withoutIdleReference.operator = token.operator := by
  rw [withoutIdleReference]
  split <;> rfl

theorem wordTest_withoutIdleReference
    (token : Token) :
    token.withoutIdleReference.wordTest = token.wordTest := by
  unfold withoutIdleReference
  split
  · rename_i idle
    simp [wordTest, idle.1]
  · rfl

theorem ofToken_withoutIdleReference
    (token : Token)
    (index : Nat)
    (test : ReadyTest) :
    Step.ofToken token.withoutIdleReference index test = Step.ofToken token index test := by
  unfold withoutIdleReference
  split <;> rfl

/-- Outside of patterns no reference is written. -/
theorem definition_withoutIdleReference
    (token : Token) :
    token.withoutIdleReference.definition none = token.definition none := by
  have noneWritten : ∀ other : Token, other.writtenReference none = [] := by
    intro other
    cases isReference : other.reference <;> simp [writtenReference, isReference]
  unfold withoutIdleReference
  split
  · simp only [definition, definitionEntries_eq, noneWritten]
    rfl
  · rfl

theorem reference_withoutIdleReference
    {token : Token}
    (idle : token.reference ≠ none → token.text = "" ∧ token.negated = false) :
    token.withoutIdleReference.reference = none := by
  unfold withoutIdleReference
  split
  · rfl
  · rename_i notIdle
    by_contra isReference
    exact notIdle (idle isReference)

theorem phrase_withoutIdleReference
    (token : Token) :
    token.withoutIdleReference.phrase = token.phrase := by
  unfold withoutIdleReference
  split <;> rfl

end Token

/-- Idle references do not change the steps of a pattern. -/
theorem Step.ofTokensFrom_map_withoutIdleReference
    (index : Nat)
    (tokens : List Token) :
    ofTokensFrom index (tokens.map Token.withoutIdleReference) = ofTokensFrom index tokens := by
  induction tokens generalizing index with
  | nil =>
      rfl
  | cons token tokens inductionHypothesis =>
      simp only [List.map_cons, ofTokensFrom, Token.wordTest_withoutIdleReference,
        Token.ofToken_withoutIdleReference, inductionHypothesis]

/-- Empty anti-patterns immunize no word. -/
theorem immunizeByAntipatterns_filter
    (antipatterns : List (List Token)) :
    immunizeByAntipatterns (antipatterns.filter (!·.isEmpty)) =
      immunizeByAntipatterns antipatterns := by
  funext sentence
  simp only [immunizeByAntipatterns, List.filter_filter, Bool.and_self]

/-- Anti-patterns immunize the same words without their idle references. -/
theorem immunizeByAntipatterns_map_withoutIdleReference
    (antipatterns : List (List Token)) :
    immunizeByAntipatterns (antipatterns.map (·.map Token.withoutIdleReference)) =
      immunizeByAntipatterns antipatterns := by
  have sameSteps : Step.ofTokens ∘ List.map Token.withoutIdleReference = Step.ofTokens :=
    funext fun tokens => Step.ofTokensFrom_map_withoutIdleReference 0 tokens
  have kept :
      (antipatterns.map (·.map Token.withoutIdleReference)).filter (!·.isEmpty) =
        (antipatterns.filter (!·.isEmpty)).map (·.map Token.withoutIdleReference) := by
    simp [List.filter_map, Function.comp_def]
  funext sentence
  simp only [immunizeByAntipatterns, kept, antipatternIndices, List.mapM_map, sameSteps,
    List.isEmpty_map]

namespace Rule

/-- The rule without the idle references of its anti-patterns. -/
def withoutIdleReferences (rule : Rule) : Rule :=
  { rule with antipatterns := rule.antipatterns.map (·.map Token.withoutIdleReference) }

/-- The rule with every reference of its pattern at the start of a unit. -/
def withStartReferences (rule : Rule) : Rule :=
  { rule with pattern := referringToStarts rule.pattern }

/-- The texts of a rule and the names of its phrases are texts. -/
structure HasTexts (rule : Rule) : Prop where
  id : ∃ text, rule.id = .text text
  /-- The sub-id is a text, or no number that is too long to be written as one. -/
  subId : rule.subId.canBeShown = true
  language : ∃ text, rule.language = .text text
  description : ∃ text, rule.description = .text text
  message : ∃ text, rule.message = .text text
  shortMessage : ∃ text, rule.shortMessage = .text text
  extraSuggestions : ∃ text, rule.extraSuggestions = .text text
  phrases : ∀ token ∈ rule.tokens, ∃ name, token.phrase = .text name
  antipatternPhrases :
    ∀ tokens ∈ rule.antipatterns, ∀ token ∈ tokens, ∃ name, token.phrase = .text name

/-- The references of the anti-patterns stand at tokens that accept any word. -/
def HasIdleReferences (rule : Rule) : Prop :=
  ∀ tokens ∈ rule.antipatterns, ∀ token ∈ tokens,
    token.reference ≠ none → token.text = "" ∧ token.negated = false

theorem definition_withoutIdleReferences
    (rule : Rule) :
    rule.withoutIdleReferences.definition = rule.definition := by
  have sameAntipatterns :
      rule.withoutIdleReferences.writtenAntipatterns = rule.writtenAntipatterns := by
    simp only [writtenAntipatterns, withoutIdleReferences, List.isEmpty_map, List.map_map,
      Function.comp_def, Token.definition_withoutIdleReference]
  rw [definition_eq, definition_eq, definitionEntries, sameAntipatterns]
  rfl

/-- Without idle references there are none in anti-patterns, so the rule can be read again. -/
theorem isReadable_withoutIdleReferences
    {rule : Rule}
    (texts : rule.HasTexts)
    (idle : rule.HasIdleReferences) :
    rule.withoutIdleReferences.IsReadable where
  id := texts.id
  language := texts.language
  description := texts.description
  message := texts.message
  shortMessage := texts.shortMessage
  extraSuggestions := texts.extraSuggestions
  phrases := texts.phrases
  antipatternPhrases := by
    intro _ isAntipattern _ member
    obtain ⟨tokens, inRule, rfl⟩ := List.mem_map.mp isAntipattern
    obtain ⟨token, inTokens, rfl⟩ := List.mem_map.mp member
    rw [Token.phrase_withoutIdleReference]
    exact texts.antipatternPhrases tokens inRule token inTokens
  antipatternReferences := by
    intro _ isAntipattern _ member
    obtain ⟨tokens, inRule, rfl⟩ := List.mem_map.mp isAntipattern
    obtain ⟨token, inTokens, rfl⟩ := List.mem_map.mp member
    exact Token.reference_withoutIdleReference (idle tokens inRule token inTokens)

/-- The bounds are left as they are. -/
theorem hasSigns_withoutIdleReferences
    {rule : Rule}
    (signs : rule.HasSigns) :
    rule.withoutIdleReferences.HasSigns where
  tokens := signs.tokens
  antipatterns := by
    intro token member
    rw [withoutIdleReferences, ← List.map_flatten] at member
    obtain ⟨other, isOther, rfl⟩ := List.mem_map.mp member
    rw [Token.operator_withoutIdleReference]
    exact signs.antipatterns other isOther

/-- Without phrases every token is a unit, so every reference goes to the start of one. -/
theorem refersToStarts_of_no_grouping
    {rule : Rule}
    (noGrouping : rule.usesGrouping = false) :
    rule.RefersToStarts := by
  intro token member
  cases pattern : rule.pattern with
  | absent =>
      simp [Rule.tokens, pattern] at member
  | expression =>
      simp [Rule.tokens, pattern] at member
  | tokens tokens precede =>
      have sizes : rule.unitSizes = List.replicate tokens.length 1 := by
        rw [← tokens_of_pattern pattern]
        exact Token.unitSizes_of_no_grouping noGrouping
      rw [tokens_of_pattern pattern] at member
      refine Token.referringToStart_of_start (fun size => Token.pos_of_mem_unitSizes) ?_
      intro reference isReference
      obtain ⟨index, inside, isToken⟩ := List.getElem_of_mem member
      have inPlace : (token, index) ∈ tokens.zipIdx := by
        rw [List.mk_mem_zipIdx_iff_getElem?, List.getElem?_eq_getElem inside, isToken]
      obtain ⟨notNegative, before⟩ := precede (token, index) inPlace reference isReference
      simp only at before
      refine ⟨reference.toNat, ?_, ?_⟩
      · rw [sizes, List.length_replicate]
        omega
      · rw [sizes, List.take_replicate, List.sum_replicate_nat]
        omega

/-- References that go to the starts of units stay where they are. -/
theorem withStartReferences_of_refersToStarts
    {rule : Rule}
    (refersToStarts : rule.RefersToStarts) :
    rule.withStartReferences = rule := by
  have samePattern : referringToStarts rule.pattern = rule.pattern := by
    cases pattern : rule.pattern with
    | absent =>
        rfl
    | expression =>
        rfl
    | tokens tokens precede =>
        have sameTokens : tokens.map (·.referringToStart (Token.unitSizes tokens)) = tokens := by
          rw [RefersToStarts, unitSizes, tokens_of_pattern pattern] at refersToStarts
          exact (List.map_congr_left refersToStarts).trans (List.map_id' tokens)
        simp only [referringToStarts, sameTokens]
  rw [withStartReferences, samePattern]

/-- The reloaded rule has the matches of the rule with its references at the starts of units. -/
theorem matchesIn_reloaded
    {rule : Rule}
    (defaultImmunizer : rule.ownImmunizer = none)
    (idIsText : ∃ text, rule.id = .text text)
    (canBeShown : rule.subId.canBeShown = true)
    (sentence : Sentence) :
    rule.withoutIdleReferences.reloaded.matchesIn sentence =
      (rule.withStartReferences.matchesIn sentence).map
        (List.map (·.withSubId rule.withoutIdleReferences.reloaded.subId)) := by
  have agrees : rule.withStartReferences.AgreesWith rule.withoutIdleReferences.reloaded := by
    constructor <;> rfl
  refine matchesIn_eq_map agrees sentence ?_ idIsText canBeShown rfl
  have ofAntipatterns :
      rule.withoutIdleReferences.reloaded.immunizer =
        immunizeByAntipatterns (rule.withoutIdleReferences.antipatterns.filter (!·.isEmpty)) :=
    rfl
  have ofRule : rule.withStartReferences.immunizer = immunizeByAntipatterns rule.antipatterns := by
    have noOther : rule.withStartReferences.ownImmunizer = none := defaultImmunizer
    rw [immunizer, noOther]
    rfl
  rw [ofAntipatterns, ofRule, immunizeByAntipatterns_filter]
  exact congrFun (immunizeByAntipatterns_map_withoutIdleReference rule.antipatterns) sentence

/-- The definition of an accepted rule is read as one rule. -/
theorem exists_allRules_definition
    {parts : RuleParts}
    {rule : Rule}
    (made : Rule.ofParts parts = .ok rule)
    (texts : rule.HasTexts)
    (someTokens : parts.tokens ≠ some [])
    (compiledAlone :
      ∀ expression, parts.expression = some (.compiled expression) →
        Regex.Expression.ofSource expression.source = .ok expression)
    (idle : rule.HasIdleReferences)
    (source : String) :
    ∃ notices,
      RuleEntries.allRules ⟨source, rule.language, []⟩ rule.definition =
        .ok ⟨[rule.withoutIdleReferences.reloaded], notices⟩ := by
  have readable := isReadable_withoutIdleReferences texts idle
  have signs := hasSigns_withoutIdleReferences (hasSigns_of_ofParts made)
  rw [← definition_withoutIdleReferences, allRules_definition]
  obtain ⟨pattern, accepted, rfl⟩ := exists_pattern_of_ofParts made
  obtain ⟨tokens, precede, isTokens, _, _, rfl⟩ |
    ⟨given, expression, mark, markExists, _, isGiven, read, rfl⟩ | ⟨_, _, rfl⟩ :=
      patternOf_cases accepted
  · have notEmpty : tokens ≠ [] := by
      rintro rfl
      exact someTokens isTokens
    exact ⟨[], rules_definitionEntries_of_tokens readable _ signs rfl rfl notEmpty⟩
  · have readAlone : Regex.Expression.ofSource expression.source = .ok expression := by
      cases given with
      | compiled expression' =>
          cases read
          exact compiledAlone expression isGiven
      | source value =>
          cases value with
          | text source =>
              exact ofSource_of_readExpression read
          | _ =>
              cases read
    exact ⟨[], rules_definitionEntries_of_expression readable _ signs rfl rfl readAlone⟩
  · exact ⟨_, rules_definitionEntries_of_absent readable _ signs rfl rfl⟩

/-- The matches of a rule in a sentence, whatever its sub-id is, or its failure. -/
def outcomeIn (rule : Rule) (sentence : Sentence) : Except Failure (List RuleMatch) :=
  (rule.matchesIn sentence).map (List.map (·.withSubId .null))

/-- The document of a rule is read as one rule with the outcomes of another one. -/
def ReloadsLike (rule like : Rule) (source : String) : Prop :=
  ∃ restored notices,
    rulesOfEntries source ""
        [(.text "language", rule.language), (.text "rules", .list [rule.definition])] =
      .ok ⟨[restored], notices⟩ ∧
    ∀ sentence, restored.outcomeIn sentence = like.outcomeIn sentence

theorem outcomeIn_reloaded
    {rule : Rule}
    (defaultImmunizer : rule.ownImmunizer = none)
    (idIsText : ∃ text, rule.id = .text text)
    (canBeShown : rule.subId.canBeShown = true)
    (sentence : Sentence) :
    rule.withoutIdleReferences.reloaded.outcomeIn sentence =
      rule.withStartReferences.outcomeIn sentence := by
  rw [outcomeIn, matchesIn_reloaded defaultImmunizer idIsText canBeShown, outcomeIn]
  cases rule.withStartReferences.matchesIn sentence with
  | error failure =>
      rfl
  | ok found =>
      simp [Except.map, RuleMatch.withSubId]

/-- An accepted rule is restored by one that refers to the starts of units. -/
theorem reloadsLike_of_ofParts
    {parts : RuleParts}
    {rule : Rule}
    (made : Rule.ofParts parts = .ok rule)
    (defaultImmunizer : parts.ownImmunizer = none)
    (texts : rule.HasTexts)
    (someTokens : parts.tokens ≠ some [])
    (compiledAlone :
      ∀ expression, parts.expression = some (.compiled expression) →
        Regex.Expression.ofSource expression.source = .ok expression)
    (idle : rule.HasIdleReferences)
    (source : String) :
    rule.ReloadsLike rule.withStartReferences source := by
  obtain ⟨notices, read⟩ :=
    exists_allRules_definition made texts someTokens compiledAlone idle source
  have noOtherImmunizer : rule.ownImmunizer = none := by
    obtain ⟨pattern, _, rfl⟩ := exists_pattern_of_ofParts made
    exact defaultImmunizer
  exact
    ⟨_, notices, (rulesOfEntries_document rule source).trans read,
      outcomeIn_reloaded noOtherImmunizer texts.id texts.subId⟩

/-- A rule given by its pattern alone has texts if the phrases are texts. -/
theorem hasTexts_ofPattern
    {pattern : RulePattern}
    (phrases : ∀ token ∈ (ofPattern {} pattern).tokens, ∃ name, token.phrase = .text name) :
    (ofPattern {} pattern).HasTexts where
  id := ⟨_, rfl⟩
  subId := rfl
  language := ⟨_, rfl⟩
  description := ⟨_, rfl⟩
  message := ⟨_, rfl⟩
  shortMessage := ⟨_, rfl⟩
  extraSuggestions := ⟨_, rfl⟩
  phrases := phrases
  antipatternPhrases := by simp [ofPattern]

theorem phrases_repeatedName :
    ∀ token ∈ repeatedName, ∃ name, token.phrase = .text name := by
  simp [repeatedName, Token.placeholder]

/--
The document of an accepted rule is read as one rule, with the outcomes of the rule with
its references at the starts of units. These are the outcomes of the rule itself if its
references go there anyway, as they do without phrases.
-/
theorem reloadsLike_withStartReferences
    {parts : RuleParts}
    {rule : Rule}
    (made : Rule.ofParts parts = .ok rule)
    (defaultImmunizer : parts.ownImmunizer = none)
    (texts : rule.HasTexts)
    (someTokens : parts.tokens ≠ some [])
    (compiledAlone :
      ∀ expression, parts.expression = some (.compiled expression) →
        Regex.Expression.ofSource expression.source = .ok expression)
    (idle : rule.HasIdleReferences)
    (source : String) :
    rule.ReloadsLike rule.withStartReferences source ∧
      (rule.usesGrouping = false ∨ rule.RefersToStarts → rule.ReloadsLike rule source) := by
  have reloadsLike :=
    reloadsLike_of_ofParts made defaultImmunizer texts someTokens compiledAlone idle source
  refine ⟨reloadsLike, fun startsAnyway => ?_⟩
  have refersToStarts : rule.RefersToStarts := startsAnyway.elim refersToStarts_of_no_grouping (·)
  rwa [withStartReferences_of_refersToStarts refersToStarts] at reloadsLike

/-- The token as a repetition of the first one. -/
def repeatingFirst (token : Token) : Token :=
  { token with
    reference := some 0
    negation_has_subject := by simp }

/-- A word and the same word again. -/
def repeatedWord : List Token :=
  [.placeholder (.text ""), repeatingFirst (.placeholder (.text ""))]

/--
A name that is repeated is looked for from its first word on, and a word that is repeated
is looked for as before, also in an anti-pattern.
-/
theorem reloadsLike_of_repetitions :
    (∃ rule,
        Rule.ofParts { tokens := some repeatedName } = .ok rule ∧
          rule.ReloadsLike rule.withStartReferences "<string>") ∧
      ∃ rule,
        Rule.ofParts { tokens := some repeatedWord, antipatterns := [repeatedWord] } = .ok rule ∧
          rule.ReloadsLike rule "<string>" := by
  constructor
  · have precede : referencesPrecede repeatedName := badReference?_eq_none_iff.mp (by decide)
    have signs : HaveSigns repeatedName := requireSigns_eq_ok_iff.mp rfl
    have texts : (withTokens repeatedName precede).HasTexts :=
      hasTexts_ofPattern phrases_repeatedName
    obtain ⟨reloadsLike, _⟩ :=
      reloadsLike_withStartReferences (ofParts_tokens precede signs) rfl texts
        (by simp [repeatedName]) (by simp) (by simp [HasIdleReferences, withTokens, ofPattern])
        "<string>"
    exact ⟨_, ofParts_tokens precede signs, reloadsLike⟩
  · have precede : referencesPrecede repeatedWord := badReference?_eq_none_iff.mp (by decide)
    have made :
        Rule.ofParts { tokens := some repeatedWord, antipatterns := [repeatedWord] } =
          .ok (ofPattern { antipatterns := [repeatedWord] } (.tokens repeatedWord precede)) := by
      rfl
    have phrases : ∀ token ∈ repeatedWord, ∃ name, token.phrase = .text name := by
      simp [repeatedWord, repeatingFirst, Token.placeholder]
    have texts :
        (ofPattern { antipatterns := [repeatedWord] } (.tokens repeatedWord precede)).HasTexts := by
      constructor
      case phrases => exact phrases
      case antipatternPhrases => simpa [ofPattern] using fun _ => phrases
      case subId => rfl
      all_goals exact ⟨_, rfl⟩
    obtain ⟨_, reloadsLike⟩ :=
      reloadsLike_withStartReferences made rfl texts (by simp [repeatedWord]) (by simp)
        (by simp [HasIdleReferences, ofPattern, repeatedWord, repeatingFirst, Token.placeholder])
        "<string>"
    exact ⟨_, made, reloadsLike (.inl rfl)⟩

/-- A rule is not restored if it is written like one that is read with another outcome. -/
theorem not_reloadsLike_of_outcomeIn_ne
    {rule other like : Rule}
    {source : String}
    (reloads : other.ReloadsLike like source)
    (sameLanguage : rule.language = other.language)
    (sameDefinition : rule.definition = other.definition)
    (sentence : Sentence)
    (differ : like.outcomeIn sentence ≠ rule.outcomeIn sentence) :
    ¬rule.ReloadsLike rule source := by
  obtain ⟨_, _, otherRead, otherSame⟩ := reloads
  rintro ⟨_, _, read, same⟩
  rw [sameLanguage, sameDefinition, otherRead] at read
  cases read
  exact differ ((otherSame sentence).symm.trans (same sentence))

/-- Rules have different outcomes if one of them finds more. -/
theorem outcomeIn_ne_of_length
    {rule other : Rule}
    {sentence : Sentence}
    (differ :
      (other.matchesIn sentence).toOption.map List.length ≠
        (rule.matchesIn sentence).toOption.map List.length) :
    other.outcomeIn sentence ≠ rule.outcomeIn sentence := by
  have sameLength :
      ∀ rule' : Rule,
        (rule'.outcomeIn sentence).toOption.map List.length =
          (rule'.matchesIn sentence).toOption.map List.length := by
    intro rule'
    rw [outcomeIn]
    cases rule'.matchesIn sentence <;> simp [Except.map, Except.toOption]
  intro same
  rw [← sameLength, ← sameLength, same] at differ
  exact differ rfl

/-- A rule given by its pattern alone is restored, as it has no anti-patterns. -/
theorem reloadsLike_ofPattern
    {parts : RuleParts}
    {pattern : RulePattern}
    (made : Rule.ofParts parts = .ok (ofPattern {} pattern))
    (defaultImmunizer : parts.ownImmunizer = none)
    (phrases : ∀ token ∈ (ofPattern {} pattern).tokens, ∃ name, token.phrase = .text name)
    (someTokens : parts.tokens ≠ some [])
    (compiledAlone :
      ∀ expression, parts.expression = some (.compiled expression) →
        Regex.Expression.ofSource expression.source = .ok expression)
    (source : String) :
    (ofPattern {} pattern).ReloadsLike (ofPattern {} pattern).withStartReferences source := by
  have idle : (ofPattern {} pattern).HasIdleReferences := by
    simp [HasIdleReferences, ofPattern]
  exact
    reloadsLike_of_ofParts made defaultImmunizer (hasTexts_ofPattern phrases) someTokens
      compiledAlone idle source

/-- The second word of a phrase and the same word again. -/
def phraseThenRepetition : List Word :=
  [{ text := "x" }, { text := "y" }, { text := "y" }]

/-- Restored, a reference to the second word of a phrase goes to its first one. -/
theorem not_reloadsLike_repeatedName
    (precede : referencesPrecede repeatedName) :
    ¬(withTokens repeatedName precede).ReloadsLike (withTokens repeatedName precede)
      "<string>" := by
  have accepted :
      acceptedCandidates repeatedName phraseThenRepetition = .ok [⟨0, [0, 1, 2]⟩] := by
    rfl
  obtain ⟨found, hasFound, someFound⟩ :=
    exists_matchesIn_of_accepted precede accepted (by simp [repeatedName]) (by simp)
  have noneAccepted :
      acceptedCandidates (repeatedName.map (·.referringToStart (Token.unitSizes repeatedName)))
          phraseThenRepetition = .ok [] := by
    have sizes : Token.unitSizes repeatedName = [2, 1] := by decide +kernel
    rw [sizes]
    rfl
  have noneFound :
      (withTokens repeatedName precede).withStartReferences.matchesIn
          { words := phraseThenRepetition } = .ok [] :=
    matchesIn_of_no_accepted _ noneAccepted
  have reloads :
      (withTokens repeatedName precede).ReloadsLike
        (withTokens repeatedName precede).withStartReferences "<string>" :=
    reloadsLike_ofPattern (ofParts_tokens precede (requireSigns_eq_ok_iff.mp rfl)) rfl
      phrases_repeatedName (by simp [repeatedName]) (by simp) "<string>"
  refine not_reloadsLike_of_outcomeIn_ne reloads rfl rfl { words := phraseThenRepetition }
    (outcomeIn_ne_of_length ?_)
  rw [noneFound, hasFound]
  simpa [Except.toOption, eq_comm] using someFound

/-- A rule without a pattern. -/
def withoutPattern : Rule :=
  ofPattern {} .absent

/-- An empty row of tokens is written like no pattern at all, which cannot be matched. -/
theorem not_reloadsLike_no_tokens
    (precede : referencesPrecede []) :
    ¬(withTokens [] precede).ReloadsLike (withTokens [] precede) "<string>" := by
  have made : Rule.ofParts {} = .ok withoutPattern := rfl
  have reloads : withoutPattern.ReloadsLike withoutPattern "<string>" :=
    reloadsLike_ofPattern made rfl (by simp [ofPattern, tokens]) (by simp) (by simp) "<string>"
  have sameDefinition : (withTokens [] precede).definition = withoutPattern.definition := rfl
  have refused :
      withoutPattern.outcomeIn { words := [] } = .error (.definition (.noPattern "R")) := by
    rfl
  have noneFound : (withTokens [] precede).outcomeIn { words := [] } = .ok [] := by
    rfl
  refine not_reloadsLike_of_outcomeIn_ne reloads rfl sameDefinition { words := [] } ?_
  rw [refused, noneFound]
  simp

/-- The letter a, with or without regard to case. -/
def letterA (ignoreCase : Bool) : Regex.Expression where
  source := "a"
  flags := { ignoreCase := ignoreCase, allScripts := true }
  groups := 0
  tree := .character { ignoreCase := ignoreCase, plain := false } (.single 97 false)

/-- A rule of an expression. -/
def withExpression (expression : Regex.Expression) : Rule :=
  ofPattern {} (.expression expression 0 (Nat.zero_le _))

theorem ofParts_compiled
    (expression : Regex.Expression) :
    Rule.ofParts { expression := some (.compiled expression) } =
      .ok (withExpression expression) := by
  refine ofParts_of_patternOf (by simp) (by simp) (by simp) (requireSigns_eq_ok_iff.mp rfl) ?_
  simp [patternOf, readExpression, expressionPattern, bind, Except.bind]

/-- An expression is written without its flags. -/
theorem not_reloadsLike_letterA :
    ¬(withExpression (letterA true)).ReloadsLike (withExpression (letterA true)) "<string>" := by
  have readAlone : Regex.Expression.ofSource "a" = .ok (letterA false) := by
    decide +kernel
  have reloads :
      (withExpression (letterA false)).ReloadsLike (withExpression (letterA false)) "<string>" := by
    refine reloadsLike_ofPattern (ofParts_compiled _) rfl (by simp [ofPattern, tokens]) (by simp)
      ?_ "<string>"
    intro expression isGiven
    cases isGiven
    exact readAlone
  refine not_reloadsLike_of_outcomeIn_ne reloads rfl rfl { words := [{ text := "A" }] }
    (outcomeIn_ne_of_length ?_)
  decide +kernel

/-- A token that does not repeat the first one. -/
def notSameAsFirst : Token :=
  { Token.placeholder (.text "") with
    negated := true
    reference := some 0
    negation_has_subject := by simp }

/-- A rule of any word with an anti-pattern. -/
def anyWordExcept (antipattern : List Token) : Rule :=
  ofPattern { antipatterns := [antipattern] }
    (.tokens [.placeholder (.text "")] (badReference?_eq_none_iff.mp (by decide)))

/-- A negated reference of an anti-pattern is written as the negation of nothing. -/
theorem not_reloadsLike_notSameAsFirst :
    ¬(anyWordExcept [.placeholder (.text ""), notSameAsFirst]).ReloadsLike
      (anyWordExcept [.placeholder (.text ""), notSameAsFirst]) "<string>" := by
  rintro ⟨restored, notices, read, _⟩
  rw [rulesOfEntries_document, allRules_definition] at read
  obtain ⟨readTokens, isRead⟩ := exists_antipatternOf_of_rules _ read List.mem_cons_self
  have refused :
      (antipatternOf ⟨"<string>", .text "R"⟩
          (.list ([.placeholder (.text ""), notSameAsFirst].map fun token =>
            token.definition none))).toOption.isSome = false := by
    decide +kernel
  have isRead' :
      antipatternOf ⟨"<string>", .text "R"⟩
          (.list ([.placeholder (.text ""), notSameAsFirst].map fun token =>
            token.definition none)) = .ok readTokens :=
    isRead
  rw [isRead'] at refused
  cases refused

/-- A rule with an anti-pattern of any two words, as the text of the second one does not count. -/
def exceptRepetition : Rule :=
  anyWordExcept [.placeholder (.text ""), repeatingFirst (.literal "b" false false)]

/-- A rule with an anti-pattern of any word before a literal. -/
def exceptLiteral : Rule :=
  anyWordExcept [.placeholder (.text ""), .literal "b" false false]

/-- Two words, the second of which is not the literal. -/
def otherTwoWords : Sentence where
  words := [{ text := "a" }, { text := "c" }]

theorem matchesIn_exceptRepetition :
    exceptRepetition.matchesIn otherTwoWords = .ok [] := by
  have immunizes :
      exceptRepetition.immunizer otherTwoWords =
        .ok { otherTwoWords with immunized := [0, 1] } := by
    rfl
  have accepted :
      acceptedCandidates exceptRepetition.tokens otherTwoWords.words =
        .ok [⟨0, [0]⟩, ⟨1, [0]⟩] := by
    rfl
  have noneAllowed :
      exceptRepetition.withoutImmunized (.ofRule exceptRepetition)
          { otherTwoWords with immunized := [0, 1] } [⟨0, [0]⟩, ⟨1, [0]⟩] = .ok [] := by
    rfl
  have matched :
      exceptRepetition.matchTokens exceptRepetition.tokens
          { otherTwoWords with immunized := [0, 1] } = .ok [] := by
    have someTokens : exceptRepetition.tokens.isEmpty = false := rfl
    simp [matchTokens, someTokens, accepted, noneAllowed, Candidate.longestFirst, bind,
      Except.bind, pure, Except.pure]
  exact matchesIn_of_immunized rfl immunizes matched

theorem exists_matchesIn_exceptLiteral :
    ∃ found, exceptLiteral.matchesIn otherTwoWords = .ok found ∧ found ≠ [] := by
  have immunizes : exceptLiteral.immunizer otherTwoWords = .ok otherTwoWords := by
    rfl
  have builds :
      ∀ span wordSpan reference,
        ∃ ruleMatch,
          exceptLiteral.buildMatch otherTwoWords span wordSpan reference = .ok ruleMatch :=
    fun _ _ _ => ⟨_, rfl⟩
  have compiled : Step.ofTokens exceptLiteral.tokens = .ok [⟨.once, 0, .any⟩] := by
    rfl
  have accepted :
      (candidates [[⟨.once, 0, .any⟩]] otherTwoWords.words).filter
          (referencesHold otherTwoWords.words exceptLiteral.tokens) =
        [⟨0, [0]⟩, ⟨1, [0]⟩] := by
    rfl
  obtain ⟨found, matched, sameLength⟩ :
      ∃ found,
        exceptLiteral.matchTokens exceptLiteral.tokens otherTwoWords = .ok found ∧
          found.length =
            (Candidate.longestFirst
              ((candidates [[⟨.once, 0, .any⟩]] otherTwoWords.words).filter
                (referencesHold otherTwoWords.words exceptLiteral.tokens))).length :=
    exists_matchTokens_of_compiled (exists_marked_of_no_corrections rfl rfl _) rfl builds
      (List.cons_ne_nil _ _) compiled
  rw [accepted] at sameLength
  refine ⟨found, matchesIn_of_immunized rfl immunizes matched, ?_⟩
  rintro rfl
  exact
    Candidate.longestFirst_ne_nil (List.cons_ne_nil _ _)
      (List.eq_nil_of_length_eq_zero sameLength.symm)

/-- The text of a token that refers back in an anti-pattern counts once it is restored. -/
theorem not_reloadsLike_exceptRepetition :
    ¬exceptRepetition.ReloadsLike exceptRepetition "<string>" := by
  have made :
      Rule.ofParts
          { tokens := some [.placeholder (.text "")]
            antipatterns := [[.placeholder (.text ""), .literal "b" false false]] } =
        .ok exceptLiteral := by
    rfl
  have texts : exceptLiteral.HasTexts := by
    constructor
    case phrases => simp [exceptLiteral, anyWordExcept, ofPattern, tokens, Token.placeholder]
    case antipatternPhrases =>
      simp [exceptLiteral, anyWordExcept, ofPattern, Token.placeholder, Token.literal]
    case subId => rfl
    all_goals exact ⟨_, rfl⟩
  have idle : exceptLiteral.HasIdleReferences := by
    simp [HasIdleReferences, exceptLiteral, anyWordExcept, ofPattern, Token.placeholder,
      Token.literal]
  have reloads : exceptLiteral.ReloadsLike exceptLiteral.withStartReferences "<string>" :=
    reloadsLike_of_ofParts made rfl texts (by simp) (by simp) idle "<string>"
  rw [withStartReferences_of_refersToStarts (refersToStarts_of_no_grouping rfl)] at reloads
  obtain ⟨found, hasFound, someFound⟩ := exists_matchesIn_exceptLiteral
  refine not_reloadsLike_of_outcomeIn_ne reloads rfl rfl otherTwoWords (outcomeIn_ne_of_length ?_)
  rw [matchesIn_exceptRepetition, hasFound]
  simpa [Except.toOption] using someFound

/--
Some accepted rules are not restored: a reference into a phrase, an empty row of tokens,
the flags of an expression, and in an anti-pattern a negated reference or one with a text.
-/
theorem exists_not_reloadsLike :
    (∃ rule,
        Rule.ofParts { tokens := some repeatedName } = .ok rule ∧
          ¬rule.ReloadsLike rule "<string>") ∧
      (∃ rule, Rule.ofParts { tokens := some [] } = .ok rule ∧ ¬rule.ReloadsLike rule "<string>") ∧
      (∃ expression rule,
        Regex.Expression.ofSource "a" { ignoreCase := true } = .ok expression ∧
          Rule.ofParts { expression := some (.compiled expression) } = .ok rule ∧
            ¬rule.ReloadsLike rule "<string>") ∧
      (∃ rule,
        Rule.ofParts
            { tokens := some [.placeholder (.text "")]
              antipatterns := [[.placeholder (.text ""), notSameAsFirst]] } = .ok rule ∧
          ¬rule.ReloadsLike rule "<string>") ∧
      ∃ rule,
        Rule.ofParts
            { tokens := some [.placeholder (.text "")]
              antipatterns :=
                [[.placeholder (.text ""), repeatingFirst (.literal "b" false false)]] } =
            .ok rule ∧
          ¬rule.ReloadsLike rule "<string>" := by
  have precede : referencesPrecede repeatedName := badReference?_eq_none_iff.mp (by decide)
  have nonePrecede : referencesPrecede [] := badReference?_eq_none_iff.mp (by decide)
  have signs : HaveSigns repeatedName := requireSigns_eq_ok_iff.mp rfl
  have noSigns : HaveSigns [] := requireSigns_eq_ok_iff.mp rfl
  refine ⟨⟨_, ofParts_tokens precede signs, not_reloadsLike_repeatedName precede⟩,
    ⟨_, ofParts_tokens nonePrecede noSigns, not_reloadsLike_no_tokens nonePrecede⟩,
    ⟨letterA true, _, by decide +kernel, ofParts_compiled _, not_reloadsLike_letterA⟩,
    ⟨_, rfl, not_reloadsLike_notSameAsFirst⟩, ⟨_, rfl, not_reloadsLike_exceptRepetition⟩⟩

end Rule

end ProseRules
