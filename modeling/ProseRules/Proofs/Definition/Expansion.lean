import ProseRules.Proofs.Definition.Combinations
import ProseRules.Proofs.Definition.References

namespace ProseRules

/-!
# Rules of a pattern with phrases

The elements of a pattern are plain tokens and references to phrases. A definition has one
rule for each way to choose an alternative of every phrase, with the tokens chosen one after
another. A plain token belongs to the phrase it names itself, a chosen one to the phrase
that it is an alternative of.
-/

/-- A definition of a token with the phrase that it belongs to. -/
abbrev TokenPart : Type :=
  Value × Value

/-- What an element of a pattern offers: its own token, or the alternatives of a phrase. -/
inductive Offers (phrases : PhraseTable) : Value → List (List TokenPart) → Prop where
  | text (text : String) :
      Offers phrases (.text text) [[(.text text, .text "")]]
  | mapping (entries : TokenEntries)
      (isPlain : Value.field? "phraseref" entries = none) :
      Offers phrases (.mapping entries)
        [[(.mapping entries, Value.fieldOr "phrase" (.text "") entries)]]
  | phrase (entries : TokenEntries) (name : Value) (alternatives : List (List Value))
      (isReference : Value.field? "phraseref" entries = some name)
      (isKey : name.isKey = true)
      (isDefined : Value.lookup? name phrases = some (.list (alternatives.map Value.list))) :
      Offers phrases (.mapping entries)
        (alternatives.map fun parts => parts.map fun part => (part, name))

/-- The tokens are read from definitions one by one, with references to units of them all. -/
def AreTokensOf (place : DefinitionPlace) (parts : List TokenPart) (tokens : List Token) : Prop :=
  List.Forall₂
    (fun part token =>
      ∃ entries,
        TokenEntries.ofValue place part.1 = .ok entries ∧
          entries.token place part.2 (some (unitOffsets (Token.unitSizes tokens))) = .ok token ∧
            token.phrase = part.2)
    parts tokens

/-- The rule has what a definition says apart from its pattern. -/
structure Rule.TakesOver (rule : Rule) (context : DefinitionContext) (ruleId ruleSubId : Value)
    (entries : RuleEntries) : Prop where
  id : rule.id = ruleId
  subId : rule.subId = ruleSubId
  language : rule.language = context.language
  description : rule.description = Value.fieldOr "description" (.text "") entries
  message : Value.field? "message" entries = some rule.message
  shortMessage : rule.shortMessage = Value.fieldOr "short_message" (.text "") entries
  extraSuggestions : rule.extraSuggestions = Value.fieldOr "suggestions_out_msg" (.text "") entries
  antipatterns :
    ∃ given,
      RuleEntries.antipatterns ⟨context.source, ruleId⟩ entries = .ok given ∧
        rule.antipatterns = given.filter (!·.isEmpty)
  startCorrection :
    RuleEntries.correction "from" (Value.fieldOr "mark" .null entries) = .ok rule.startCorrection
  endCorrection :
    RuleEntries.correction "to" (Value.fieldOr "mark" .null entries) = .ok rule.endCorrection
  noOwnImmunizer : rule.ownImmunizer = none

/-- The rules are those of all combinations of choices, the last choice varying fastest. -/
structure AreExpansions (context : DefinitionContext) (id subId : Value) (entries : RuleEntries)
    (choices : List (List (List TokenPart))) (rules : List Rule) : Prop where
  count : rules.length = combinationCount choices
  ofPicks :
    ∀ picks,
      ArePicks choices picks →
        ∃ rule tokens precede,
          rules[combinationPlace choices picks]? = some rule ∧
            rule.pattern = .tokens tokens precede ∧
              AreTokensOf ⟨context.source, id⟩ (picked choices picks).flatten tokens
  noOthers :
    ∀ place < rules.length,
      ∃! picks, ArePicks choices picks ∧ combinationPlace choices picks = place
  isAlternative : ∀ rule ∈ rules, rule.isAlternative = true ↔ 1 < combinationCount choices
  takesOver : ∀ rule ∈ rules, rule.TakesOver context id subId entries

/--
The definition is accepted: what it says apart from its pattern can be read, and so can the
elements and the tokens of every combination, whose references go to earlier tokens. All bounds
of tokens can be written.
-/
structure RuleEntries.IsAccepted (context : DefinitionContext) (id subId : Value)
    (entries : RuleEntries) (elements : List Value) (choices : List (List (List TokenPart))) :
    Prop where
  knownKeys :
    DefinitionPlace.requireKnown ⟨context.source, id⟩ RuleEntries.knownKeys .unknownRuleKeys
        entries =
      .ok ()
  noExpression : Value.field? "regex" entries = none
  common :
    ∃ message parts,
      Value.field? "message" entries = some message ∧
        RuleEntries.commonParts context ⟨context.source, id⟩ subId message entries = .ok parts ∧
          (0 < combinationCount choices →
            (parts.message ≠ .null ∧
                parts.shortMessage ≠ .null ∧ parts.extraSuggestions ≠ .null) ∧
              Rule.HaveSigns parts.antipatterns.flatten)
  elements :
    ∀ element ∈ elements, ∃ read, TokenEntries.ofValue ⟨context.source, id⟩ element = .ok read
  alternatives :
    ∀ offered ∈ choices, ∀ parts ∈ offered, ∀ part ∈ parts,
      ∃ read, TokenEntries.ofValue ⟨context.source, id⟩ part.1 = .ok read
  tokens :
    ∀ picks,
      ArePicks choices picks →
        ∃ tokens,
          AreTokensOf ⟨context.source, id⟩ (picked choices picks).flatten tokens ∧
            referencesPrecede tokens ∧ Rule.HaveSigns tokens

section Placed

variable {place : DefinitionPlace} {phrases : PhraseTable}

/-- A placed token was read from a definition and belongs to its phrase. -/
def IsPlaced (place : DefinitionPlace) (part : TokenPart) (placed : PlacedToken) : Prop :=
  TokenEntries.ofValue place part.1 = .ok placed.entries ∧ placed.phrase = part.2

/-- A plain element leaves no choice. -/
theorem choicesOf_of_plain
    {element : Value}
    {entries : TokenEntries}
    (isEntries : TokenEntries.ofValue place element = .ok entries)
    (isPlain : Value.field? "phraseref" entries = none) :
    phrases.choicesOf place element = .ok [[⟨entries, entries.ownPhrase⟩]] := by
  simp [PhraseTable.choicesOf, isEntries, isPlain, bind, Except.bind, pure, Except.pure]

/-- A reference to a phrase leaves the choice of its alternatives. -/
theorem choicesOf_of_reference
    {element name : Value}
    {entries : TokenEntries}
    {alternatives : List Value}
    (isEntries : TokenEntries.ofValue place element = .ok entries)
    (isReference : Value.field? "phraseref" entries = some name)
    (isKey : name.isKey = true)
    (isDefined : Value.lookup? name phrases = some (.list alternatives)) :
    phrases.choicesOf place element =
      alternatives.mapM (PhraseTable.placedAlternative place name) := by
  simp [PhraseTable.choicesOf, PhraseTable.alternatives, isEntries, isReference, isKey, isDefined,
    Value.elements, bind, Except.bind, pure, Except.pure]

/-- The tokens of an alternative are read one by one and belong to its phrase. -/
theorem forall₂_isPlaced_of_placedAlternative
    {name : Value}
    {parts : List Value}
    {placed : List PlacedToken}
    (read : PhraseTable.placedAlternative place name (.list parts) = .ok placed) :
    List.Forall₂ (IsPlaced place) (parts.map fun part => (part, name)) placed := by
  obtain ⟨elements, isElements, readParts⟩ := Outcome.bind_eq_ok_iff.mp read
  cases isElements
  rw [Outcome.mapM_eq_ok_iff] at readParts
  rw [List.forall₂_map_left_iff]
  refine readParts.imp fun part token readPart => ?_
  obtain ⟨entries, isEntries, result⟩ := Outcome.bind_eq_ok_iff.mp readPart
  cases result
  exact ⟨isEntries, rfl⟩

/-- The choices that are read for an element are those that it offers. -/
theorem forall₂_isPlaced_of_choicesOf
    {element : Value}
    {offered : List (List TokenPart)}
    (offers : Offers phrases element offered)
    {choices : List (List PlacedToken)}
    (read : phrases.choicesOf place element = .ok choices) :
    List.Forall₂ (List.Forall₂ (IsPlaced place)) offered choices := by
  obtain ⟨entries, isEntries, _⟩ := Outcome.bind_eq_ok_iff.mp read
  cases offers with
  | text text =>
      cases isEntries
      rw [choicesOf_of_plain rfl (by simp)] at read
      cases read
      refine .cons (.cons ⟨rfl, ?_⟩ .nil) .nil
      simp [TokenEntries.ownPhrase, Value.fieldOr]
  | mapping given isPlain =>
      obtain rfl := TokenEntries.eq_of_ofValue_mapping isEntries
      rw [choicesOf_of_plain isEntries isPlain] at read
      cases read
      exact .cons (.cons ⟨isEntries, rfl⟩ .nil) .nil
  | phrase given name alternatives isReference isKey isDefined =>
      obtain rfl := TokenEntries.eq_of_ofValue_mapping isEntries
      rw [choicesOf_of_reference isEntries isReference isKey isDefined, Outcome.mapM_eq_ok_iff,
        List.forall₂_map_left_iff] at read
      rw [List.forall₂_map_left_iff]
      exact read.imp fun _ _ => forall₂_isPlaced_of_placedAlternative

theorem exists_placedAlternative
    (name : Value)
    {parts : List Value}
    (readable : ∀ part ∈ parts, ∃ entries, TokenEntries.ofValue place part = .ok entries) :
    ∃ placed, PhraseTable.placedAlternative place name (.list parts) = .ok placed := by
  have eachPlaced :
      ∀ part ∈ parts,
        ∃ placed : PlacedToken,
          (do return ⟨← TokenEntries.ofValue place part, name⟩) =
            (.ok placed : Except Failure PlacedToken) := by
    intro part member
    obtain ⟨entries, isEntries⟩ := readable part member
    exact ⟨⟨entries, name⟩, by rw [isEntries]; rfl⟩
  obtain ⟨placed, succeeds, _⟩ := Outcome.exists_mapM_eq_ok eachPlaced
  exact ⟨placed, succeeds⟩

/-- The choices of an element are read if it and all that it offers can be read. -/
theorem exists_choicesOf
    {element : Value}
    {offered : List (List TokenPart)}
    (offers : Offers phrases element offered)
    (elementReads : ∃ entries, TokenEntries.ofValue place element = .ok entries)
    (readable :
      ∀ parts ∈ offered, ∀ part ∈ parts,
        ∃ entries, TokenEntries.ofValue place part.1 = .ok entries) :
    ∃ choices, phrases.choicesOf place element = .ok choices := by
  obtain ⟨entries, isEntries⟩ := elementReads
  cases offers with
  | text text =>
      cases isEntries
      exact ⟨_, choicesOf_of_plain rfl (by simp)⟩
  | mapping given isPlain =>
      obtain rfl := TokenEntries.eq_of_ofValue_mapping isEntries
      exact ⟨_, choicesOf_of_plain isEntries isPlain⟩
  | phrase given name alternatives isReference isKey isDefined =>
      obtain rfl := TokenEntries.eq_of_ofValue_mapping isEntries
      rw [choicesOf_of_reference isEntries isReference isKey isDefined]
      have eachReads :
          ∀ alternative ∈ alternatives.map Value.list,
            ∃ placed, PhraseTable.placedAlternative place name alternative = .ok placed := by
        intro alternative member
        obtain ⟨parts, isAlternative, rfl⟩ := List.mem_map.mp member
        refine exists_placedAlternative name fun part isPart => ?_
        exact readable _ (List.mem_map_of_mem isAlternative) _ (List.mem_map_of_mem isPart)
      obtain ⟨choices, readAlternatives, _⟩ := Outcome.exists_mapM_eq_ok eachReads
      exact ⟨choices, readAlternatives⟩

/-- The tokens of a combination are those of its definitions. -/
theorem tokensOf_eq_ok_iff
    {parts : List TokenPart}
    {placed : List PlacedToken}
    (arePlaced : List.Forall₂ (IsPlaced place) parts placed)
    {tokens : List Token} :
    tokensOf place placed = .ok tokens ↔ AreTokensOf place parts tokens := by
  constructor
  · intro read
    have sameOffsets := placedOffsets_of_tokensOf read
    rw [tokensOf, sameOffsets] at read
    refine Outcome.forall₂_of_mapM (fun part placedToken token isPlaced readToken => ?_)
      arePlaced read
    obtain ⟨isEntries, isPhrase⟩ := isPlaced
    rw [← isPhrase]
    exact ⟨_, isEntries, readToken, (TokenEntries.isReadAs_of_token readToken).phrase⟩
  · intro areTokens
    have readTokens :
        List.Forall₂
          (fun placedToken token =>
            placedToken.entries.token place placedToken.phrase
                (some (unitOffsets (Token.unitSizes tokens))) =
              .ok token ∧
              placedToken.phrase = token.phrase)
          placed tokens := by
      refine Outcome.forall₂_of_common (fun part placedToken token isPlaced isToken => ?_)
        arePlaced areTokens
      obtain ⟨isEntries, isPhrase⟩ := isPlaced
      obtain ⟨entries, sameEntries, readToken, tokenPhrase⟩ := isToken
      rw [isEntries, Except.ok.injEq] at sameEntries
      rw [sameEntries, isPhrase]
      exact ⟨readToken, tokenPhrase.symm⟩
    have samePhrases : placed.map (·.phrase) = tokens.map (·.phrase) := by
      rw [← List.forall₂_eq_eq_eq, List.forall₂_map_left_iff, List.forall₂_map_right_iff]
      exact readTokens.imp fun _ _ => And.right
    rw [tokensOf, placedOffsets_eq samePhrases, Outcome.mapM_eq_ok_iff]
    exact readTokens.imp fun _ _ => And.left

/-- The choices that are read for a pattern are those that its elements offer. -/
theorem forall₂_isPlaced_of_elements
    {elements : List Value}
    {choices : List (List (List TokenPart))}
    (offers : List.Forall₂ (Offers phrases) elements choices)
    {placed : List (List (List PlacedToken))}
    (read : elements.mapM (phrases.choicesOf place) = .ok placed) :
    List.Forall₂ (List.Forall₂ (List.Forall₂ (IsPlaced place))) choices placed := by
  refine Outcome.forall₂_of_mapM (fun offered element choices offersThese readThese => ?_)
    offers.flip read
  exact forall₂_isPlaced_of_choicesOf offersThese readThese

end Placed

/-- The rows of tokens of a pattern are those of all combinations of what its elements offer. -/
theorem count_and_tokens_of_expand
    {phrases : PhraseTable}
    {place : DefinitionPlace}
    {elements : List Value}
    {choices : List (List (List TokenPart))}
    (offers : List.Forall₂ (Offers phrases) elements choices)
    {alternatives : List (List Token)}
    (expanded : expand phrases place (.list elements) = .ok alternatives) :
    alternatives.length = combinationCount choices ∧
      ∀ picks,
        ArePicks choices picks →
          ∃ tokens,
            alternatives[combinationPlace choices picks]? = some tokens ∧
              AreTokensOf place (picked choices picks).flatten tokens := by
  obtain ⟨parts, isParts, afterParts⟩ := Outcome.bind_eq_ok_iff.mp expanded
  cases isParts
  obtain ⟨placed, readChoices, readTokens⟩ := Outcome.bind_eq_ok_iff.mp afterParts
  have arePlaced := forall₂_isPlaced_of_elements offers readChoices
  refine ⟨?_, fun picks arePicks => ?_⟩
  · rw [← (Outcome.mapM_eq_ok_iff.mp readTokens).length_eq, length_combinations,
      (combinationCount_place_eq arePlaced []).1]
  · -- Both lists offer as many choices, so the picks lead to the same place in both.
    obtain ⟨placedPicks, pickedPlaced⟩ := arePicks.picked_related arePlaced
    obtain ⟨tokens, isAlternative, read⟩ :=
      Outcome.exists_getElem?_of_mapM readTokens (getElem?_combinations placedPicks)
    rw [← (combinationCount_place_eq arePlaced picks).2] at isAlternative
    exact ⟨tokens, isAlternative, (tokensOf_eq_ok_iff (List.rel_flatten pickedPlaced)).mp read⟩

/-- A pattern is expanded if its elements and the tokens of every combination can be read. -/
theorem exists_expand
    {phrases : PhraseTable}
    {place : DefinitionPlace}
    {elements : List Value}
    {choices : List (List (List TokenPart))}
    (offers : List.Forall₂ (Offers phrases) elements choices)
    (elementsRead : ∀ element ∈ elements, ∃ read, TokenEntries.ofValue place element = .ok read)
    (alternativesRead :
      ∀ offered ∈ choices, ∀ parts ∈ offered, ∀ part ∈ parts,
        ∃ read, TokenEntries.ofValue place part.1 = .ok read)
    (tokensRead :
      ∀ picks,
        ArePicks choices picks →
          ∃ tokens,
            AreTokensOf place (picked choices picks).flatten tokens ∧
              referencesPrecede tokens ∧ Rule.HaveSigns tokens) :
    ∃ alternatives,
      expand phrases place (.list elements) = .ok alternatives ∧
        ∀ tokens ∈ alternatives, referencesPrecede tokens ∧ Rule.HaveSigns tokens := by
  have eachElement :
      ∀ element ∈ elements, ∃ choices, phrases.choicesOf place element = .ok choices := by
    intro element member
    obtain ⟨offered, isOffered, offersThese⟩ := Outcome.exists_related_of_mem offers member
    exact
      exists_choicesOf offersThese (elementsRead element member)
        (alternativesRead offered isOffered)
  obtain ⟨placed, readChoices, _⟩ := Outcome.exists_mapM_eq_ok eachElement
  have arePlaced := forall₂_isPlaced_of_elements offers readChoices
  have eachCombination :
      ∀ combination ∈ combinations placed,
        ∃ tokens,
          tokensOf place combination.flatten = .ok tokens ∧
            referencesPrecede tokens ∧ Rule.HaveSigns tokens := by
    intro combination member
    obtain ⟨picks, placedPicks, rfl⟩ := exists_picks_of_mem_combinations member
    have arePicks := placedPicks.of_related arePlaced
    obtain ⟨tokens, areTokens, makePattern⟩ := tokensRead picks arePicks
    have pickedPlaced := List.rel_flatten (arePicks.picked_related arePlaced).2
    exact ⟨tokens, (tokensOf_eq_ok_iff pickedPlaced).mpr areTokens, makePattern⟩
  obtain ⟨alternatives, readTokens, _⟩ :=
    Outcome.exists_mapM_eq_ok fun combination member =>
      (eachCombination combination member).imp fun _ => And.left
  refine ⟨alternatives, ?_, fun tokens member => ?_⟩
  · refine Outcome.bind_eq_ok_iff.mpr ⟨elements, rfl, ?_⟩
    exact Outcome.bind_eq_ok_iff.mpr ⟨placed, readChoices, readTokens⟩
  · obtain ⟨combination, isCombination, read⟩ :=
      Outcome.exists_item_of_mem_mapM readTokens member
    obtain ⟨others, readOthers, makePattern⟩ := eachCombination combination isCombination
    rw [read, Except.ok.injEq] at readOthers
    rwa [readOthers]

namespace RuleEntries

variable {context : DefinitionContext} {id subId : Value} {entries : RuleEntries}

theorem message_eq_ok_iff
    {place : DefinitionPlace}
    {given : Value} :
    message place entries = .ok given ↔ Value.field? "message" entries = some given := by
  unfold message
  cases Value.field? "message" entries <;> simp

/-- A rule of the parts that a definition gives takes over what it says. -/
theorem takesOver_of_commonParts
    {given : Value}
    (isMessage : Value.field? "message" entries = some given)
    {parts : RuleParts}
    (read : commonParts context ⟨context.source, id⟩ subId given entries = .ok parts)
    {tokens : Option (List Token)}
    {isAlternative : Bool}
    {rule : Rule}
    (made :
      Rule.ofParts { parts with tokens := tokens, isAlternative := isAlternative } = .ok rule) :
    rule.isAlternative = isAlternative ∧ rule.TakesOver context id subId entries := by
  obtain ⟨pattern, _, rfl⟩ := Rule.exists_pattern_of_ofParts made
  obtain ⟨given, isGiven, afterGiven⟩ := Outcome.bind_eq_ok_iff.mp read
  obtain ⟨start, isStart, afterStart⟩ := Outcome.bind_eq_ok_iff.mp afterGiven
  obtain ⟨stop, isStop, result⟩ := Outcome.bind_eq_ok_iff.mp afterStart
  cases result
  exact ⟨rfl, rfl, rfl, rfl, rfl, isMessage, rfl, rfl, ⟨given, isGiven, rfl⟩, isStart, isStop, rfl⟩

/-- The rules of a definition with a pattern are those of the pattern and what it says besides. -/
theorem rules_eq_ok_iff
    {elements : List Value}
    (isPattern : Value.field? "pattern" entries = some (.list elements))
    {loaded : Loaded} :
    rules context id subId entries = .ok loaded ↔
      DefinitionPlace.requireKnown ⟨context.source, id⟩ knownKeys .unknownRuleKeys entries =
          .ok () ∧
        Value.field? "regex" entries = none ∧
          ∃ given parts,
            Value.field? "message" entries = some given ∧
              commonParts context ⟨context.source, id⟩ subId given entries = .ok parts ∧
                ∃ made,
                  patternRules context ⟨context.source, id⟩ parts (.list elements) = .ok made ∧
                    loaded = ⟨made, []⟩ := by
  constructor
  · intro reads
    obtain ⟨_, knownKeys, afterKeys⟩ := Outcome.bind_eq_ok_iff.mp reads
    obtain ⟨given, isMessage, afterMessage⟩ := Outcome.bind_eq_ok_iff.mp afterKeys
    obtain ⟨parts, common, afterParts⟩ := Outcome.bind_eq_ok_iff.mp afterMessage
    cases isExpression : Value.field? "regex" entries with
    | some expression =>
        simp only [isExpression, isPattern] at afterParts
        cases afterParts
    | none =>
        simp only [isExpression, isPattern] at afterParts
        obtain ⟨made, madeRules, result⟩ := Outcome.bind_eq_ok_iff.mp afterParts
        cases result
        exact
          ⟨knownKeys, rfl, given, parts, message_eq_ok_iff.mp isMessage, common, made, madeRules,
            rfl⟩
  · rintro ⟨knownKeys, noExpression, given, parts, isGiven, common, made, madeRules, rfl⟩
    refine Outcome.bind_eq_ok_iff.mpr ⟨(), knownKeys, ?_⟩
    refine Outcome.bind_eq_ok_iff.mpr ⟨given, message_eq_ok_iff.mpr isGiven, ?_⟩
    refine Outcome.bind_eq_ok_iff.mpr ⟨parts, common, ?_⟩
    simp only [noExpression, isPattern]
    exact Outcome.bind_eq_ok_iff.mpr ⟨made, madeRules, rfl⟩

theorem areExpansions_of_rules
    {elements : List Value}
    (isPattern : Value.field? "pattern" entries = some (.list elements))
    {choices : List (List (List TokenPart))}
    (offers : List.Forall₂ (Offers context.phrases) elements choices)
    {loaded : Loaded}
    (reads : rules context id subId entries = .ok loaded) :
    AreExpansions context id subId entries choices loaded.rules := by
  obtain ⟨_, _, given, parts, isGiven, common, made, madeRules, rfl⟩ :=
    (rules_eq_ok_iff isPattern).mp reads
  obtain ⟨alternatives, expanded, madeEach⟩ := Outcome.bind_eq_ok_iff.mp madeRules
  obtain ⟨count, ofPicks⟩ := count_and_tokens_of_expand offers expanded
  have sameCount : made.length = alternatives.length :=
    (Outcome.mapM_eq_ok_iff.mp madeEach).length_eq.symm
  have eachTakesOver :
      ∀ rule ∈ made,
        rule.isAlternative = decide (1 < alternatives.length) ∧
          rule.TakesOver context id subId entries := by
    intro rule member
    obtain ⟨tokens, _, madeRule⟩ := Outcome.exists_item_of_mem_mapM madeEach member
    exact takesOver_of_commonParts isGiven common madeRule
  constructor
  case count =>
    exact sameCount.trans count
  case ofPicks =>
    intro picks arePicks
    obtain ⟨tokens, isAlternative, areTokens⟩ := ofPicks picks arePicks
    obtain ⟨rule, isRule, madeRule⟩ := Outcome.exists_getElem?_of_mapM madeEach isAlternative
    obtain ⟨precede, pattern⟩ := Rule.exists_pattern_of_tokens rfl madeRule
    exact ⟨rule, tokens, precede, isRule, pattern, areTokens⟩
  case noOthers =>
    intro place inside
    exact existsUnique_picks (by rwa [← count, ← sameCount])
  case isAlternative =>
    intro rule member
    rw [(eachTakesOver rule member).1, decide_eq_true_iff, count]
  case takesOver =>
    intro rule member
    exact (eachTakesOver rule member).2

/-- What a definition with rules says can be read. -/
theorem isAccepted_of_rules
    {elements : List Value}
    (isPattern : Value.field? "pattern" entries = some (.list elements))
    {choices : List (List (List TokenPart))}
    (offers : List.Forall₂ (Offers context.phrases) elements choices)
    {loaded : Loaded}
    (reads : rules context id subId entries = .ok loaded) :
    IsAccepted context id subId entries elements choices := by
  obtain ⟨knownKeys, noExpression, given, parts, isGiven, common, made, madeRules, rfl⟩ :=
    (rules_eq_ok_iff isPattern).mp reads
  obtain ⟨alternatives, expanded, madeEach⟩ := Outcome.bind_eq_ok_iff.mp madeRules
  obtain ⟨_, isElements, afterElements⟩ := Outcome.bind_eq_ok_iff.mp expanded
  cases isElements
  obtain ⟨placed, readChoices, _⟩ := Outcome.bind_eq_ok_iff.mp afterElements
  constructor
  case knownKeys =>
    exact knownKeys
  case noExpression =>
    exact noExpression
  case common =>
    refine ⟨given, parts, isGiven, common, fun someCombination => ?_⟩
    rw [← (count_and_tokens_of_expand offers expanded).1] at someCombination
    obtain ⟨tokens, isAlternative⟩ := List.exists_mem_of_length_pos someCombination
    obtain ⟨rule, madeRule⟩ := Outcome.exists_result_of_mem madeEach isAlternative
    obtain ⟨_, _, antipatternSigns, _⟩ := Rule.exists_checked_of_ofParts madeRule
    have notNull := Rule.messages_ne_null_of_ofParts madeRule
    exact ⟨notNull, antipatternSigns⟩
  case elements =>
    intro element member
    obtain ⟨_, readElement⟩ := Outcome.exists_result_of_mem readChoices member
    obtain ⟨read, isRead, _⟩ := Outcome.bind_eq_ok_iff.mp readElement
    exact ⟨read, isRead⟩
  case alternatives =>
    intro offered isOffered parts areParts part isPart
    obtain ⟨_, _, offeredPlaced⟩ :=
      Outcome.exists_related_of_mem (forall₂_isPlaced_of_elements offers readChoices) isOffered
    obtain ⟨_, _, partsPlaced⟩ := Outcome.exists_related_of_mem offeredPlaced areParts
    obtain ⟨placedToken, _, isPlaced⟩ := Outcome.exists_related_of_mem partsPlaced isPart
    exact ⟨placedToken.entries, isPlaced.1⟩
  case tokens =>
    intro picks arePicks
    obtain ⟨rule, tokens, precede, isRule, pattern, areTokens⟩ :=
      (areExpansions_of_rules isPattern offers reads).ofPicks picks arePicks
    obtain ⟨_, _, madeRule⟩ :=
      Outcome.exists_item_of_mem_mapM madeEach (List.mem_of_getElem? isRule)
    have signs := (Rule.hasSigns_of_ofParts madeRule).tokens
    rw [Rule.tokens_of_pattern pattern] at signs
    exact ⟨tokens, areTokens, precede, signs⟩

/-- A definition has rules if what it says can be read. -/
theorem exists_rules_of_isAccepted
    {elements : List Value}
    (isPattern : Value.field? "pattern" entries = some (.list elements))
    {choices : List (List (List TokenPart))}
    (offers : List.Forall₂ (Offers context.phrases) elements choices)
    (accepted : IsAccepted context id subId entries elements choices) :
    ∃ loaded, rules context id subId entries = .ok loaded := by
  obtain ⟨given, parts, isGiven, common, messages⟩ := accepted.common
  obtain ⟨alternatives, expanded, makePatterns⟩ :=
    exists_expand offers accepted.elements accepted.alternatives accepted.tokens
  have noExpression := (tokens_expression_of_commonParts common).2
  have eachMade :
      ∀ tokens ∈ alternatives,
        ∃ rule,
          Rule.ofParts
              { parts with
                tokens := some tokens
                isAlternative := decide (1 < alternatives.length) } =
            .ok rule := by
    intro tokens member
    have someCombination := List.length_pos_of_mem member
    rw [(count_and_tokens_of_expand offers expanded).1] at someCombination
    obtain ⟨⟨message, shortMessage, extraSuggestions⟩, antipatternSigns⟩ :=
      messages someCombination
    obtain ⟨precede, signs⟩ := makePatterns tokens member
    have isPatternOf :
        Rule.patternOf
            { parts with
              tokens := some tokens
              isAlternative := decide (1 < alternatives.length) } =
          .ok (.tokens tokens precede) := by
      simp only [Rule.patternOf, noExpression]
      exact Rule.tokenPattern_of_referencesPrecede precede signs
    refine ⟨_, Rule.ofParts_of_patternOf ?_ ?_ ?_ ?_ isPatternOf⟩
    · exact message
    · exact shortMessage
    · exact extraSuggestions
    · exact antipatternSigns
  obtain ⟨made, madeEach, _⟩ := Outcome.exists_mapM_eq_ok eachMade
  refine ⟨⟨made, []⟩, (rules_eq_ok_iff isPattern).mpr ?_⟩
  exact
    ⟨accepted.knownKeys, accepted.noExpression, given, parts, isGiven, common, made,
      Outcome.bind_eq_ok_iff.mpr ⟨alternatives, expanded, madeEach⟩, rfl⟩

/--
A definition with a pattern has rules exactly if it is accepted, and these are the expansions
of its elements. It fails if the tokens of some combination cannot be read, refer to later ones
or have bounds that are too long to be written.
-/
theorem rules_eq_expansions_or_error
    {elements : List Value}
    (isPattern : Value.field? "pattern" entries = some (.list elements))
    {choices : List (List (List TokenPart))}
    (offers : List.Forall₂ (Offers context.phrases) elements choices) :
    ((∃ loaded, rules context id subId entries = .ok loaded) ↔
        IsAccepted context id subId entries elements choices) ∧
      (∀ loaded,
        rules context id subId entries = .ok loaded →
          AreExpansions context id subId entries choices loaded.rules) ∧
        ∀ picks,
          ArePicks choices picks →
            (¬∃ tokens,
              AreTokensOf ⟨context.source, id⟩ (picked choices picks).flatten tokens ∧
                referencesPrecede tokens ∧ Rule.HaveSigns tokens) →
              ∃ failure, rules context id subId entries = .error failure := by
  refine ⟨⟨?_, exists_rules_of_isAccepted isPattern offers⟩,
    fun loaded => areExpansions_of_rules isPattern offers, ?_⟩
  · rintro ⟨loaded, reads⟩
    exact isAccepted_of_rules isPattern offers reads
  · intro picks arePicks noTokens
    cases reads : rules context id subId entries with
    | error failure =>
        exact ⟨failure, rfl⟩
    | ok loaded =>
        exact (noTokens ((isAccepted_of_rules isPattern offers reads).tokens picks arePicks)).elim

/-- The words of a greeting: one alone, or two of which the second names another phrase. -/
def greetingWords : List (List Value) :=
  [[.text "hello"],
    [.text "good", .mapping [(.text "string", .text "day"), (.text "phrase", .text "time")]]]

/-- A document with the phrase of a greeting. -/
def greetingContext : DefinitionContext where
  source := "<string>"
  language := .text "en"
  phrases := [(.text "greeting", .list (greetingWords.map Value.list))]

/-- A token with a phrase of its own. -/
def allOfThem : TokenEntries :=
  [(.text "string", .text "all"), (.text "phrase", .text "whom")]

/-- A greeting on both sides of a token. -/
def greetingElements : List Value :=
  [.mapping [(.text "phraseref", .text "greeting")], .mapping allOfThem,
    .mapping [(.text "phraseref", .text "greeting")]]

/-- The definition of a pattern with two greetings. -/
def twoGreetings : RuleEntries :=
  [(.text "message", .text "m"), (.text "pattern", .list greetingElements)]

/-- What a reference to the greeting offers. -/
def greetingAlternatives : List (List TokenPart) :=
  greetingWords.map fun parts => parts.map fun part => (part, .text "greeting")

/-- What the elements of the pattern offer. -/
def greetingChoices : List (List (List TokenPart)) :=
  [greetingAlternatives, [[(.mapping allOfThem, .text "whom")]], greetingAlternatives]

/-- Two greetings of two alternatives make four rules, of which the second greeting varies first. -/
theorem rules_twoGreetings :
    ∃ loaded,
      rules greetingContext (.text "R") .null twoGreetings = .ok loaded ∧
        IsAccepted greetingContext (.text "R") .null twoGreetings greetingElements
            greetingChoices ∧
          AreExpansions greetingContext (.text "R") .null twoGreetings greetingChoices
              loaded.rules ∧
            loaded.rules.map (fun rule => rule.tokens.map (·.text)) =
              [["hello", "all", "hello"], ["hello", "all", "good", "day"],
                ["good", "day", "all", "hello"], ["good", "day", "all", "good", "day"]] := by
  have evaluated :
      (rules greetingContext (.text "R") .null twoGreetings).toOption.map
          (fun loaded => loaded.rules.map fun rule => rule.tokens.map (·.text)) =
        some
          [["hello", "all", "hello"], ["hello", "all", "good", "day"],
            ["good", "day", "all", "hello"], ["good", "day", "all", "good", "day"]] := by
    decide +kernel
  obtain ⟨loaded, isLoaded, texts⟩ := Option.map_eq_some_iff.mp evaluated
  have reads := Outcome.eq_ok_of_toOption isLoaded
  have greeting :
      Offers greetingContext.phrases (.mapping [(.text "phraseref", .text "greeting")])
        greetingAlternatives :=
    .phrase _ (.text "greeting") greetingWords (by simp) rfl
      (by simp [greetingContext, Value.lookup?])
  have ownPhrase : Value.fieldOr "phrase" (.text "") allOfThem = .text "whom" := by
    simp [Value.fieldOr, allOfThem]
  have token :
      Offers greetingContext.phrases (.mapping allOfThem)
        [[(.mapping allOfThem, .text "whom")]] :=
    ownPhrase ▸ .mapping allOfThem (by simp [allOfThem])
  have offers : List.Forall₂ (Offers greetingContext.phrases) greetingElements greetingChoices :=
    .cons greeting (.cons token (.cons greeting .nil))
  have isPattern : Value.field? "pattern" twoGreetings = some (.list greetingElements) := by
    simp [twoGreetings]
  obtain ⟨accepted_iff, expansions, _⟩ :=
    @rules_eq_expansions_or_error greetingContext (.text "R") .null _ _ isPattern _ offers
  exact ⟨loaded, reads, accepted_iff.mp ⟨loaded, reads⟩, expansions loaded reads, texts⟩

end RuleEntries

end ProseRules
