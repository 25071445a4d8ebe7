import ProseRules.Proofs.Definition.Origins
import ProseRules.Rule.Matching

namespace ProseRules

/-!
# References to phrases

The elements of a pattern that refer to phrases are expanded. The definitions of tokens within
alternatives of phrases and within anti-patterns may have the same key, but there nothing
expands it: such a token is read as if the key were not there.
-/

/-- The definition of a token refers to a phrase. -/
def RefersToPhrase (part name : Value) : Prop :=
  ∃ entries, part = .mapping entries ∧ Value.field? "phraseref" entries = some name

/-- A phrase is defined, and the parts are those of one of its alternatives. -/
def PhraseTable.HasAlternative (phrases : PhraseTable) (name : Value) (parts : List Value) :
    Prop :=
  ∃ alternatives options alternative,
    Value.lookup? name phrases = some alternatives ∧
      alternatives.elements = .ok options ∧
        alternative ∈ options ∧ alternative.elements = .ok parts

/-- The tokens that a definition of a token stands for if all references are expanded. -/
inductive Spells (phrases : PhraseTable) (place : DefinitionPlace) :
    Value → List Token → Prop where
  | token {part phrase : Value} {entries : TokenEntries} {offsets : Option (List Nat)}
      {token : Token}
      (isEntries : TokenEntries.ofValue place part = .ok entries)
      (isPlain : Value.field? "phraseref" entries = none)
      (isRead : entries.token place phrase offsets = .ok token) :
      Spells phrases place part [token]
  | phrase {part name : Value} {parts : List Value} {rows : List (List Token)}
      (refers : RefersToPhrase part name)
      (isAlternative : phrases.HasAlternative name parts)
      (spelled : List.Forall₂ (Spells phrases place) parts rows) :
      Spells phrases place part rows.flatten

/-- The tokens are those that the parts stand for, one after the other. -/
def SpellsAll (phrases : PhraseTable) (place : DefinitionPlace) (parts : List Value)
    (tokens : List Token) : Prop :=
  ∃ rows, List.Forall₂ (Spells phrases place) parts rows ∧ tokens = rows.flatten

/-- All references to phrases are expanded in the pattern and the anti-patterns of a rule. -/
structure Rule.ExpandsReferences (rule : Rule) (phrases : PhraseTable) (place : DefinitionPlace)
    (elements : List Value) (antipatterns : List (List Value)) : Prop where
  inPattern : SpellsAll phrases place elements rule.tokens
  inAntipatterns :
    ∃ rows,
      List.Forall₂ (SpellsAll phrases place) antipatterns rows ∧
        rule.antipatterns = rows.filter (!·.isEmpty)

/-- No definition of a token among the parts refers to a phrase. -/
def ArePlain (parts : List Value) : Prop :=
  ∀ part ∈ parts, ∀ name, ¬RefersToPhrase part name

/-- References stand in the pattern only, not in the phrases used there or in anti-patterns. -/
structure HasPlainParts (phrases : PhraseTable) (elements : List Value)
    (antipatterns : List (List Value)) : Prop where
  inPhrases :
    ∀ element ∈ elements, ∀ name, RefersToPhrase element name →
      ∀ parts, phrases.HasAlternative name parts → ArePlain parts
  inAntipatterns : ∀ parts ∈ antipatterns, ArePlain parts

namespace TokenEntries

variable {place : DefinitionPlace} {entries : TokenEntries}

/-- A definition that is read refers to a phrase exactly if its entries do. -/
theorem refersToPhrase_iff
    {part : Value}
    (read : ofValue place part = .ok entries)
    {name : Value} :
    RefersToPhrase part name ↔ Value.field? "phraseref" entries = some name := by
  cases part with
  | text text =>
      cases read
      simp [RefersToPhrase]
  | mapping given =>
      rw [eq_of_ofValue_mapping read]
      simp [RefersToPhrase]
  | _ =>
      cases read

theorem field?_phraseref_of_arePlain
    {part : Value}
    (read : ofValue place part = .ok entries)
    (plain : ∀ name, ¬RefersToPhrase part name) :
    Value.field? "phraseref" entries = none := by
  rw [Option.eq_none_iff_forall_ne_some]
  intro name isName
  exact plain name ((refersToPhrase_iff read).mpr isName)

/-- The definition of a token refers to a phrase and has no text. -/
structure IsBareReference (entries : TokenEntries) : Prop where
  refers : ∃ name, Value.field? "phraseref" entries = some name
  noText : (Value.fieldOr "string" (.text "") entries).display = ""

/-- A token that is read of a bare reference accepts any word. -/
theorem wordTest_of_isBareReference
    (bare : entries.IsBareReference)
    {phrase : Value}
    {offsets : Option (List Nat)}
    {token : Token}
    (read : entries.token place phrase offsets = .ok token) :
    token.wordTest = .any := by
  have noText : token.text = "" := (isReadAs_of_token read).text.trans bare.noText
  simp [Token.wordTest, noText]

end TokenEntries

section Spelling

variable {phrases : PhraseTable} {place : DefinitionPlace}

/-- Tokens that are read of plain definitions are those that the definitions stand for. -/
theorem spellsAll_of_arePlain
    {parts : List Value}
    {tokens : List Token}
    (plain : ArePlain parts)
    (read :
      List.Forall₂
        (fun part token =>
          ∃ entries phrase offsets,
            TokenEntries.ofValue place part = .ok entries ∧
              entries.token place phrase offsets = .ok token)
        parts tokens) :
    SpellsAll phrases place parts tokens := by
  induction read with
  | nil =>
      exact ⟨[], .nil, rfl⟩
  | cons readPart _ inductionHypothesis =>
      obtain ⟨plainPart, plainLater⟩ := List.forall_mem_cons.mp plain
      obtain ⟨entries, phrase, offsets, isEntries, isRead⟩ := readPart
      obtain ⟨rows, spelled, rfl⟩ := inductionHypothesis plainLater
      have isPlain := TokenEntries.field?_phraseref_of_arePlain isEntries plainPart
      exact ⟨_ :: rows, .cons (.token isEntries isPlain isRead) spelled, rfl⟩

/-- What an element gives is what it stands for, if the phrase it refers to has plain parts. -/
theorem spells_of_gives
    {element : Value}
    {row : List PlacedToken}
    (gives : Gives phrases place element row)
    (plain :
      ∀ name, RefersToPhrase element name →
        ∀ parts, phrases.HasAlternative name parts → ArePlain parts)
    {offsets : Option (List Nat)}
    {tokens : List Token}
    (read :
      List.Forall₂
        (fun placed token => placed.entries.token place placed.phrase offsets = .ok token)
        row tokens) :
    Spells phrases place element tokens := by
  cases gives with
  | token isEntries isPlain =>
      obtain ⟨token, _, isRead, noMore, rfl⟩ := List.forall₂_cons_left_iff.mp read
      rw [List.forall₂_nil_left_iff.mp noMore]
      exact .token isEntries isPlain isRead
  | phrase isEntries isReference isDefined areOptions isOption areParts arePlaced =>
      rename_i name alternatives alternative entries options parts
      have refers := (TokenEntries.refersToPhrase_iff isEntries).mpr isReference
      have isAlternative : phrases.HasAlternative name parts :=
        ⟨alternatives, options, alternative, isDefined, areOptions, isOption, areParts⟩
      have readParts :
          List.Forall₂
            (fun part token =>
              ∃ entries phrase offsets,
                TokenEntries.ofValue place part = .ok entries ∧
                  entries.token place phrase offsets = .ok token)
            parts tokens :=
        Outcome.forall₂_of_common
          (fun placed part token isPlaced isRead => ⟨_, _, _, isPlaced.1, isRead⟩)
          arePlaced.flip read
      obtain ⟨rows, spelled, rfl⟩ :=
        @spellsAll_of_arePlain phrases _ _ _ (plain name refers parts isAlternative) readParts
      exact .phrase refers isAlternative spelled

end Spelling

namespace Rule

variable {rule : Rule} {phrases : PhraseTable} {place : DefinitionPlace} {elements : List Value}
  {antipatterns : List (List Value)} {rows : List (List PlacedToken)}

/-- All references are expanded if they stand in the pattern only. -/
theorem expandsReferences_of_hasPlainParts
    (plain : HasPlainParts phrases elements antipatterns)
    (pattern : rule.ReadsPattern phrases place elements rows)
    (readsAntipatterns : rule.ReadsAntipatterns place antipatterns) :
    rule.ExpandsReferences phrases place elements antipatterns := by
  constructor
  case inPattern =>
    obtain ⟨tokenRows, readRows, areTokens⟩ :=
      Outcome.exists_rows_of_forall₂_flatten pattern.tokens
    refine ⟨tokenRows, ?_, areTokens⟩
    have gives :=
      (List.forall₂_and_left elements rows).mpr ⟨fun _ member => member, pattern.given⟩
    refine Outcome.forall₂_of_common (fun row element tokens isGiven read => ?_) gives.flip readRows
    exact spells_of_gives isGiven.2 (plain.inPhrases element isGiven.1) read
  case inAntipatterns =>
    obtain ⟨tokenRows, readRows, areAntipatterns⟩ := readsAntipatterns
    refine ⟨tokenRows, ?_, areAntipatterns⟩
    refine ((List.forall₂_and_left _ _).mpr ⟨plain.inAntipatterns, readRows⟩).imp ?_
    rintro parts tokens ⟨arePlain, read⟩
    refine spellsAll_of_arePlain arePlain (read.imp ?_)
    rintro part token ⟨entries, isEntries, isRead⟩
    exact ⟨entries, _, _, isEntries, isRead⟩

/-- A bare reference in an anti-pattern leaves a token there that accepts any word. -/
theorem exists_any_in_antipatterns
    (readsAntipatterns : rule.ReadsAntipatterns place antipatterns)
    {parts : List Value}
    (isAntipattern : parts ∈ antipatterns)
    {entries : TokenEntries}
    (isPart : .mapping entries ∈ parts)
    (bare : entries.IsBareReference) :
    ∃ tokens ∈ rule.antipatterns, ∃ token ∈ tokens, token.wordTest = .any := by
  obtain ⟨tokenRows, readRows, areAntipatterns⟩ := readsAntipatterns
  obtain ⟨tokens, isRow, read⟩ := Outcome.exists_related_of_mem readRows isAntipattern
  obtain ⟨token, isToken, entries', isEntries, isRead⟩ := Outcome.exists_related_of_mem read isPart
  rw [TokenEntries.eq_of_ofValue_mapping isEntries] at isRead
  have someToken : tokens ≠ [] := List.ne_nil_of_mem isToken
  refine ⟨tokens, ?_, token, isToken, TokenEntries.wordTest_of_isBareReference bare isRead⟩
  rw [areAntipatterns, List.mem_filter]
  exact ⟨isRow, by simpa using someToken⟩

end Rule

/-- Every phrase that an element refers to has an alternative. -/
def HaveAlternatives (phrases : PhraseTable) (elements : List Value) : Prop :=
  ∀ element ∈ elements, ∀ name, RefersToPhrase element name →
    ∃ parts, phrases.HasAlternative name parts

section Choices

variable {phrases : PhraseTable} {place : DefinitionPlace} {element name : Value}
  {offered : List (List PlacedToken)}

theorem exists_alternatives_of_choicesOf
    (read : phrases.choicesOf place element = .ok offered)
    (refers : RefersToPhrase element name) :
    ∃ alternatives options,
      Value.lookup? name phrases = some alternatives ∧
        alternatives.elements = .ok options ∧
          options.mapM (PhraseTable.placedAlternative place name) = .ok offered := by
  obtain ⟨entries, isEntries, afterEntries⟩ := Outcome.bind_eq_ok_iff.mp read
  rw [(TokenEntries.refersToPhrase_iff isEntries).mp refers] at afterEntries
  obtain ⟨alternatives, found, afterFound⟩ := Outcome.bind_eq_ok_iff.mp afterEntries
  obtain ⟨options, areOptions, readOptions⟩ := Outcome.bind_eq_ok_iff.mp afterFound
  exact ⟨alternatives, options, lookup?_of_alternatives found, areOptions, readOptions⟩

/-- A reference leaves each alternative of its phrase to be chosen. -/
theorem exists_choice_of_hasAlternative
    (read : phrases.choicesOf place element = .ok offered)
    (refers : RefersToPhrase element name)
    {parts : List Value}
    (isAlternative : phrases.HasAlternative name parts) :
    ∃ choice ∈ offered, List.Forall₂ (IsPlacedIn place name) parts choice := by
  obtain ⟨alternatives, options, isDefined, areOptions, readOptions⟩ :=
    exists_alternatives_of_choicesOf read refers
  obtain ⟨alternatives', options', alternative, isDefined', areOptions', isOption, areParts⟩ :=
    isAlternative
  rw [isDefined, Option.some.injEq] at isDefined'
  subst isDefined'
  rw [areOptions, Except.ok.injEq] at areOptions'
  subst areOptions'
  obtain ⟨choice, isChoice, readChoice⟩ :=
    Outcome.exists_related_of_mem (Outcome.mapM_eq_ok_iff.mp readOptions) isOption
  obtain ⟨parts', areParts', arePlaced⟩ := exists_parts_of_placedAlternative readChoice
  rw [areParts, Except.ok.injEq] at areParts'
  subst areParts'
  exact ⟨choice, isChoice, arePlaced⟩

theorem ne_nil_of_choicesOf
    (read : phrases.choicesOf place element = .ok offered)
    (hasAlternatives :
      ∀ name, RefersToPhrase element name → ∃ parts, phrases.HasAlternative name parts) :
    offered ≠ [] := by
  obtain ⟨entries, isEntries, afterEntries⟩ := Outcome.bind_eq_ok_iff.mp read
  cases isReference : Value.field? "phraseref" entries with
  | none =>
      rw [isReference] at afterEntries
      cases afterEntries
      simp
  | some name =>
      have refers := (TokenEntries.refersToPhrase_iff isEntries).mpr isReference
      obtain ⟨parts, isAlternative⟩ := hasAlternatives name refers
      obtain ⟨choice, isChoice, _⟩ := exists_choice_of_hasAlternative read refers isAlternative
      exact List.ne_nil_of_mem isChoice

end Choices

/--
A pattern with a reference to a phrase that is not defined is refused for it, unless an
element before it is refused. The refusal names the rule and the phrase.
-/
def RefusesUndefinedPhrases (phrases : PhraseTable) (place : DefinitionPlace) : Prop :=
  ∀ pattern earlier element later entries name,
    Value.elements pattern = .ok (earlier ++ element :: later) →
      (∀ other ∈ earlier, ∃ choices, phrases.choicesOf place other = .ok choices) →
        TokenEntries.ofValue place element = .ok entries →
          Value.field? "phraseref" entries = some name →
            name.isKey = true →
              Value.lookup? name phrases = none →
                place.id.canBeShown = true →
                  name.canBeShown = true →
                    expand phrases place pattern =
                      .error
                        (.definition
                          (.unknownPhrase place.source place.id.display name.display))

theorem refusesUndefinedPhrases
    (phrases : PhraseTable)
    (place : DefinitionPlace) :
    RefusesUndefinedPhrases phrases place := by
  intro pattern earlier element later entries name areElements earlierRead isEntries isReference
    isKey undefined idIsShown canBeShown
  have fails :
      phrases.choicesOf place element =
        .error (.definition (.unknownPhrase place.source place.id.display name.display)) := by
    unfold PhraseTable.choicesOf PhraseTable.alternatives
    rw [isEntries]
    simp only [bind, Except.bind, isReference, isKey, undefined]
    rw [place.refusal_eq idIsShown (List.forall_mem_singleton.mpr canBeShown)]
    rfl
  unfold expand
  rw [areElements]
  simp only [bind, Except.bind, Outcome.mapM_of_first_failure earlierRead fails]

/--
What becomes of the references to phrases in a definition. Where they stand in the pattern
they are expanded; elsewhere they are overlooked.
-/
structure ReadsReferences (phrases : PhraseTable) (place : DefinitionPlace)
    (elements : List Value) (antipatterns : List (List Value)) (read : List Rule) : Prop where
  areDefined :
    ∀ element ∈ elements, ∀ name, RefersToPhrase element name →
      ∃ alternatives, Value.lookup? name phrases = some alternatives
  someRule : HaveAlternatives phrases elements → read ≠ []
  expands :
    HasPlainParts phrases elements antipatterns →
      ∀ rule ∈ read, rule.ExpandsReferences phrases place elements antipatterns
  overlooksInPhrases :
    HaveAlternatives phrases elements →
      ∀ element ∈ elements, ∀ name, RefersToPhrase element name →
        ∀ parts, phrases.HasAlternative name parts →
          ∀ entries : TokenEntries, .mapping entries ∈ parts → entries.IsBareReference →
            ∃ rule ∈ read, ∃ token ∈ rule.tokens, token.wordTest = .any
  overlooksInAntipatterns :
    ∀ parts ∈ antipatterns,
      ∀ entries : TokenEntries, .mapping entries ∈ parts → entries.IsBareReference →
        ∀ rule ∈ read, ∃ tokens ∈ rule.antipatterns, ∃ token ∈ tokens, token.wordTest = .any

namespace RuleEntries

variable {context : DefinitionContext} {id subId : Value} {definition : RuleEntries}

theorem exists_readsReferences
    {loaded : Loaded}
    (reads : rules context id subId definition = .ok loaded) :
    ∃ elements antipatterns,
      definition.HasElements elements ∧
        definition.HasAntipatterns antipatterns ∧
          ReadsReferences context.phrases ⟨context.source, id⟩ elements antipatterns
            loaded.rules := by
  obtain ⟨elements, choices, antipatterns, areElements, areAntipatterns, readChoices, readEach⟩ :=
    exists_readings_of_rules reads
  have nonempty (offer : HaveAlternatives context.phrases elements) :
      ∀ offered ∈ choices, offered ≠ [] := by
    intro offered isOffered
    obtain ⟨element, isElement, readElement⟩ :=
      Outcome.exists_item_of_mem_mapM readChoices isOffered
    exact ne_nil_of_choicesOf readElement (offer element isElement)
  refine ⟨elements, antipatterns, areElements, areAntipatterns, ?_⟩
  constructor
  case areDefined =>
    intro element isElement name refers
    obtain ⟨offered, readElement⟩ := Outcome.exists_result_of_mem readChoices isElement
    obtain ⟨alternatives, _, isDefined, _⟩ := exists_alternatives_of_choicesOf readElement refers
    exact ⟨alternatives, isDefined⟩
  case someRule =>
    intro offer
    obtain ⟨rows, isCombination⟩ := exists_combination (nonempty offer)
    obtain ⟨rule, isRule, _⟩ := Outcome.exists_related_of_mem readEach isCombination
    exact List.ne_nil_of_mem isRule
  case expands =>
    intro plain rule member
    obtain ⟨rows, _, pattern, readsAntipatterns, _⟩ :=
      Outcome.exists_related_of_mem readEach.flip member
    exact Rule.expandsReferences_of_hasPlainParts plain pattern readsAntipatterns
  case overlooksInPhrases =>
    intro offer element isElement name refers parts isAlternative entries isPart bare
    obtain ⟨offered, isOffered, readElement⟩ :=
      Outcome.exists_related_of_mem (Outcome.mapM_eq_ok_iff.mp readChoices) isElement
    obtain ⟨choice, isChoice, arePlaced⟩ :=
      exists_choice_of_hasAlternative readElement refers isAlternative
    obtain ⟨rows, isCombination, isRow⟩ :=
      exists_combination_of_mem (nonempty offer) isOffered isChoice
    obtain ⟨rule, isRule, pattern, _⟩ := Outcome.exists_related_of_mem readEach isCombination
    obtain ⟨placed, isPlaced, isEntries, _⟩ := Outcome.exists_related_of_mem arePlaced isPart
    obtain ⟨token, isToken, isRead⟩ :=
      Outcome.exists_related_of_mem pattern.tokens (List.mem_flatten_of_mem isRow isPlaced)
    rw [TokenEntries.eq_of_ofValue_mapping isEntries] at isRead
    exact ⟨rule, isRule, token, isToken, TokenEntries.wordTest_of_isBareReference bare isRead⟩
  case overlooksInAntipatterns =>
    intro parts isAntipattern entries isPart bare rule member
    obtain ⟨rows, _, _, readsAntipatterns, _⟩ :=
      Outcome.exists_related_of_mem readEach.flip member
    exact Rule.exists_any_in_antipatterns readsAntipatterns isAntipattern isPart bare

end RuleEntries

/--
In a document that is loaded every rule is of a definition, and every definition reads its
references to phrases: it expands them in its pattern, where a phrase has to be defined.
-/
theorem readsReferences_of_rulesOfEntries
    {source language : String}
    {document : List (Value × Value)}
    {context : DefinitionContext}
    {loaded : Loaded}
    (isContext : DefinitionContext.ofEntries source language document = .ok context)
    (loads : rulesOfEntries source language document = .ok loaded) :
    (∀ rule ∈ loaded.rules,
        ∃ id subId definition part,
          HoldsDefinition document id subId definition ∧
            RuleEntries.rules context id subId definition = .ok part ∧ rule ∈ part.rules) ∧
      (∀ id subId definition,
          HoldsDefinition document id subId definition →
            ∃ part elements antipatterns,
              RuleEntries.rules context id subId definition = .ok part ∧
                (∀ rule ∈ part.rules, rule ∈ loaded.rules) ∧
                  definition.HasElements elements ∧
                    definition.HasAntipatterns antipatterns ∧
                      ReadsReferences context.phrases ⟨context.source, id⟩ elements antipatterns
                        part.rules) ∧
        ∀ id, RefusesUndefinedPhrases context.phrases ⟨context.source, id⟩ := by
  refine ⟨fun rule member => exists_definition_of_mem isContext loads member, ?_,
    fun id => refusesUndefinedPhrases _ _⟩
  intro id subId definition holds
  obtain ⟨part, reads, areLoaded⟩ := exists_rules_of_holdsDefinition isContext loads holds
  obtain ⟨elements, antipatterns, areElements, areAntipatterns, readsReferences⟩ :=
    RuleEntries.exists_readsReferences reads
  exact
    ⟨part, elements, antipatterns, reads, areLoaded, areElements, areAntipatterns,
      readsReferences⟩

/-- The definition of a token that refers to the greeting. -/
def morningReference : Value :=
  .mapping [(.text "phraseref", .text "greeting")]

/-- The words of the greeting. -/
def morningWords : List Value :=
  [.text "good", .text "morning"]

/-- What a document with the greeting says for its definitions. -/
def morningContext : DefinitionContext where
  source := "<string>"
  language := .text "en"
  phrases := [(.text "greeting", .list [.list morningWords])]

/-- A document with the greeting and one definition. -/
def morningDocument (definition : RuleEntries) : List (Value × Value) :=
  [(.text "phrases", .mapping morningContext.phrases), (.text "rules", .list [.mapping definition])]

/-- A definition with a pattern and anti-patterns. -/
def definitionWith (elements : List Value) (antipatterns : List (List Value)) : RuleEntries :=
  [(.text "id", .text "R"), (.text "message", .text "m"), (.text "pattern", .list elements),
    (.text "antipatterns", .list (antipatterns.map Value.list))]

section Morning

theorem refersToPhrase_morningReference_iff
    {name : Value} :
    RefersToPhrase morningReference name ↔ name = .text "greeting" := by
  simp [RefersToPhrase, morningReference, eq_comm]

theorem arePlain_texts
    (texts : List String) :
    ArePlain (texts.map Value.text) := by
  intro part isText name refers
  obtain ⟨text, _, rfl⟩ := List.mem_map.mp isText
  obtain ⟨entries, isMapping, _⟩ := refers
  cases isMapping

theorem hasAlternative_morning_iff
    {parts : List Value} :
    morningContext.phrases.HasAlternative (.text "greeting") parts ↔ parts = morningWords := by
  simp [PhraseTable.HasAlternative, morningContext, Value.lookup?, Value.elements, eq_comm]

theorem ofEntries_morningDocument
    (definition : RuleEntries) :
    DefinitionContext.ofEntries "<string>" "" (morningDocument definition) =
      .ok morningContext := by
  simp [DefinitionContext.ofEntries, morningDocument, morningContext, Value.fieldOr, pure,
    Except.pure]

theorem holdsDefinition_morningDocument
    (elements : List Value)
    (antipatterns : List (List Value)) :
    HoldsDefinition (morningDocument (definitionWith elements antipatterns)) (.text "R") .null
      (definitionWith elements antipatterns) := by
  refine (holdsDefinition_documentOf_iff ?_).mpr ⟨?_, rfl, rfl⟩
  · simp [definitionWith]
  · simp [definitionWith]

theorem hasElements_definitionWith
    (elements : List Value)
    (antipatterns : List (List Value)) :
    (definitionWith elements antipatterns).HasElements elements := by
  simp [RuleEntries.HasElements, RuleEntries.patternElements, definitionWith, Value.elements]

theorem hasAntipatterns_definitionWith
    (elements : List Value)
    (antipatterns : List (List Value)) :
    (definitionWith elements antipatterns).HasAntipatterns antipatterns := by
  refine ⟨antipatterns.map Value.list, ?_, ?_⟩
  · cases antipatterns <;>
      simp [definitionWith, Value.fieldOr, Value.elementsIfAny, Value.isTruthy, Value.elements]
  · rw [List.forall₂_map_left_iff, List.forall₂_same]
    intro parts _
    rfl

end Morning

/-- A definition with the greeting in its pattern. -/
def greetedFriend : RuleEntries :=
  definitionWith [morningReference, .text "friend"] [[.text "dear"]]

/-- In the pattern the greeting is expanded. -/
theorem expandsReferences_greetedFriend :
    ∃ part rule,
      DefinitionContext.ofEntries "<string>" "" (morningDocument greetedFriend) =
          .ok morningContext ∧
        (∃ loaded,
          rulesOfEntries "<string>" "" (morningDocument greetedFriend) = .ok loaded) ∧
          RuleEntries.rules morningContext (.text "R") .null greetedFriend = .ok part ∧
            rule ∈ part.rules ∧
              rule.ExpandsReferences morningContext.phrases ⟨"<string>", .text "R"⟩
                [morningReference, .text "friend"] [[.text "dear"]] := by
  have isContext := ofEntries_morningDocument greetedFriend
  have isLoadable :
      (rulesOfEntries "<string>" "" (morningDocument greetedFriend)).toOption.isSome = true := by
    decide +kernel
  obtain ⟨loaded, isLoaded⟩ := Option.isSome_iff_exists.mp isLoadable
  have loads := Outcome.eq_ok_of_toOption isLoaded
  obtain ⟨_, readEach, _⟩ := readsReferences_of_rulesOfEntries isContext loads
  obtain ⟨part, elements, antipatterns, reads, _, areElements, areAntipatterns,
    readsReferences⟩ := readEach _ _ _ (holdsDefinition_morningDocument _ _)
  rw [areElements.unique (hasElements_definitionWith _ _),
    areAntipatterns.unique (hasAntipatterns_definitionWith _ _)] at readsReferences
  have refersTo :
      ∀ element ∈ [morningReference, .text "friend"], ∀ name, RefersToPhrase element name →
        name = .text "greeting" := by
    intro element isElement name refers
    rcases List.mem_cons.mp isElement with rfl | isFriend
    · exact refersToPhrase_morningReference_iff.mp refers
    · exact (arePlain_texts ["friend"] element isFriend name refers).elim
  have someRule : part.rules ≠ [] := by
    refine readsReferences.someRule fun element isElement name refers => ?_
    rw [refersTo element isElement name refers]
    exact ⟨morningWords, hasAlternative_morning_iff.mpr rfl⟩
  obtain ⟨rule, isRule⟩ := List.exists_mem_of_ne_nil _ someRule
  refine ⟨part, rule, isContext, ⟨loaded, loads⟩, reads, isRule, ?_⟩
  refine readsReferences.expands ⟨?_, ?_⟩ rule isRule
  · intro element isElement name refers parts isAlternative
    rw [refersTo element isElement name refers, hasAlternative_morning_iff] at isAlternative
    rw [isAlternative]
    exact arePlain_texts ["good", "morning"]
  · intro parts isAntipattern
    rw [List.mem_singleton.mp isAntipattern]
    exact arePlain_texts ["dear"]

/-- A definition with the greeting in an anti-pattern. -/
def unlessGreeted : RuleEntries :=
  definitionWith [.text "x"] [[morningReference]]

theorem length_of_spells_text
    {phrases : PhraseTable}
    {place : DefinitionPlace}
    {text : String}
    {tokens : List Token}
    (spelled : Spells phrases place (.text text) tokens) :
    tokens.length = 1 := by
  cases spelled with
  | token =>
      rfl
  | phrase refers =>
      obtain ⟨entries, isMapping, _⟩ := refers
      cases isMapping

/-- The greeting stands for two tokens. -/
theorem length_of_spells_morningReference
    {place : DefinitionPlace}
    {tokens : List Token}
    (spelled : Spells morningContext.phrases place morningReference tokens) :
    tokens.length = 2 := by
  cases spelled with
  | token isEntries isPlain =>
      have refers := refersToPhrase_morningReference_iff.mpr rfl
      rw [TokenEntries.refersToPhrase_iff isEntries, isPlain] at refers
      cases refers
  | phrase refers isAlternative spelledParts =>
      rw [refersToPhrase_morningReference_iff.mp refers, hasAlternative_morning_iff]
        at isAlternative
      subst isAlternative
      obtain ⟨first, _, spelledFirst, later, rfl⟩ := List.forall₂_cons_left_iff.mp spelledParts
      obtain ⟨second, _, spelledSecond, noMore, rfl⟩ := List.forall₂_cons_left_iff.mp later
      rw [List.forall₂_nil_left_iff.mp noMore]
      simp [length_of_spells_text spelledFirst, length_of_spells_text spelledSecond]

/-- In an anti-pattern the greeting is one token that accepts any word, so nothing is matched. -/
theorem not_expandsReferences_unlessGreeted :
    ∃ loaded rule,
      DefinitionContext.ofEntries "<string>" "" (morningDocument unlessGreeted) =
          .ok morningContext ∧
        rulesOfEntries "<string>" "" (morningDocument unlessGreeted) = .ok loaded ∧
          unlessGreeted.HasElements [.text "x"] ∧
            unlessGreeted.HasAntipatterns [[morningReference]] ∧
              loaded.rules = [rule] ∧
                ¬rule.ExpandsReferences morningContext.phrases ⟨"<string>", .text "R"⟩
                    [.text "x"] [[morningReference]] ∧
                  rule.antipatterns.map (·.map Token.wordTest) = [[.any]] ∧
                    (rule.matchesIn { words := [{ text := "x" }] }).toOption.map List.length =
                      some 0 := by
  have evaluated :
      (rulesOfEntries "<string>" "" (morningDocument unlessGreeted)).toOption.map
          (fun loaded =>
            loaded.rules.map fun rule =>
              (rule.antipatterns.map (·.map Token.wordTest),
                (rule.matchesIn { words := [{ text := "x" }] }).toOption.map List.length)) =
        some [([[.any]], some 0)] := by
    decide +kernel
  obtain ⟨loaded, isLoaded, results⟩ := Option.map_eq_some_iff.mp evaluated
  obtain ⟨rule, isRule, result⟩ := List.map_eq_singleton_iff.mp results
  obtain ⟨areAny, noMatch⟩ := Prod.mk.inj result
  refine
    ⟨loaded, rule, ofEntries_morningDocument unlessGreeted, Outcome.eq_ok_of_toOption isLoaded,
      hasElements_definitionWith _ _, hasAntipatterns_definitionWith _ _, isRule, ?_, areAny,
      noMatch⟩
  intro expands
  obtain ⟨rows, spelledRows, areRows⟩ := expands.inAntipatterns
  obtain ⟨row, _, ⟨tokenRows, spelled, rfl⟩, noMore, rfl⟩ :=
    List.forall₂_cons_left_iff.mp spelledRows
  obtain ⟨tokens, _, spelledReference, noMoreTokens, rfl⟩ := List.forall₂_cons_left_iff.mp spelled
  rw [List.forall₂_nil_left_iff.mp noMore, List.forall₂_nil_left_iff.mp noMoreTokens] at areRows
  obtain ⟨first, second, rfl⟩ :=
    List.length_eq_two.mp (length_of_spells_morningReference spelledReference)
  rw [areRows] at areAny
  simp at areAny

end ProseRules
