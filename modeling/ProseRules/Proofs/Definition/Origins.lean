import ProseRules.Proofs.Definition.Combinations
import ProseRules.Proofs.Definition.References

namespace ProseRules

/-!
# Where the tokens of loaded rules come from

A document holds definitions, alone or as members of groups, and every loaded rule is read
from one of them. An element of a pattern gives its own token or the tokens of one alternative
of the phrase that it refers to; an element of an anti-pattern always gives its own token.
-/

/-- A document holds the definition of a rule, alone or as a member of a group. -/
inductive HoldsDefinition (document : List (Value × Value)) :
    Value → Value → RuleEntries → Prop where
  | alone {definitions : List Value} {id : Value} {own : RuleEntries}
      (areDefinitions : (Value.fieldOr "rules" .null document).elementsIfAny = .ok definitions)
      (isDefinition : .mapping own ∈ definitions)
      (hasId : Value.field? "id" own = some id)
      (isNoGroup : Value.fieldOr "rules" .null own = .null) :
      HoldsDefinition document id .null own
  | member {definitions members : List Value} {id member : Value} {group own : RuleEntries}
      {index : Nat}
      (areDefinitions : (Value.fieldOr "rules" .null document).elementsIfAny = .ok definitions)
      (isDefinition : .mapping group ∈ definitions)
      (hasId : Value.field? "id" group = some id)
      (isGroup : Value.fieldOr "rules" .null group ≠ .null)
      (areMembers : (Value.fieldOr "rules" .null group).elements = .ok members)
      (isMember : members[index]? = some member)
      (isOwn : member.toEntries = .ok own) :
      HoldsDefinition document id (.text (toString (index + 1)))
        (Value.update group.inherited own)

/-- A document that defines one rule. -/
def documentOf (phrases : PhraseTable) (definition : RuleEntries) : List (Value × Value) :=
  [(.text "phrases", .mapping phrases), (.text "rules", .list [.mapping definition])]

theorem elementsIfAny_documentOf
    (phrases : PhraseTable)
    (definition : RuleEntries) :
    (Value.fieldOr "rules" .null (documentOf phrases definition)).elementsIfAny =
      .ok [.mapping definition] := by
  simp [documentOf, Value.fieldOr, Value.elementsIfAny, Value.isTruthy, Value.elements]

/-- A document that defines one rule holds its definition and no other. -/
theorem holdsDefinition_documentOf_iff
    {phrases : PhraseTable}
    {definition own : RuleEntries}
    {id subId : Value}
    (isNoGroup : Value.field? "rules" definition = none) :
    HoldsDefinition (documentOf phrases definition) id subId own ↔
      Value.field? "id" definition = some id ∧ subId = .null ∧ own = definition := by
  have noGroup : Value.fieldOr "rules" .null definition = .null := by
    rw [Value.fieldOr, isNoGroup, Option.getD_none]
  constructor
  · intro holds
    cases holds with
    | alone areDefinitions isDefinition hasId =>
        rw [elementsIfAny_documentOf, Except.ok.injEq] at areDefinitions
        subst areDefinitions
        cases List.mem_singleton.mp isDefinition
        exact ⟨hasId, rfl, rfl⟩
    | member areDefinitions isDefinition _ isGroup =>
        rw [elementsIfAny_documentOf, Except.ok.injEq] at areDefinitions
        subst areDefinitions
        cases List.mem_singleton.mp isDefinition
        exact (isGroup noGroup).elim
  · rintro ⟨hasId, rfl, rfl⟩
    exact .alone (elementsIfAny_documentOf _ _) (List.mem_singleton_self _) hasId noGroup

namespace Loaded

theorem mem_rules_concat_iff
    {parts : List Loaded}
    {rule : Rule} :
    rule ∈ (concat parts).rules ↔ ∃ part ∈ parts, rule ∈ part.rules := by
  induction parts with
  | nil =>
      simp [concat, none]
  | cons first parts inductionHypothesis =>
      simp only [List.mem_cons, exists_eq_or_imp, ← inductionHypothesis]
      exact List.mem_append

end Loaded

section Document

variable {source language : String} {document : List (Value × Value)} {loaded : Loaded}

/-- The definitions of a document that is loaded can be read, each with its rules. -/
theorem exists_definitions_of_rulesOfEntries
    (loads : rulesOfEntries source language document = .ok loaded) :
    ∃ context definitions parts,
      DefinitionContext.ofEntries source language document = .ok context ∧
        (Value.fieldOr "rules" .null document).elementsIfAny = .ok definitions ∧
          definitions.mapM (RuleEntries.allRules context) = .ok parts ∧
            loaded = .concat parts := by
  obtain ⟨context, isContext, afterContext⟩ := Outcome.bind_eq_ok_iff.mp loads
  obtain ⟨definitions, areDefinitions, afterDefinitions⟩ :=
    Outcome.bind_eq_ok_iff.mp afterContext
  obtain ⟨parts, read, result⟩ := Outcome.bind_eq_ok_iff.mp afterDefinitions
  cases result
  exact ⟨context, definitions, parts, isContext, areDefinitions, read, rfl⟩

/-- A rule that is loaded is read from a definition that the document holds. -/
theorem exists_definition_of_mem
    {context : DefinitionContext}
    (isContext : DefinitionContext.ofEntries source language document = .ok context)
    (loads : rulesOfEntries source language document = .ok loaded)
    {rule : Rule}
    (member : rule ∈ loaded.rules) :
    ∃ id subId definition part,
      HoldsDefinition document id subId definition ∧
        RuleEntries.rules context id subId definition = .ok part ∧ rule ∈ part.rules := by
  obtain ⟨context', definitions, parts, isContext', areDefinitions, read, rfl⟩ :=
    exists_definitions_of_rulesOfEntries loads
  rw [isContext, Except.ok.injEq] at isContext'
  subst isContext'
  obtain ⟨part, isPart, inPart⟩ := Loaded.mem_rules_concat_iff.mp member
  obtain ⟨definition, isDefinition, readDefinition⟩ :=
    Outcome.exists_item_of_mem_mapM read isPart
  unfold RuleEntries.allRules at readDefinition
  split at readDefinition
  · rename_i group
    split at readDefinition
    · cases readDefinition
    · rename_i id hasId
      split at readDefinition
      · rename_i isNoGroup
        exact
          ⟨id, .null, group, part, .alone areDefinitions isDefinition hasId isNoGroup,
            readDefinition, inPart⟩
      · rename_i isGroup
        obtain ⟨members, areMembers, afterMembers⟩ := Outcome.bind_eq_ok_iff.mp readDefinition
        obtain ⟨memberParts, readMembers, result⟩ := Outcome.bind_eq_ok_iff.mp afterMembers
        cases result
        obtain ⟨memberPart, isMemberPart, inMemberPart⟩ :=
          Loaded.mem_rules_concat_iff.mp inPart
        obtain ⟨⟨member, index⟩, isMember, readMember⟩ :=
          Outcome.exists_item_of_mem_mapM readMembers isMemberPart
        obtain ⟨own, isOwn, readRules⟩ := Outcome.bind_eq_ok_iff.mp readMember
        exact
          ⟨id, _, _, memberPart,
            .member areDefinitions isDefinition hasId isGroup areMembers
              (List.mk_mem_zipIdx_iff_getElem?.mp isMember) isOwn,
            readRules, inMemberPart⟩
  · cases readDefinition

/-- Every definition of a document that is loaded can be read, and its rules are loaded. -/
theorem exists_rules_of_holdsDefinition
    {context : DefinitionContext}
    (isContext : DefinitionContext.ofEntries source language document = .ok context)
    (loads : rulesOfEntries source language document = .ok loaded)
    {id subId : Value}
    {definition : RuleEntries}
    (holds : HoldsDefinition document id subId definition) :
    ∃ part,
      RuleEntries.rules context id subId definition = .ok part ∧
        ∀ rule ∈ part.rules, rule ∈ loaded.rules := by
  obtain ⟨context', definitions', parts, isContext', areDefinitions', read, rfl⟩ :=
    exists_definitions_of_rulesOfEntries loads
  rw [isContext, Except.ok.injEq] at isContext'
  subst isContext'
  cases holds with
  | alone areDefinitions isDefinition hasId isNoGroup =>
      rw [areDefinitions', Except.ok.injEq] at areDefinitions
      subst areDefinitions
      obtain ⟨part, isPart, readDefinition⟩ :=
        Outcome.exists_related_of_mem (Outcome.mapM_eq_ok_iff.mp read) isDefinition
      simp only [RuleEntries.allRules, hasId, isNoGroup] at readDefinition
      exact ⟨part, readDefinition, fun rule member =>
        Loaded.mem_rules_concat_iff.mpr ⟨part, isPart, member⟩⟩
  | member areDefinitions isDefinition hasId isGroup areMembers isMember isOwn =>
      rename_i definitions members member group own index
      rw [areDefinitions', Except.ok.injEq] at areDefinitions
      subst areDefinitions
      obtain ⟨part, isPart, readDefinition⟩ :=
        Outcome.exists_related_of_mem (Outcome.mapM_eq_ok_iff.mp read) isDefinition
      simp only [RuleEntries.allRules, hasId] at readDefinition
      obtain ⟨members', areMembers', afterMembers⟩ := Outcome.bind_eq_ok_iff.mp readDefinition
      rw [areMembers, Except.ok.injEq] at areMembers'
      subst areMembers'
      obtain ⟨memberParts, readMembers, result⟩ := Outcome.bind_eq_ok_iff.mp afterMembers
      cases result
      obtain ⟨memberPart, isMemberPart, readMember⟩ :=
        Outcome.exists_related_of_mem (Outcome.mapM_eq_ok_iff.mp readMembers)
          (List.mk_mem_zipIdx_iff_getElem?.mpr isMember)
      simp only [RuleEntries.memberRules, isOwn] at readMember
      refine ⟨memberPart, readMember, fun rule isRule => ?_⟩
      exact
        Loaded.mem_rules_concat_iff.mpr
          ⟨_, isPart, Loaded.mem_rules_concat_iff.mpr ⟨memberPart, isMemberPart, isRule⟩⟩

end Document

/-- A definition of a token is read as its entries and belongs to the phrase. -/
def IsPlacedIn (place : DefinitionPlace) (phrase part : Value) (placed : PlacedToken) : Prop :=
  TokenEntries.ofValue place part = .ok placed.entries ∧ placed.phrase = phrase

/--
An element of a pattern gives its own token, or, if it refers to a phrase, the tokens of one of
the alternatives of this phrase.
-/
inductive Gives (phrases : PhraseTable) (place : DefinitionPlace) :
    Value → List PlacedToken → Prop where
  | token {element : Value} {entries : TokenEntries}
      (isEntries : TokenEntries.ofValue place element = .ok entries)
      (isPlain : Value.field? "phraseref" entries = none) :
      Gives phrases place element [⟨entries, entries.ownPhrase⟩]
  | phrase {element name alternatives alternative : Value} {entries : TokenEntries}
      {options parts : List Value} {placed : List PlacedToken}
      (isEntries : TokenEntries.ofValue place element = .ok entries)
      (isReference : Value.field? "phraseref" entries = some name)
      (isDefined : Value.lookup? name phrases = some alternatives)
      (areOptions : alternatives.elements = .ok options)
      (isOption : alternative ∈ options)
      (areParts : alternative.elements = .ok parts)
      (arePlaced : List.Forall₂ (IsPlacedIn place name) parts placed) :
      Gives phrases place element placed

section Expansion

variable {phrases : PhraseTable} {place : DefinitionPlace}

/-- A phrase whose alternatives are found is defined. -/
theorem lookup?_of_alternatives
    {name alternatives : Value}
    (found : phrases.alternatives place name = .ok alternatives) :
    Value.lookup? name phrases = some alternatives := by
  cases isKey : name.isKey with
  | false =>
      simp [PhraseTable.alternatives, isKey, bind, Except.bind] at found
  | true =>
      cases isDefined : Value.lookup? name phrases with
      | none =>
          simp [PhraseTable.alternatives, isKey, isDefined] at found
      | some given =>
          simpa [PhraseTable.alternatives, isKey, isDefined, bind, Except.bind, pure,
            Except.pure] using found

/-- An element without a reference to a phrase gives its own token only. -/
theorem Gives.eq_singleton
    {element : Value}
    {entries : TokenEntries}
    (isEntries : TokenEntries.ofValue place element = .ok entries)
    (isPlain : Value.field? "phraseref" entries = none)
    {placed : List PlacedToken}
    (gives : Gives phrases place element placed) :
    placed = [⟨entries, entries.ownPhrase⟩] := by
  cases gives with
  | token isEntries' =>
      rw [isEntries, Except.ok.injEq] at isEntries'
      rw [isEntries']
  | phrase isEntries' isReference =>
      rw [isEntries, Except.ok.injEq] at isEntries'
      rw [isEntries', isReference] at isPlain
      cases isPlain

theorem exists_parts_of_placedAlternative
    {name alternative : Value}
    {placed : List PlacedToken}
    (read : PhraseTable.placedAlternative place name alternative = .ok placed) :
    ∃ parts,
      alternative.elements = .ok parts ∧ List.Forall₂ (IsPlacedIn place name) parts placed := by
  obtain ⟨parts, areParts, readParts⟩ := Outcome.bind_eq_ok_iff.mp read
  refine ⟨parts, areParts, (Outcome.mapM_eq_ok_iff.mp readParts).imp ?_⟩
  intro part placedToken readPart
  obtain ⟨entries, areEntries, result⟩ := Outcome.bind_eq_ok_iff.mp readPart
  cases result
  exact ⟨areEntries, rfl⟩

/-- Every choice that an element leaves is one that it gives. -/
theorem gives_of_mem_choicesOf
    {element : Value}
    {choices : List (List PlacedToken)}
    (read : phrases.choicesOf place element = .ok choices)
    {choice : List PlacedToken}
    (member : choice ∈ choices) :
    Gives phrases place element choice := by
  obtain ⟨entries, isEntries, afterEntries⟩ := Outcome.bind_eq_ok_iff.mp read
  cases isReference : Value.field? "phraseref" entries with
  | none =>
      rw [isReference] at afterEntries
      cases afterEntries
      rw [List.mem_singleton.mp member]
      exact .token isEntries isReference
  | some name =>
      rw [isReference] at afterEntries
      obtain ⟨alternatives, found, afterFound⟩ := Outcome.bind_eq_ok_iff.mp afterEntries
      obtain ⟨options, areOptions, readOptions⟩ := Outcome.bind_eq_ok_iff.mp afterFound
      obtain ⟨alternative, isOption, readOption⟩ :=
        Outcome.exists_item_of_mem_mapM readOptions member
      obtain ⟨parts, areParts, arePlaced⟩ := exists_parts_of_placedAlternative readOption
      exact .phrase isEntries isReference (lookup?_of_alternatives found) areOptions isOption
        areParts arePlaced

/-- Every combination of the choices that elements leave is made of what they give. -/
theorem gives_of_mem_combinations
    {elements : List Value}
    {choices : List (List (List PlacedToken))}
    (read : elements.mapM (phrases.choicesOf place) = .ok choices)
    {rows : List (List PlacedToken)}
    (member : rows ∈ combinations choices) :
    List.Forall₂ (Gives phrases place) elements rows := by
  refine Outcome.forall₂_of_common (fun offered element row readElement isOffered => ?_)
    (Outcome.mapM_eq_ok_iff.mp read).flip (mem_combinations_iff.mp member).flip
  exact gives_of_mem_choicesOf readElement isOffered

end Expansion

/-- The elements of the pattern of a definition; without a pattern there are none. -/
def RuleEntries.patternElements (definition : RuleEntries) : Except Failure (List Value) :=
  match Value.field? "pattern" definition with
  | none | some .null => .ok []
  | some pattern => pattern.elements

/-- The pattern of a definition can be read and has these elements. -/
def RuleEntries.HasElements (definition : RuleEntries) (elements : List Value) : Prop :=
  definition.patternElements = .ok elements

/-- The elements of each anti-pattern of a definition. -/
def RuleEntries.HasAntipatterns (definition : RuleEntries) (antipatterns : List (List Value)) :
    Prop :=
  ∃ given,
    (Value.fieldOr "antipatterns" .null definition).elementsIfAny = .ok given ∧
      List.Forall₂ (fun antipattern parts => antipattern.elements = .ok parts) given antipatterns

namespace RuleEntries

theorem HasElements.unique
    {definition : RuleEntries}
    {elements others : List Value}
    (hasElements : definition.HasElements elements)
    (hasOthers : definition.HasElements others) :
    elements = others := by
  rw [HasElements, hasElements, Except.ok.injEq] at hasOthers
  exact hasOthers

theorem HasAntipatterns.unique
    {definition : RuleEntries}
    {antipatterns others : List (List Value)}
    (hasAntipatterns : definition.HasAntipatterns antipatterns)
    (hasOthers : definition.HasAntipatterns others) :
    antipatterns = others := by
  obtain ⟨given, areGiven, areParts⟩ := hasAntipatterns
  obtain ⟨given', areGiven', areOthers⟩ := hasOthers
  rw [areGiven, Except.ok.injEq] at areGiven'
  subst areGiven'
  refine List.right_unique_forall₂' (fun antipattern parts others isParts isOthers => ?_)
    areParts areOthers
  exact Except.ok.inj (isParts.symm.trans isOthers)

end RuleEntries

namespace Rule

/-- The rule is made with the tokens that are placed, and has some of its parts in common. -/
def IsMadeOf (rule : Rule) (place : DefinitionPlace) (common : RuleParts)
    (placed : List PlacedToken) : Prop :=
  ∃ parts : RuleParts,
    parts.antipatterns = common.antipatterns ∧
      parts.ownImmunizer = common.ownImmunizer ∧
        Rule.ofParts parts = .ok rule ∧ tokensOf place placed = .ok (parts.tokens.getD [])

/-- The tokens of the pattern are read in order from what its elements give. -/
structure ReadsPattern (rule : Rule) (phrases : PhraseTable) (place : DefinitionPlace)
    (elements : List Value) (rows : List (List PlacedToken)) : Prop where
  given : List.Forall₂ (Gives phrases place) elements rows
  tokens :
    List.Forall₂
      (fun placed token =>
        placed.entries.token place placed.phrase (some (unitOffsets rule.unitSizes)) = .ok token)
      rows.flatten rule.tokens

/-- The tokens of the anti-patterns are read in order from their elements, empty ones apart. -/
def ReadsAntipatterns (rule : Rule) (place : DefinitionPlace) (antipatterns : List (List Value)) :
    Prop :=
  ∃ rows,
    List.Forall₂
        (List.Forall₂ fun part token =>
          ∃ entries : TokenEntries,
            TokenEntries.ofValue place part = .ok entries ∧
              entries.token place entries.ownPhrase none = .ok token)
        antipatterns rows ∧
      rule.antipatterns = rows.filter (!·.isEmpty)

end Rule

theorem exists_parts_of_antipatternOf
    {place : DefinitionPlace}
    {antipattern : Value}
    {tokens : List Token}
    (read : antipatternOf place antipattern = .ok tokens) :
    ∃ parts,
      antipattern.elements = .ok parts ∧
        List.Forall₂
          (fun part token =>
            ∃ entries : TokenEntries,
              TokenEntries.ofValue place part = .ok entries ∧
                entries.token place entries.ownPhrase none = .ok token)
          parts tokens := by
  obtain ⟨parts, areParts, afterParts⟩ := Outcome.bind_eq_ok_iff.mp read
  obtain ⟨defined, areDefined, readTokens⟩ := Outcome.bind_eq_ok_iff.mp afterParts
  refine ⟨parts, areParts, ?_⟩
  refine Outcome.forall₂_of_mapM (fun part entries token isEntries readToken => ?_)
    (Outcome.mapM_eq_ok_iff.mp areDefined) readTokens
  exact ⟨entries, isEntries, readToken⟩

namespace RuleEntries

variable {context : DefinitionContext} {id subId : Value} {definition : RuleEntries}

/--
There is a rule of a definition for each combination of the choices that the elements of its
pattern leave, and the rules have the other parts in common.
-/
theorem exists_combinations_of_rules
    {loaded : Loaded}
    (reads : rules context id subId definition = .ok loaded) :
    ∃ given common elements choices,
      commonParts context ⟨context.source, id⟩ subId given definition = .ok common ∧
        definition.HasElements elements ∧
          elements.mapM (context.phrases.choicesOf ⟨context.source, id⟩) = .ok choices ∧
            List.Forall₂
              (fun rows rule => rule.IsMadeOf ⟨context.source, id⟩ common rows.flatten)
              (combinations choices) loaded.rules := by
  obtain ⟨_, _, afterKeys⟩ := Outcome.bind_eq_ok_iff.mp reads
  obtain ⟨given, _, afterMessage⟩ := Outcome.bind_eq_ok_iff.mp afterKeys
  obtain ⟨common, isCommon, afterCommon⟩ := Outcome.bind_eq_ok_iff.mp afterMessage
  obtain ⟨noTokens, _⟩ := tokens_expression_of_commonParts isCommon
  have isMadeOfNothing
      {parts : RuleParts}
      (sameAntipatterns : parts.antipatterns = common.antipatterns)
      (sameImmunizer : parts.ownImmunizer = common.ownImmunizer)
      (sameTokens : parts.tokens = common.tokens)
      {rule : Rule}
      (makes : Rule.ofParts parts = .ok rule) :
      rule.IsMadeOf ⟨context.source, id⟩ common [] :=
    ⟨parts, sameAntipatterns, sameImmunizer, makes, by rw [sameTokens, noTokens]; rfl⟩
  unfold HasElements patternElements
  -- Without a pattern there is one combination, of no choices, and one rule.
  split at afterCommon
  · cases afterCommon
  · rename_i noPattern
    obtain ⟨rule, makes, result⟩ := Outcome.bind_eq_ok_iff.mp afterCommon
    cases result
    obtain ⟨mark, _, makesRule⟩ := Outcome.bind_eq_ok_iff.mp makes
    refine ⟨given, common, [], [], isCommon, by rw [noPattern], rfl, .cons ?_ .nil⟩
    refine isMadeOfNothing ?_ ?_ ?_ makesRule
    · rfl
    · rfl
    · rfl
  · rename_i noPattern
    obtain ⟨_, _, afterId⟩ := Outcome.bind_eq_ok_iff.mp afterCommon
    obtain ⟨rule, makes, result⟩ := Outcome.bind_eq_ok_iff.mp afterId
    cases result
    refine ⟨given, common, [], [], isCommon, by rw [noPattern], rfl, .cons ?_ .nil⟩
    exact isMadeOfNothing rfl rfl rfl makes
  · rename_i nullPattern
    obtain ⟨_, _, afterId⟩ := Outcome.bind_eq_ok_iff.mp afterCommon
    obtain ⟨rule, makes, result⟩ := Outcome.bind_eq_ok_iff.mp afterId
    cases result
    refine ⟨given, common, [], [], isCommon, by rw [nullPattern], rfl, .cons ?_ .nil⟩
    exact isMadeOfNothing rfl rfl rfl makes
  · rename_i pattern notNull _ isPattern
    obtain ⟨made, makes, result⟩ := Outcome.bind_eq_ok_iff.mp afterCommon
    cases result
    obtain ⟨alternatives, expanded, makesEach⟩ := Outcome.bind_eq_ok_iff.mp makes
    obtain ⟨elements, areElements, afterElements⟩ := Outcome.bind_eq_ok_iff.mp expanded
    obtain ⟨choices, readChoices, readTokens⟩ := Outcome.bind_eq_ok_iff.mp afterElements
    refine ⟨given, common, elements, choices, isCommon, ?_, readChoices, ?_⟩
    · rw [isPattern]
      split
      · rename_i isNone
        cases isNone
      · rename_i isNull
        cases isNull
        exact (notNull rfl).elim
      · rename_i isSome
        cases isSome
        exact areElements
    · refine Outcome.forall₂_of_mapM
        (fun combination tokens rule readRow makesRule => ⟨_, ?_, ?_, makesRule, readRow⟩)
        (Outcome.mapM_eq_ok_iff.mp readTokens) makesEach
      · rfl
      · rfl

/-- The anti-patterns of a definition are read element by element. -/
theorem exists_antipatterns
    {place : DefinitionPlace}
    {rows : List (List Token)}
    (read : antipatterns place definition = .ok rows) :
    ∃ parts,
      definition.HasAntipatterns parts ∧
        List.Forall₂
          (List.Forall₂ fun part token =>
            ∃ entries : TokenEntries,
              TokenEntries.ofValue place part = .ok entries ∧
                entries.token place entries.ownPhrase none = .ok token)
          parts rows := by
  obtain ⟨given, isGiven, readGiven⟩ := Outcome.bind_eq_ok_iff.mp read
  have eachHasParts :
      ∀ antipattern ∈ given, ∃ parts, antipattern.elements = .ok parts := by
    intro antipattern member
    obtain ⟨tokens, readTokens⟩ := Outcome.exists_result_of_mem readGiven member
    obtain ⟨parts, areParts, _⟩ := exists_parts_of_antipatternOf readTokens
    exact ⟨parts, areParts⟩
  obtain ⟨parts, readParts, _⟩ := Outcome.exists_mapM_eq_ok eachHasParts
  rw [Outcome.mapM_eq_ok_iff] at readGiven readParts
  refine ⟨parts, ⟨given, isGiven, readParts⟩, ?_⟩
  refine Outcome.forall₂_of_common (fun antipattern ofParts tokens areParts readTokens => ?_)
    readParts readGiven
  obtain ⟨parts, areParts', arePartTokens⟩ := exists_parts_of_antipatternOf readTokens
  rw [areParts, Except.ok.injEq] at areParts'
  rw [areParts']
  exact arePartTokens

/-- The rules of a definition are read from the elements of its pattern and anti-patterns. -/
theorem exists_readings_of_rules
    {loaded : Loaded}
    (reads : rules context id subId definition = .ok loaded) :
    ∃ elements choices antipatterns,
      definition.HasElements elements ∧
        definition.HasAntipatterns antipatterns ∧
          elements.mapM (context.phrases.choicesOf ⟨context.source, id⟩) = .ok choices ∧
            List.Forall₂
              (fun rows rule =>
                rule.ReadsPattern context.phrases ⟨context.source, id⟩ elements rows ∧
                  rule.ReadsAntipatterns ⟨context.source, id⟩ antipatterns ∧
                    rule.ownImmunizer = none)
              (combinations choices) loaded.rules := by
  obtain ⟨given, common, elements, choices, isCommon, areElements, readChoices, makesEach⟩ :=
    exists_combinations_of_rules reads
  obtain ⟨antipatternRows, readAntipatterns, afterAntipatterns⟩ :=
    Outcome.bind_eq_ok_iff.mp isCommon
  obtain ⟨_, _, afterStart⟩ := Outcome.bind_eq_ok_iff.mp afterAntipatterns
  obtain ⟨_, _, result⟩ := Outcome.bind_eq_ok_iff.mp afterStart
  cases result
  obtain ⟨antipatterns, hasAntipatterns, areTokens⟩ := exists_antipatterns readAntipatterns
  refine ⟨elements, choices, antipatterns, areElements, hasAntipatterns, readChoices, ?_⟩
  refine ((List.forall₂_and_left _ _).mpr ⟨fun _ member => member, makesEach⟩).imp ?_
  rintro rows rule ⟨isCombination, parts, sameAntipatterns, sameImmunizer, makes, readRow⟩
  have sameTokens := Rule.tokens_of_ofParts makes
  rw [← sameTokens] at readRow
  obtain ⟨pattern, _, rfl⟩ := Rule.exists_pattern_of_ofParts makes
  refine ⟨⟨gives_of_mem_combinations readChoices isCombination, ?_⟩,
    ⟨antipatternRows, areTokens, by rw [Rule.ofPattern, sameAntipatterns]⟩, sameImmunizer⟩
  have sameOffsets := placedOffsets_of_tokensOf readRow
  rw [tokensOf, sameOffsets, Outcome.mapM_eq_ok_iff] at readRow
  exact readRow

end RuleEntries

/-- A rule that is loaded immunizes words by its anti-patterns only. -/
theorem ownImmunizer_of_mem_rulesOfEntries
    {source language : String}
    {document : List (Value × Value)}
    {loaded : Loaded}
    (loads : rulesOfEntries source language document = .ok loaded)
    {rule : Rule}
    (member : rule ∈ loaded.rules) :
    rule.ownImmunizer = none := by
  obtain ⟨context, _, _, isContext, _⟩ := exists_definitions_of_rulesOfEntries loads
  obtain ⟨_, _, _, part, _, reads, inPart⟩ := exists_definition_of_mem isContext loads member
  obtain ⟨_, _, _, _, _, _, readEach⟩ := RuleEntries.exists_readings_of_rules reads
  obtain ⟨_, _, _, _, defaultImmunizer⟩ := Outcome.exists_related_of_mem readEach.flip inPart
  exact defaultImmunizer

/-- Every reference of a loaded rule goes to the start of a unit. -/
theorem refersToStarts_of_mem_rulesOfEntries
    {source language : String}
    {document : List (Value × Value)}
    {loaded : Loaded}
    (loads : rulesOfEntries source language document = .ok loaded)
    {rule : Rule}
    (member : rule ∈ loaded.rules) :
    rule.RefersToStarts := by
  obtain ⟨context, _, _, isContext, _⟩ := exists_definitions_of_rulesOfEntries loads
  obtain ⟨_, _, _, part, _, reads, inPart⟩ := exists_definition_of_mem isContext loads member
  obtain ⟨_, _, _, _, _, _, _, makesEach⟩ := RuleEntries.exists_combinations_of_rules reads
  obtain ⟨_, _, parts, _, _, makes, readTokens⟩ :=
    Outcome.exists_related_of_mem makesEach.flip inPart
  rw [Rule.RefersToStarts, Rule.unitSizes, Rule.tokens_of_ofParts makes]
  exact referringToStart_of_mem_tokensOf readTokens

end ProseRules
