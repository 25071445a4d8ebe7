import ProseRules.Proofs.Definition.ReaderFailures

namespace ProseRules

/-!
# Failures that escape

The conditions of readable documents cannot be left out. For each of them there is a document
with a place for one value, and if the value does not fit there, loading fails in another way
than by refusing a definition.
-/

open Outcome (Escapes FailsOnly escapes_of_failsOnly)

section Documents

variable {source language : String} {context : DefinitionContext} {definition : RuleEntries}

theorem escapes_allRules_of_rules
    {id : Value}
    (hasId : Value.field? "id" definition = some id)
    (isNoGroup : Value.field? "rules" definition = none)
    (escapes : Escapes (RuleEntries.rules context id .null definition)) :
    Escapes (RuleEntries.allRules context (.mapping definition)) := by
  unfold RuleEntries.allRules Value.fieldOr
  dsimp only
  rw [hasId, isNoGroup]
  exact escapes

theorem escapes_allRules_of_members
    {id group : Value}
    (hasId : Value.field? "id" definition = some id)
    (isGroup : Value.field? "rules" definition = some group)
    (notNull : group ≠ .null)
    (notIterable : ¬group.IsIterable) :
    Escapes (RuleEntries.allRules context (.mapping definition)) := by
  unfold RuleEntries.allRules Value.fieldOr
  dsimp only
  rw [hasId, isGroup]
  cases group with
  | null =>
      exact (notNull rfl).elim
  | _ =>
      exact (Value.escapes_elements notIterable).bind _

theorem escapes_allRules_of_member
    {id member : Value}
    (hasId : Value.field? "id" definition = some id)
    (isGroup : Value.field? "rules" definition = some (.list [member]))
    (noEntries : ¬∃ own, member.toEntries = .ok own) :
    Escapes (RuleEntries.allRules context (.mapping definition)) := by
  unfold RuleEntries.allRules Value.fieldOr
  dsimp only
  rw [hasId, isGroup]
  refine Escapes.bind_of_ok rfl (Escapes.bind (.mapM_cons ?_ []) _)
  exact (escapes_of_failsOnly Value.failsOnly_toEntries noEntries).bind _

theorem escapes_rulesOfEntries_documentOf
    {phrases : PhraseTable}
    (escapes :
      ∀ language,
        Escapes (RuleEntries.allRules ⟨source, language, phrases⟩ (.mapping definition))) :
    Escapes (rulesOfEntries source language (documentOf phrases definition)) := by
  have hasPhrases :
      Value.fieldOr "phrases" .null (documentOf phrases definition) = .mapping phrases := by
    simp [documentOf, Value.fieldOr]
  unfold rulesOfEntries DefinitionContext.ofEntries
  rw [hasPhrases, elementsIfAny_documentOf]
  refine .bind_of_ok rfl (.bind_of_ok rfl ?_)
  exact ((escapes _).mapM_cons []).bind _

/-- The definition of a rule with an id, a message and more entries. -/
def ruleWith (more : RuleEntries) : RuleEntries :=
  (.text "id", .text "R") :: (.text "message", .text "m") :: more

theorem field?_id_ruleWith
    (more : RuleEntries) :
    Value.field? "id" (ruleWith more) = some (.text "R") := by
  simp [ruleWith]

theorem field?_message_ruleWith
    (more : RuleEntries) :
    Value.field? "message" (ruleWith more) = some (.text "m") := by
  simp [ruleWith]

theorem escapes_rulesOfEntries_ruleWith
    {phrases : PhraseTable}
    {more : RuleEntries}
    (isNoGroup : Value.field? "rules" more = none)
    (escapes :
      ∀ language,
        Escapes
          (RuleEntries.rules ⟨source, language, phrases⟩ (.text "R") .null (ruleWith more))) :
    Escapes (rulesOfEntries source language (documentOf phrases (ruleWith more))) := by
  refine escapes_rulesOfEntries_documentOf fun language => ?_
  refine escapes_allRules_of_rules (field?_id_ruleWith more) ?_ (escapes language)
  simpa [ruleWith] using isNoGroup

/-- A definition with more entries escapes if their keys cannot be listed. -/
theorem escapes_rulesOfEntries_keys
    {more : RuleEntries}
    (isNoGroup : Value.field? "rules" more = none)
    (notListable : ¬Value.HasListableKeys RuleEntries.knownKeys more) :
    Escapes (rulesOfEntries source language (documentOf [] (ruleWith more))) := by
  have sameUnknown :
      Value.unknownKeys RuleEntries.knownKeys (ruleWith more) =
        Value.unknownKeys RuleEntries.knownKeys more := by
    simp [ruleWith, Value.unknownKeys, Value.asText?, RuleEntries.knownKeys]
  refine escapes_rulesOfEntries_ruleWith isNoGroup fun _ => ?_
  refine RuleEntries.escapes_rules_of_keys fun listable => notListable ⟨?_, ?_⟩
  · rw [← sameUnknown]
    exact listable.ordered
  · rw [← sameUnknown]
    exact listable.canBeShown

theorem exists_hasParts_ruleWith
    {more : RuleEntries}
    (allKnown : ∀ entry ∈ more, ∃ name ∈ RuleEntries.knownKeys, entry.1 = .text name)
    (noAntipatterns : Value.field? "antipatterns" more = none)
    (noMark : Value.field? "mark" more = none) :
    ∃ parts,
      RuleEntries.HasParts context (.text "R") .null (ruleWith more) (.text "m") parts ∧
        parts.tokens = none ∧ parts.expression = none := by
  obtain ⟨parts, hasParts, _⟩ :=
    @RuleEntries.exists_hasParts context (.text "R") .null (ruleWith more)
      (by simpa [ruleWith, RuleEntries.knownKeys] using allKnown) (.text "m")
      (field?_message_ruleWith more) (by simpa [ruleWith] using noAntipatterns)
      (by simpa [ruleWith] using noMark)
  exact ⟨parts, hasParts, RuleEntries.tokens_expression_of_commonParts hasParts.common⟩

/-- A definition with a pattern escapes if its pattern cannot be used. -/
theorem escapes_rulesOfEntries_pattern
    {phrases : PhraseTable}
    {pattern : Value}
    (notNull : pattern ≠ .null)
    (unusable : ∀ place, IsUnusable (fun token => [[token]]) (expand phrases place pattern)) :
    Escapes
      (rulesOfEntries source language
        (documentOf phrases (ruleWith [(.text "pattern", pattern)]))) := by
  refine escapes_rulesOfEntries_ruleWith (by simp) fun language => ?_
  obtain ⟨parts, hasParts, _, noExpression⟩ :=
    @exists_hasParts_ruleWith ⟨source, language, phrases⟩ [(.text "pattern", pattern)]
      (by simp [RuleEntries.knownKeys]) (by simp) (by simp)
  exact
    RuleEntries.escapes_rules_of_pattern hasParts (by simp [ruleWith]) (by simp [ruleWith])
      notNull (RuleEntries.escapes_patternRules noExpression (unusable _))

theorem elementsIfAny_antipatterns
    (antipattern : Value) :
    (Value.fieldOr "antipatterns" .null
        (ruleWith [(.text "antipatterns", .list [antipattern])])).elementsIfAny =
      .ok [antipattern] := by
  simp [ruleWith, Value.fieldOr, Value.elementsIfAny, Value.isTruthy, Value.elements]

/-- A definition with anti-patterns alone escapes if they cannot be used. -/
theorem escapes_rulesOfEntries_antipatterns
    {given : Value}
    (unusable :
      ∀ place,
        IsUnusable (fun token => [[token]])
          (RuleEntries.antipatterns place (ruleWith [(.text "antipatterns", given)]))) :
    Escapes
      (rulesOfEntries source language
        (documentOf [] (ruleWith [(.text "antipatterns", given)]))) := by
  refine escapes_rulesOfEntries_ruleWith (by simp) fun language => ?_
  refine
    RuleEntries.escapes_rules_of_antipatterns
      (RuleEntries.hasMessage_of_known ?_ (field?_message_ruleWith _)) ?_ ?_ ?_ (unusable _)
  · simp [ruleWith, RuleEntries.knownKeys]
  · simp [ruleWith]
  · simp [ruleWith]
  · simp [ruleWith]

/-- Definitions that cannot be gone through make loading fail. -/
theorem escapes_rulesOfEntries_definitions
    {value : Value}
    (notIterable : ¬value.IsIterableIfAny) :
    Escapes (rulesOfEntries source language [(.text "rules", value)]) := by
  have noPhrases :
      Value.fieldOr "phrases" .null [(.text "rules", value)] = .null := by
    simp [Value.fieldOr]
  have areDefinitions :
      Value.fieldOr "rules" .null [(.text "rules", value)] = value := by
    simp [Value.fieldOr]
  unfold rulesOfEntries DefinitionContext.ofEntries
  rw [noPhrases, areDefinitions]
  exact .bind_of_ok rfl ((Value.escapes_elementsIfAny notIterable).bind _)

theorem escapes_rulesOfEntries_mark
    {value : Value}
    (notMark : ¬value.IsMark) :
    Escapes
      (rulesOfEntries source language (documentOf [] (ruleWith [(.text "mark", value)]))) := by
  refine escapes_rulesOfEntries_ruleWith (by simp) fun _ => ?_
  refine
    RuleEntries.escapes_rules_of_commonParts
      (RuleEntries.hasMessage_of_known ?_ (field?_message_ruleWith _)) ?_
  · simp [ruleWith, RuleEntries.knownKeys]
  · refine RuleEntries.escapes_commonParts_of_mark (by simp [ruleWith]) ?_
    have isMark : Value.fieldOr "mark" .null (ruleWith [(.text "mark", value)]) = value := by
      simp [ruleWith, Value.fieldOr]
    rw [isMark]
    exact notMark

theorem escapes_rulesOfEntries_expression
    {value : Value}
    (notSource : ¬value.IsExpressionSource) :
    Escapes
      (rulesOfEntries source language (documentOf [] (ruleWith [(.text "regex", value)]))) := by
  refine escapes_rulesOfEntries_ruleWith (by simp) fun language => ?_
  obtain ⟨parts, hasParts, noTokens, _⟩ :=
    @exists_hasParts_ruleWith ⟨source, language, []⟩ [(.text "regex", value)]
      (by simp [RuleEntries.knownKeys]) (by simp) (by simp)
  have isExpression :
      Value.field? "regex" (ruleWith [(.text "regex", value)]) = some value := by
    simp [ruleWith]
  refine
    RuleEntries.escapes_rules_of_expression hasParts (by simp [ruleWith]) isExpression ?_
  exact RuleEntries.escapes_expressionRule_of_source noTokens (by simp [ruleWith]) notSource

/-- The expression of one letter has no groups. -/
theorem exists_expression_of_letter :
    ∃ expression, Regex.Expression.ofSource "x" = .ok expression ∧ expression.groups = 0 := by
  have evaluated :
      (Regex.Expression.ofSource "x").toOption.map Regex.Expression.groups = some 0 := by
    decide +kernel
  exact Outcome.exists_eq_ok_of_toOption_map evaluated

theorem escapes_rulesOfEntries_expressionMark
    {value : Value}
    (notNumber : ¬value.IsGroupNumber) :
    Escapes
      (rulesOfEntries source language
        (documentOf [] (ruleWith [(.text "regex", .text "x"), (.text "regex_mark", value)]))) := by
  refine escapes_rulesOfEntries_ruleWith (by simp) fun language => ?_
  obtain ⟨parts, hasParts, noTokens, _⟩ :=
    @exists_hasParts_ruleWith ⟨source, language, []⟩
      [(.text "regex", .text "x"), (.text "regex_mark", value)]
      (by simp [RuleEntries.knownKeys]) (by simp) (by simp)
  have isExpression :
      Value.field? "regex"
          (ruleWith [(.text "regex", .text "x"), (.text "regex_mark", value)]) =
        some (.text "x") := by
    simp [ruleWith]
  obtain ⟨expression, isRead, noGroups⟩ := exists_expression_of_letter
  refine
    RuleEntries.escapes_rules_of_expression hasParts (by simp [ruleWith]) isExpression
      (RuleEntries.escapes_expressionRule_of_mark noTokens isRead noGroups ?_)
  simpa [ruleWith, Value.fieldOr] using notNumber

theorem field?_eq_none
    {names : List String}
    (allNamed : ∀ entry ∈ definition, ∃ key ∈ names, entry.1 = .text key)
    {name : String}
    (isOther : name ∉ names) :
    Value.field? name definition = none := by
  unfold Value.field? Value.lookup?
  rw [Option.map_eq_none_iff, List.find?_eq_none]
  intro entry member
  obtain ⟨key, isName, isKey⟩ := allNamed entry member
  rw [isKey, Value.equals_text, decide_eq_true_eq]
  rintro rfl
  exact isOther isName

/-- The keys of a definition that has nothing to match. -/
def textKeys : List String :=
  ["id", "message", "short_message", "suggestions_out_msg"]

/-- A definition with nothing to match escapes if it lacks one of its texts. -/
theorem escapes_rulesOfEntries_noText
    (hasId : Value.field? "id" definition = some (.text "R"))
    {given : Value}
    (isGiven : Value.field? "message" definition = some given)
    (allTexts : ∀ entry ∈ definition, ∃ name ∈ textKeys, entry.1 = .text name)
    (noText :
      given = .null ∨
        Value.fieldOr "short_message" (.text "") definition = .null ∨
          Value.fieldOr "suggestions_out_msg" (.text "") definition = .null) :
    Escapes (rulesOfEntries source language (documentOf [] definition)) := by
  refine escapes_rulesOfEntries_documentOf fun language => ?_
  refine escapes_allRules_of_rules hasId (field?_eq_none allTexts (by decide)) ?_
  have allKnown : ∀ entry ∈ definition, ∃ name ∈ RuleEntries.knownKeys, entry.1 = .text name := by
    intro entry member
    obtain ⟨name, isName, isKey⟩ := allTexts entry member
    have isKnown : textKeys ⊆ RuleEntries.knownKeys := by decide
    exact ⟨name, isKnown isName, isKey⟩
  obtain ⟨parts, hasParts, rfl, isShortMessage, areSuggestions⟩ :=
    @RuleEntries.exists_hasParts ⟨source, language, []⟩ (.text "R") .null definition allKnown
      given isGiven (field?_eq_none allTexts (by decide)) (field?_eq_none allTexts (by decide))
  refine
    RuleEntries.escapes_rules_of_ofParts hasParts (field?_eq_none allTexts (by decide))
      (field?_eq_none allTexts (by decide)) fun _ => ?_
  refine Rule.escapes_ofParts fun message shortMessage suggestions => ?_
  rw [isShortMessage] at shortMessage
  rw [areSuggestions] at suggestions
  rcases noText with isNull | isNull | isNull
  · exact (message isNull).elim
  · exact (shortMessage isNull).elim
  · exact (suggestions isNull).elim

/-- A rule that looks for nothing is named in a notice, which an id with long numbers prevents. -/
theorem escapes_rulesOfEntries_id
    {value : Value}
    (notShown : value.canBeShown = false) :
    Escapes
      (rulesOfEntries source language
        (documentOf [] [(.text "id", value), (.text "message", .text "m")])) := by
  refine escapes_rulesOfEntries_documentOf fun language => ?_
  have hasId :
      Value.field? "id" [(.text "id", value), (.text "message", .text "m")] = some value := by
    simp
  refine escapes_allRules_of_rules hasId (by simp) ?_
  obtain ⟨parts, hasParts, _⟩ :=
    @RuleEntries.exists_hasParts ⟨source, language, []⟩ value .null
      [(.text "id", value), (.text "message", .text "m")] (by simp [RuleEntries.knownKeys])
      (.text "m") (by simp) (by simp) (by simp)
  refine
    RuleEntries.escapes_rules_of_ofParts hasParts (by simp) (by simp) fun isShown => ?_
  rw [notShown] at isShown
  cases isShown

end Documents

/-- Where the definition of a token may stand. -/
inductive TokenPlace where
  | pattern
  | antipattern
  | alternative

namespace TokenPlace

/-- The place is one where a token may repeat a part of the pattern. -/
def isInPattern : TokenPlace → Bool
  | antipattern => false
  | pattern | alternative => true

/-- A document with the definition of a token at the place. -/
def document (place : TokenPlace) (part : Value) : List (Value × Value) :=
  match place with
  | pattern => documentOf [] (ruleWith [(.text "pattern", .list [part])])
  | antipattern => documentOf [] (ruleWith [(.text "antipatterns", .list [.list [part]])])
  | alternative =>
      documentOf [(.text "p", .list [.list [part]])]
        (ruleWith [(.text "pattern", .list [phraseReference (.text "p")])])

/-- A token that cannot be used makes loading fail wherever it stands. -/
theorem escapes_document
    (place : TokenPlace)
    {part : Value}
    (cannotBeUsed : part.CannotBeUsed place.isInPattern)
    {source language : String} :
    Escapes (rulesOfEntries source language (place.document part)) := by
  cases place with
  | pattern =>
      refine escapes_rulesOfEntries_pattern (by simp) fun _ => ?_
      exact isUnusable_expand_token cannotBeUsed
  | antipattern =>
      refine escapes_rulesOfEntries_antipatterns fun _ => ?_
      unfold RuleEntries.antipatterns
      rw [elementsIfAny_antipatterns]
      exact .bind_of_ok rfl (.mapM_singleton (isUnusable_antipatternOf cannotBeUsed))
  | alternative =>
      refine escapes_rulesOfEntries_pattern (by simp) fun _ => ?_
      exact isUnusable_expand_alternative cannotBeUsed

end TokenPlace

/-- The places of a document whose values need to be of certain kinds. -/
inductive Slot where
  | definitions
  | members
  | member
  | id
  | loneRuleKey
  | ruleKey
  | message
  | shortMessage
  | suggestions
  | mark
  | antipatterns
  | antipattern
  | expression
  | expressionMark
  | pattern
  | phraseName
  | alternatives
  | alternative
  | token (place : TokenPlace)
  | loneTokenKey (place : TokenPlace)
  | tokenKey (place : TokenPlace)
  | least (place : TokenPlace)
  | most (place : TokenPlace)
  | reference (place : TokenPlace)

namespace Slot

/-- A document with one value at the place; a key stands alone or beside another unknown one. -/
def document : Slot → Value → List (Value × Value)
  | definitions, value => [(.text "rules", value)]
  | members, value => documentOf [] (ruleWith [(.text "rules", value)])
  | member, value => documentOf [] (ruleWith [(.text "rules", .list [value])])
  | id, value => documentOf [] [(.text "id", value), (.text "message", .text "m")]
  | loneRuleKey, value => documentOf [] (ruleWith [(value, .null)])
  | ruleKey, value => documentOf [] (ruleWith [(value, .null), (.text "unknown", .null)])
  | message, value => documentOf [] [(.text "id", .text "R"), (.text "message", value)]
  | shortMessage, value => documentOf [] (ruleWith [(.text "short_message", value)])
  | suggestions, value => documentOf [] (ruleWith [(.text "suggestions_out_msg", value)])
  | mark, value => documentOf [] (ruleWith [(.text "mark", value)])
  | antipatterns, value => documentOf [] (ruleWith [(.text "antipatterns", value)])
  | antipattern, value => documentOf [] (ruleWith [(.text "antipatterns", .list [value])])
  | expression, value => documentOf [] (ruleWith [(.text "regex", value)])
  | expressionMark, value =>
      documentOf [] (ruleWith [(.text "regex", .text "x"), (.text "regex_mark", value)])
  | pattern, value => documentOf [] (ruleWith [(.text "pattern", value)])
  | phraseName, value => documentOf [] (ruleWith [(.text "pattern", .list [phraseReference value])])
  | alternatives, value =>
      documentOf [(.text "p", value)]
        (ruleWith [(.text "pattern", .list [phraseReference (.text "p")])])
  | alternative, value =>
      documentOf [(.text "p", .list [value])]
        (ruleWith [(.text "pattern", .list [phraseReference (.text "p")])])
  | token place, value => place.document value
  | loneTokenKey place, value => place.document (.mapping [(value, .null)])
  | tokenKey place, value =>
      place.document (.mapping [(value, .null), (.text "unknown", .null)])
  | least place, value => place.document (.mapping [(.text "min", value)])
  | most place, value => place.document (.mapping [(.text "max", value)])
  | reference place, value => place.document (.mapping [(.text "reference", value)])

/-- The value is of a kind that is expected at the place. -/
def Fits : Slot → Value → Prop
  | definitions, value | antipatterns, value => value.IsIterableIfAny
  | members, value | pattern, value => value = .null ∨ value.IsIterable
  | member, value => ∃ own, value.toEntries = .ok own
  | id, value => value.canBeShown = true
  | loneRuleKey, value | loneTokenKey _, value => value.isKey = true → value.canBeShown = true
  | ruleKey, value | tokenKey _, value => value.isKey = true → ∃ name, value = .text name
  | message, value | shortMessage, value | suggestions, value => value ≠ .null
  | mark, value => value.IsMark
  | antipattern, value | alternatives, value | alternative, value => value.IsIterable
  -- An expression over bytes is none of those that rules have here.
  | expression, value => value.IsExpressionSource ∨ ∃ content, value = .bytes content
  | expressionMark, value => value.IsGroupNumber
  | phraseName, value => value.isKey = true ∧ value.canBeShown = true
  -- A mapping has places of its own.
  | token _, value => (∀ entries, value ≠ .mapping entries) → value.canBeShown = true
  | least _, value => value.IsLeast
  | most _, value => value.IsMost
  | reference place, value => value.IsReference place.isInPattern

end Slot

namespace Real64

/-- A number whose whole part is greater than 1 is greater than 1. -/
theorem compareInt?_one_of_truncated?
    {x : Real64}
    {number : Int}
    (isWhole : x.truncated? = some number)
    (isGreat : 1 < number) :
    x.compareInt? 1 = some .gt := by
  unfold truncated? ratio? at isWhole
  unfold compareInt? ratio?
  cases decoded : x.decode with
  | infinite negative | undefined =>
      simp [decoded] at isWhole
  | finite negative mantissa exponent =>
      simp only [decoded, Option.map_some, Option.some.injEq] at isWhole
      dsimp only
      generalize signed negative (mantissa * Nat.pow 2 exponent.toNat) = numerator at isWhole ⊢
      have isPositive : 0 < Nat.pow 2 (-exponent).toNat := Nat.pow_pos (by decide)
      generalize Nat.pow 2 (-exponent).toNat = denominator at isWhole isPositive ⊢
      have isGreater : (denominator : Int) < numerator := by
        by_contra notGreater
        have atMostOne : numerator.tdiv denominator ≤ (denominator : Int).tdiv denominator :=
          Int.tdiv_le_tdiv (by omega) (by omega)
        rw [isWhole, Int.tdiv_self (by omega)] at atMostOne
        omega
      simp only [Option.bind_eq_bind, Option.bind_some, Int.one_mul, Option.pure_def,
        Option.some.injEq]
      exact Int.compare_eq_gt.mpr isGreater

end Real64

/-- A value whose whole part is greater than 1 is greater than 1. -/
theorem Value.compare?_one_of_toInteger
    {value : Value}
    {quantity : Quantity}
    (isQuantity : value.quantity? = some quantity)
    {number : Int}
    (isWhole : value.toInteger = .ok number)
    (isGreat : 1 < number) :
    quantity.compare? (.whole 1) = some .gt := by
  cases value with
  | bool truth =>
      cases isWhole
      cases truth with
      | false => cases isGreat
      | true => exact (Int.lt_irrefl 1 isGreat).elim
  | int n =>
      cases isWhole
      cases isQuantity
      exact congrArg some (Int.compare_eq_gt.mpr isGreat)
  | real x =>
      cases isQuantity
      refine Real64.compareInt?_one_of_truncated? ?_ isGreat
      simp only [toInteger] at isWhole
      split at isWhole
      · rename_i isTruncated
        cases isWhole
        exact isTruncated
      · cases isWhole
      · cases isWhole
  | _ =>
      cases isQuantity

section Tokens

variable {value : Value}

/-- An entry of a token that is known by its name is read as it is. -/
theorem ofValue_single
    {place : DefinitionPlace}
    {name : String}
    (isKnown : name ∈ TokenEntries.knownKeys) :
    TokenEntries.ofValue place (.mapping [(.text name, value)]) = .ok [(.text name, value)] := by
  have noneUnknown : Value.unknownKeys TokenEntries.knownKeys [(.text name, value)] = [] :=
    Value.unknownKeys_eq_nil (by simpa using isKnown)
  unfold TokenEntries.ofValue DefinitionPlace.requireKnown
  dsimp only
  rw [noneUnknown]
  rfl

theorem reference_single
    {place : DefinitionPlace}
    {offsets : Option (List Nat)}
    {name : String}
    (isOther : name ≠ "reference") :
    TokenEntries.reference place offsets [(.text name, value)] = .ok none := by
  have isNull : Value.fieldOr "reference" .null [(.text name, value)] = .null := by
    simp [Value.fieldOr, isOther]
  unfold TokenEntries.reference
  dsimp only
  rw [isNull]

theorem shown_string_single
    {name : String}
    (isOther : name ≠ "string") :
    ∃ text, (Value.fieldOr "string" (.text "") [(.text name, value)]).shown = .ok text := by
  have isEmpty : Value.fieldOr "string" (.text "") [(.text name, value)] = .text "" := by
    simp [Value.fieldOr, isOther]
  rw [isEmpty]
  exact ⟨"", rfl⟩

theorem flag_negation_single
    {name : String}
    (isOther : name ≠ "negation") :
    TokenEntries.flag "negation" [(.text name, value)] = false := by
  simp [TokenEntries.flag, Value.fieldOr, Value.isTruthy, isOther]

/-- A lower bound greater than 1 is the upper bound in the absence of one. -/
theorem usualMost_single
    {number : Int}
    (isNumber : ∃ quantity, value.quantity? = some quantity)
    (isWhole : value.toInteger = .ok number)
    (isGreat : 1 < number) :
    TokenEntries.usualMost [(.text "min", value)] = .ok value := by
  have isLeast : Value.fieldOr "min" (.int 1) [(.text "min", value)] = value := by
    simp [Value.fieldOr]
  obtain ⟨quantity, isQuantity⟩ := isNumber
  unfold TokenEntries.usualMost
  dsimp only
  rw [isLeast, isQuantity]
  dsimp only
  rw [Value.compare?_one_of_toInteger isQuantity isWhole isGreat]
  rfl

theorem cannotBeUsed_least
    (notLeast : ¬value.IsLeast)
    (inPattern : Bool) :
    (Value.mapping [(.text "min", value)]).CannotBeUsed inPattern := by
  have isLeast : Value.fieldOr "min" (.int 1) [(.text "min", value)] = value := by
    simp [Value.fieldOr]
  refine fun place => .inr ⟨_, ofValue_single (by decide), by simp, fun _ _ _ _ => ?_⟩
  cases isQuantity : value.quantity? with
  | none =>
      refine .inl (TokenEntries.escapes_token_of_least (reference_single (by decide))
        (shown_string_single (by decide)) ?_)
      rw [isLeast]
      exact .inl isQuantity
  | some quantity =>
      by_cases tooLarge : value.toInteger = .error .tooLarge
      · refine .inl (TokenEntries.escapes_token_of_least (reference_single (by decide))
          (shown_string_single (by decide)) ?_)
        rw [isLeast]
        exact .inr tooLarge
      · have someLong : ∃ number, value.toInteger = .ok number ∧ Text.digitBound ≤ number := by
          by_contra noneLong
          exact notLeast
            ⟨⟨quantity, isQuantity⟩, tooLarge, fun number isNumber =>
              Int.not_le.mp fun isLong => noneLong ⟨number, isNumber, isLong⟩⟩
        obtain ⟨number, isNumber, isLong⟩ := someLong
        have someDigits := Text.two_lt_digitBound
        have isUsual := usualMost_single ⟨quantity, isQuantity⟩ isNumber (by omega)
        have isMost : Value.fieldOr "max" value [(.text "min", value)] = value := by
          simp [Value.fieldOr]
        refine isUnusable_token_of_long (reference_single (by decide))
          (shown_string_single (by decide)) (flag_negation_single (by decide)) isUsual
          (by rw [isLeast]; exact isNumber) ?_ (by omega) (by omega) isLong
        rw [isMost, TokenEntries.mostOf_eq_toInteger ⟨quantity, isQuantity⟩]
        exact isNumber

theorem cannotBeUsed_most
    (notMost : ¬value.IsMost)
    (inPattern : Bool) :
    (Value.mapping [(.text "max", value)]).CannotBeUsed inPattern := by
  have isLeast : Value.fieldOr "min" (.int 1) [(.text "max", value)] = .int 1 := by
    simp [Value.fieldOr]
  have isUsual : TokenEntries.usualMost [(.text "max", value)] = .ok (.int 1) := by
    unfold TokenEntries.usualMost
    rw [isLeast]
    rfl
  have isMost : Value.fieldOr "max" (.int 1) [(.text "max", value)] = value := by
    simp [Value.fieldOr]
  refine fun place => .inr ⟨_, ofValue_single (by decide), by simp, fun _ _ _ _ => ?_⟩
  by_cases isBound : FailsOnly Failure.IsBadValue (TokenEntries.mostOf value)
  · have someLong :
        ∃ number, TokenEntries.mostOf value = .ok number ∧ Text.digitBound ≤ number := by
      by_contra noneLong
      exact notMost ⟨isBound, fun number isNumber =>
        Int.not_le.mp fun isLong => noneLong ⟨number, isNumber, isLong⟩⟩
    obtain ⟨number, isNumber, isLong⟩ := someLong
    have someDigits := Text.two_lt_digitBound
    exact
      isUnusable_token_of_long (reference_single (by decide)) (shown_string_single (by decide))
        (flag_negation_single (by decide)) isUsual (by rw [isLeast]; rfl)
        (by rw [isMost]; exact isNumber) (by decide) (by omega) isLong
  · refine .inl (TokenEntries.escapes_token_of_most (reference_single (by decide))
      (shown_string_single (by decide)) isUsual (by rw [isLeast]; rfl) ?_)
    rw [isMost]
    exact isBound

theorem cannotBeUsed_reference
    {inPattern : Bool}
    (notReference : ¬value.IsReference inPattern) :
    (Value.mapping [(.text "reference", value)]).CannotBeUsed inPattern := by
  refine fun place =>
    .inr ⟨_, ofValue_single (by decide), by simp, fun _ offsets sameKind single => .inl ?_⟩
  subst sameKind
  have isValue : Value.fieldOr "reference" .null [(.text "reference", value)] = value := by
    simp [Value.fieldOr]
  refine TokenEntries.escapes_token_of_reference (TokenEntries.escapes_reference single ?_)
  rwa [isValue]

end Tokens

namespace Value

variable {key : Value} {known : List String}

/-- A key that is no text has no order with one that is. -/
theorem not_hasListableKeys_of_not_text
    (notText : ¬∃ name, key = .text name)
    (isUnknown : "unknown" ∉ known) :
    ¬HasListableKeys known [(key, .null), (.text "unknown", .null)] := by
  intro listable
  have ordered := listable.ordered
  cases key with
  | text name =>
      exact (notText ⟨name, rfl⟩).elim
  | _ =>
      simp [unknownKeys, asText?, isUnknown, hasUnordered, compare?, quantity?] at ordered

/-- A key that cannot be named is no text, so it is an unknown one. -/
theorem not_hasListableKeys_of_long
    (notShown : key.canBeShown = false) :
    ¬HasListableKeys known [(key, .null)] := by
  intro listable
  have isUnknown : key ∈ unknownKeys known [(key, .null)] := by
    cases key with
    | text name =>
        cases notShown
    | _ =>
        simp [unknownKeys, asText?]
  rw [listable.canBeShown key isUnknown] at notShown
  cases notShown

theorem not_text_of_long
    (notShown : key.canBeShown = false) :
    ¬∃ name, key = .text name := by
  rintro ⟨name, rfl⟩
  cases notShown

theorem field?_otherKeys
    (notText : ¬∃ name, key = .text name)
    {name : String}
    (isOther : name ≠ "unknown") :
    field? name [(key, .null), (.text "unknown", .null)] = none := by
  have notName : key ≠ .text name := fun isName => notText ⟨name, isName⟩
  simp [field?_cons_of_ne notName, isOther.symm]

end Value

namespace Slot

variable {value : Value} {source language : String}

/-- A value that does not fit makes loading fail, and not by the refusal of a definition. -/
theorem escapes_of_not_fits
    (slot : Slot)
    (notFits : ¬slot.Fits value) :
    Escapes (rulesOfEntries source language (slot.document value)) := by
  cases slot with
  | definitions =>
      exact escapes_rulesOfEntries_definitions notFits
  | members =>
      obtain ⟨notNull, notIterable⟩ := not_or.mp notFits
      refine escapes_rulesOfEntries_documentOf fun _ => ?_
      exact
        escapes_allRules_of_members (field?_id_ruleWith _) (by simp [ruleWith]) notNull
          notIterable
  | member =>
      refine escapes_rulesOfEntries_documentOf fun _ => ?_
      exact escapes_allRules_of_member (field?_id_ruleWith _) (by simp [ruleWith]) notFits
  | id =>
      exact escapes_rulesOfEntries_id (eq_false_of_ne_true notFits)
  | loneRuleKey =>
      obtain ⟨_, notShown⟩ := Classical.not_imp.mp notFits
      have isLong := eq_false_of_ne_true notShown
      have notName : value ≠ .text "rules" :=
        fun isName => Value.not_text_of_long isLong ⟨_, isName⟩
      exact
        escapes_rulesOfEntries_keys (by simp [Value.field?_cons_of_ne notName])
          (Value.not_hasListableKeys_of_long isLong)
  | ruleKey =>
      obtain ⟨_, notText⟩ := Classical.not_imp.mp notFits
      exact
        escapes_rulesOfEntries_keys (Value.field?_otherKeys notText (by decide))
          (Value.not_hasListableKeys_of_not_text notText (by decide))
  | message =>
      exact
        escapes_rulesOfEntries_noText (by simp) (by simp) (by simp [textKeys])
          (.inl (not_not.mp notFits))
  | shortMessage =>
      refine
        escapes_rulesOfEntries_noText (field?_id_ruleWith _) (field?_message_ruleWith _)
          (by simp [ruleWith, textKeys]) (.inr (.inl ?_))
      simpa [ruleWith, Value.fieldOr] using not_not.mp notFits
  | suggestions =>
      refine
        escapes_rulesOfEntries_noText (field?_id_ruleWith _) (field?_message_ruleWith _)
          (by simp [ruleWith, textKeys]) (.inr (.inr ?_))
      simpa [ruleWith, Value.fieldOr] using not_not.mp notFits
  | mark =>
      exact escapes_rulesOfEntries_mark notFits
  | antipatterns =>
      refine escapes_rulesOfEntries_antipatterns fun _ => .inl (Escapes.bind ?_ _)
      simpa [ruleWith, Value.fieldOr] using Value.escapes_elementsIfAny notFits
  | antipattern =>
      refine escapes_rulesOfEntries_antipatterns fun _ => ?_
      unfold RuleEntries.antipatterns
      rw [elementsIfAny_antipatterns]
      exact .inl (.bind_of_ok rfl (((Value.escapes_elements notFits).bind _).mapM_cons []))
  | expression =>
      exact escapes_rulesOfEntries_expression fun isSource => notFits (.inl isSource)
  | expressionMark =>
      exact escapes_rulesOfEntries_expressionMark notFits
  | pattern =>
      obtain ⟨notNull, notIterable⟩ := not_or.mp notFits
      refine escapes_rulesOfEntries_pattern notNull fun _ => .inl ?_
      exact (Value.escapes_elements notIterable).bind _
  | phraseName =>
      refine escapes_rulesOfEntries_pattern (by simp) fun _ => .inl ?_
      exact escapes_expand_of_choices (escapes_choicesOf_of_name notFits)
  | alternatives =>
      refine escapes_rulesOfEntries_pattern (by simp) fun _ => .inl ?_
      exact escapes_expand_of_choices (escapes_choicesOf_alternatives notFits)
  | alternative =>
      refine escapes_rulesOfEntries_pattern (by simp) fun _ => .inl ?_
      exact escapes_expand_of_choices (escapes_choicesOf_alternative notFits)
  | token place =>
      obtain ⟨noMapping, notShown⟩ := Classical.not_imp.mp notFits
      refine place.escapes_document fun _ => .inl ?_
      exact TokenEntries.escapes_ofValue_of_long noMapping (eq_false_of_ne_true notShown)
  | loneTokenKey place =>
      obtain ⟨_, notShown⟩ := Classical.not_imp.mp notFits
      refine place.escapes_document fun _ => .inl (TokenEntries.escapes_ofValue_mapping ?_)
      exact Value.not_hasListableKeys_of_long (eq_false_of_ne_true notShown)
  | tokenKey place =>
      obtain ⟨_, notText⟩ := Classical.not_imp.mp notFits
      refine place.escapes_document fun _ => .inl (TokenEntries.escapes_ofValue_mapping ?_)
      exact Value.not_hasListableKeys_of_not_text notText (by decide)
  | least place =>
      exact place.escapes_document (cannotBeUsed_least notFits _)
  | most place =>
      exact place.escapes_document (cannotBeUsed_most notFits _)
  | reference place =>
      exact place.escapes_document (cannotBeUsed_reference notFits)

end Slot

/-- A document with one rule is readable if the definition of the rule is. -/
theorem isReadableDocument_documentOf
    {phrases : PhraseTable}
    {definition : RuleEntries}
    (idIsShown : ∀ id, Value.field? "id" definition = some id → id.canBeShown = true)
    (readable : definition.IsReadable phrases)
    (isNoGroup : Value.field? "rules" definition = none) :
    IsReadableDocument (documentOf phrases definition) := by
  have hasPhrases : phrasesOf (documentOf phrases definition) = phrases := by
    simp [phrasesOf, documentOf, Value.fieldOr]
  constructor
  · exact Value.isIterableIfAny_iff.mpr ⟨_, elementsIfAny_documentOf phrases definition⟩
  · intro definitions group areDefinitions member isGroup
    rw [elementsIfAny_documentOf, Except.ok.injEq] at areDefinitions
    subst areDefinitions
    cases List.mem_singleton.mp member
    rw [Value.fieldOr, isNoGroup] at isGroup
    exact (isGroup rfl).elim
  · intro id subId own holds
    obtain ⟨hasId, _, rfl⟩ := (holdsDefinition_documentOf_iff isNoGroup).mp holds
    rw [hasPhrases]
    exact ⟨idIsShown id hasId, readable⟩

/-- A phrase with one alternative of two words. -/
def greetingPhrases : PhraseTable :=
  [(.text "p", .list [.list [.text "good", .text "morning"]])]

/-- A phrase and a token that refers to it. -/
def greetingTwice : List Value :=
  [phraseReference (.text "p"), .mapping [(.text "reference", .int 1)]]

/-- A definition whose pattern is a phrase and a token that refers to it. -/
def repeatedPhrase : RuleEntries :=
  ruleWith [(.text "pattern", .list greetingTwice)]

theorem isReadableAt_greetingPhrases :
    greetingPhrases.IsReadableAt (.text "p") := by
  apply PhraseTable.IsReadableAt.mk
  case isKey => rfl
  case undefined => exact fun _ => rfl
  case alternatives =>
    intro alternatives found
    have isList : alternatives = .list [.list [.text "good", .text "morning"]] := by
      simpa [greetingPhrases, Value.lookup?, eq_comm] using found
    subst isList
    refine ⟨_, rfl, fun alternative member => ?_⟩
    cases List.mem_singleton.mp member
    refine ⟨_, rfl, ?_⟩
    simp [Value.IsReadableToken, Value.canBeShown]

theorem isReadable_firstReference :
    TokenEntries.IsReadable true [(.text "reference", .int 1)] where
  keys := Value.hasListableKeys_of_known rfl
  least := by
    have isOne : Value.fieldOr "min" (.int 1) [(.text "reference", .int 1)] = .int 1 := by
      simp [Value.fieldOr]
    rw [isOne]
    exact Value.isLeast_one
  most := by simp
  reference := by
    have isOne : Value.fieldOr "reference" .null [(.text "reference", .int 1)] = .int 1 := by
      simp [Value.fieldOr]
    rw [isOne]
    exact .inr ⟨Value.canBeShown_int_iff.mpr (by decide +kernel), fun _ => ⟨1, rfl⟩⟩

theorem choicesOf_greeting
    {place : DefinitionPlace} :
    greetingPhrases.choicesOf place (phraseReference (.text "p")) =
      .ok
        [[⟨[(.text "string", .text "good")], .text "p"⟩,
          ⟨[(.text "string", .text "morning")], .text "p"⟩]] := by
  rw [choicesOf_phraseReference, greetingPhrases, alternatives_single]
  rfl

theorem choicesOf_firstReference
    {place : DefinitionPlace} :
    greetingPhrases.choicesOf place (.mapping [(.text "reference", .int 1)]) =
      .ok [[⟨[(.text "reference", .int 1)], .text ""⟩]] := by
  unfold PhraseTable.choicesOf
  rw [ofValue_single (by decide)]
  simp [TokenEntries.ownPhrase, Value.fieldOr, bind, Except.bind, pure, Except.pure]

/-- The pattern stands for one row of three tokens. -/
theorem length_of_mem_expand_greetingTwice
    {place : DefinitionPlace}
    {alternatives : List (List Token)}
    (expands : expand greetingPhrases place (.list greetingTwice) = .ok alternatives)
    {tokens : List Token}
    (isAlternative : tokens ∈ alternatives) :
    tokens.length = 3 := by
  obtain ⟨elements, isElements, afterElements⟩ := Outcome.bind_eq_ok_iff.mp expands
  cases isElements
  obtain ⟨choices, areChoices, areRead⟩ := Outcome.bind_eq_ok_iff.mp afterElements
  obtain ⟨rows, isCombination, isRead⟩ := Outcome.exists_item_of_mem_mapM areRead isAlternative
  rw [← (Outcome.mapM_eq_ok_iff.mp isRead).length_eq]
  rw [greetingTwice, List.mapM_cons, List.mapM_cons, choicesOf_greeting,
    choicesOf_firstReference] at areChoices
  cases areChoices
  cases List.mem_singleton.mp isCombination
  rfl

theorem isReadablePattern_greetingTwice :
    greetingPhrases.IsReadablePattern (.list greetingTwice) := by
  apply PhraseTable.IsReadablePattern.mk
  case elements =>
    refine ⟨_, rfl, fun element member => ?_⟩
    rcases List.mem_cons.mp member with rfl | isToken
    · refine ⟨Value.hasListableKeys_of_known rfl, by simp, fun name isName => ?_⟩
      have isPhrase : name = .text "p" := by
        simpa [eq_comm] using isName
      rw [isPhrase]
      exact isReadableAt_greetingPhrases
    · cases List.mem_singleton.mp isToken
      exact
        ⟨Value.hasListableKeys_of_known rfl, fun _ => isReadable_firstReference, by simp⟩
  case isShort =>
    intro place alternatives expands tokens isAlternative
    rw [length_of_mem_expand_greetingTwice expands isAlternative]
    decide +kernel

theorem isReadable_repeatedPhrase :
    repeatedPhrase.IsReadable greetingPhrases where
  keys :=
    Value.hasListableKeys_of_known
      (by simp [repeatedPhrase, ruleWith, Value.unknownKeys, Value.asText?, RuleEntries.knownKeys])
  message := by simp [repeatedPhrase, ruleWith]
  shortMessage := by simp [repeatedPhrase, ruleWith, Value.fieldOr]
  suggestions := by simp [repeatedPhrase, ruleWith, Value.fieldOr]
  mark := by simp [repeatedPhrase, ruleWith, Value.fieldOr, Value.IsMark, Value.isTruthy]
  antipatterns := by simp [repeatedPhrase, ruleWith, Value.fieldOr, Value.isTruthy]
  expression := by simp [repeatedPhrase, ruleWith]
  pattern := by
    intro pattern isPattern _
    have isList : pattern = .list greetingTwice := by
      simpa [repeatedPhrase, ruleWith, eq_comm] using isPattern
    rw [isList]
    exact isReadablePattern_greetingTwice

/-- A text that is no number is no place to refer to. -/
theorem not_fits_textReference :
    ¬Slot.Fits (.reference .pattern) (.text "x") := by
  rintro (isNull | ⟨_, isInteger⟩)
  · cases isNull
  · obtain ⟨number, isNumber⟩ := isInteger rfl
    cases isNumber

/-- A document whose one token refers to a place by a text that is no number. -/
def textReference : List (Value × Value) :=
  [(.text "phrases", .mapping []),
    (.text "rules",
      .list
        [.mapping
          [(.text "id", .text "R"), (.text "message", .text "m"),
            (.text "pattern", .list [.mapping [(.text "reference", .text "x")]])]])]

end ProseRules
