import ProseRules.Proofs.Definition.Origins
import ProseRules.Proofs.Token.OperatorSign

namespace ProseRules

/-!
# Which failures loading can have

A definition that cannot be used is refused as such as long as its values are of the kinds
that their readers expect. Other values make the readers themselves fail. Every reader has its
own condition, and a document whose values meet them all is loaded or refused as a definition.
-/

namespace Failure

/-- A definition is refused. -/
def IsFlaw (failure : Failure) : Prop :=
  ∃ flaw, failure = .definition flaw

/-- A value of the right kind is refused. -/
def IsBadValue (failure : Failure) : Prop :=
  ∃ flaw, failure = .badValue flaw

end Failure

namespace Outcome

variable {α β : Type} {allowed : Failure → Prop}

/-- A step fails only in allowed ways. -/
def FailsOnly (allowed : Failure → Prop) (outcome : Except Failure α) : Prop :=
  ∀ failure, outcome = .error failure → allowed failure

theorem failsOnly_ok
    (result : α) :
    FailsOnly allowed (.ok result) := by
  intro failure fails
  cases fails

theorem failsOnly_error
    {failure : Failure}
    (isAllowed : allowed failure) :
    FailsOnly allowed (.error failure : Except Failure α) := by
  rintro _ ⟨⟩
  exact isAllowed

theorem failsOnly_mapError
    {ε : Type}
    {outcome : Except ε α}
    {reword : ε → Failure}
    (each : ∀ cause, allowed (reword cause)) :
    FailsOnly allowed (outcome.mapError reword) := by
  cases outcome with
  | error cause =>
      exact failsOnly_error (each cause)
  | ok result =>
      exact failsOnly_ok result

theorem FailsOnly.bind
    {first : Except Failure α}
    {next : α → Except Failure β}
    (ofFirst : FailsOnly allowed first)
    (ofNext : ∀ value, first = .ok value → FailsOnly allowed (next value)) :
    FailsOnly allowed (first >>= next) := by
  cases isFirst : first with
  | error failure =>
      exact failsOnly_error (ofFirst failure isFirst)
  | ok value =>
      exact ofNext value isFirst

theorem FailsOnly.mapM
    {step : α → Except Failure β}
    {items : List α}
    (each : ∀ item ∈ items, FailsOnly allowed (step item)) :
    FailsOnly allowed (items.mapM step) := by
  induction items with
  | nil =>
      exact failsOnly_ok []
  | cons item items inductionHypothesis =>
      obtain ⟨ofItem, ofItems⟩ := List.forall_mem_cons.mp each
      rw [List.mapM_cons]
      refine ofItem.bind fun result _ => ?_
      exact (inductionHypothesis ofItems).bind fun results _ => failsOnly_ok _

theorem FailsOnly.ok_or_error
    {outcome : Except Failure α}
    (failsOnly : FailsOnly allowed outcome) :
    (∃ result, outcome = .ok result) ∨ ∃ failure, outcome = .error failure ∧ allowed failure := by
  cases isOutcome : outcome with
  | error failure =>
      exact .inr ⟨failure, rfl, failsOnly failure isOutcome⟩
  | ok result =>
      exact .inl ⟨result, rfl⟩

end Outcome

open Outcome (FailsOnly failsOnly_ok failsOnly_error failsOnly_mapError)

namespace Value

/-- The value has parts. -/
def IsIterable (value : Value) : Prop :=
  ∃ parts, value.elements = .ok parts

/-- The value has parts, or it counts as a no. -/
def IsIterableIfAny (value : Value) : Prop :=
  value.isTruthy = true → value.IsIterable

/-- The value can be read as a whole number. -/
def IsInteger (value : Value) : Prop :=
  ∃ number, value.toInteger = .ok number

/-- The value can be compared with 1, is not infinite and has no more digits than are written. -/
structure IsLeast (value : Value) : Prop where
  isNumber : ∃ quantity, value.quantity? = some quantity
  isFinite : value.toInteger ≠ .error .tooLarge
  isShort : ∀ number, value.toInteger = .ok number → number < Text.digitBound

/-- The value is a bound that can be written, or it is of the right kind but badly written. -/
structure IsMost (value : Value) : Prop where
  isBound : FailsOnly Failure.IsBadValue (TokenEntries.mostOf value)
  isShort : ∀ number, TokenEntries.mostOf value = .ok number → number < Text.digitBound

/-- The value is missing, or it can be named as a reference and in a pattern read as one. -/
def IsReference (inPattern : Bool) (value : Value) : Prop :=
  value = .null ∨ value.canBeShown = true ∧ (inPattern = true → value.IsInteger)

/-- The value can be read as the number of a group, and the number can be named. -/
def IsGroupNumber (value : Value) : Prop :=
  ∃ number, value.toInteger = .ok number ∧ number.natAbs < Text.digitBound

/-- The value has two whole numbers, or it counts as a no. -/
def IsMark (value : Value) : Prop :=
  value.isTruthy = true →
    ∃ entries,
      value = .mapping entries ∧
        (fieldOr "from" (.int 0) entries).IsInteger ∧ (fieldOr "to" (.int 0) entries).IsInteger

/-- The value is the source of an expression, or one with a defect, or it is missing. -/
def IsExpressionSource : Value → Prop
  | .null => True
  | .text source =>
      ∀ refusal,
        Regex.Expression.ofSource source = .error refusal →
          ∃ defect place, refusal = .malformed defect place
  | _ => False

/-- The keys that are not known have an order and can be named. -/
structure HasListableKeys (known : List String) (entries : List (Value × Value)) : Prop where
  ordered : hasUnordered (unknownKeys known entries) = false
  canBeShown : ∀ key ∈ unknownKeys known entries, key.canBeShown = true

theorem exists_sorted
    {known : List String}
    {entries : List (Value × Value)}
    (listable : HasListableKeys known entries) :
    ∃ keys,
      sorted (unknownKeys known entries) = .ok keys ∧ ∀ key ∈ keys, key.canBeShown = true := by
  refine ⟨_, by rw [sorted, listable.ordered]; rfl, fun key member => ?_⟩
  exact listable.canBeShown key (List.mem_mergeSort.mp member)

/-- Keys that are all known are listed without naming one. -/
theorem hasListableKeys_of_known
    {known : List String}
    {entries : List (Value × Value)}
    (noneUnknown : unknownKeys known entries = []) :
    HasListableKeys known entries := by
  constructor
  case ordered => rw [noneUnknown, hasUnordered]
  case canBeShown => simp [noneUnknown]

theorem isLeast_one :
    IsLeast (.int 1) where
  isNumber := ⟨_, rfl⟩
  isFinite := nofun
  isShort number isOne := by
    obtain rfl : 1 = number := Except.ok.inj isOne
    have someDigits := Text.two_lt_digitBound
    omega

theorem isIterableIfAny_iff
    {value : Value} :
    value.IsIterableIfAny ↔ ∃ parts, value.elementsIfAny = .ok parts := by
  unfold IsIterableIfAny elementsIfAny
  cases value.isTruthy with
  | true =>
      simp [IsIterable]
  | false =>
      simp

end Value

section Places

variable {place : DefinitionPlace} (idIsShown : place.id.canBeShown = true)
include idIsShown

/-- A refusal that can name everything is one of the definition. -/
theorem DefinitionPlace.isFlaw_refusal
    {named : List Value}
    (canBeShown : ∀ value ∈ named, value.canBeShown = true)
    (flaw : (source id : String) → DefinitionFlaw) :
    (place.refusal named flaw).IsFlaw :=
  ⟨_, place.refusal_eq idIsShown canBeShown flaw⟩

theorem DefinitionPlace.failsOnly_requireKnown
    {known : List String}
    {entries : List (Value × Value)}
    (listable : Value.HasListableKeys known entries)
    (flaw : (source id : String) → List Value → DefinitionFlaw) :
    FailsOnly Failure.IsFlaw (place.requireKnown known flaw entries) := by
  obtain ⟨keys, areKeys, canBeShown⟩ := Value.exists_sorted listable
  have isShown : place.id.shown = .ok place.id.display :=
    Value.shown_eq_ok_iff.mpr ⟨idIsShown, rfl⟩
  unfold requireKnown
  dsimp only
  split
  · rw [isShown, areKeys]
    exact failsOnly_error (place.isFlaw_refusal idIsShown canBeShown _)
  · exact failsOnly_ok _

end Places

namespace TokenEntries

/-- The definition of a token has values of the right kinds. -/
structure IsReadable (inPattern : Bool) (entries : TokenEntries) : Prop where
  keys : Value.HasListableKeys knownKeys entries
  least : (Value.fieldOr "min" (.int 1) entries).IsLeast
  most : ∀ most, Value.field? "max" entries = some most → most.IsMost
  reference : (Value.fieldOr "reference" .null entries).IsReference inPattern

variable {place : DefinitionPlace} {entries : TokenEntries}

section Named

variable (idIsShown : place.id.canBeShown = true)
include idIsShown

theorem failsOnly_reference
    {offsets : Option (List Nat)}
    (readable : (Value.fieldOr "reference" .null entries).IsReference offsets.isSome) :
    FailsOnly Failure.IsFlaw (reference place offsets entries) := by
  unfold reference
  dsimp only
  split
  · exact failsOnly_ok _
  · rename_i notNull
    obtain ⟨isShown, _⟩ := readable.resolve_left notNull
    exact failsOnly_error (place.isFlaw_refusal idIsShown (List.forall_mem_singleton.mpr isShown) _)
  · rename_i notNull
    obtain ⟨isShown, isInteger⟩ := readable.resolve_left notNull
    obtain ⟨number, isNumber⟩ := isInteger rfl
    rw [isNumber]
    refine (failsOnly_ok number).bind fun number _ => ?_
    split
    · exact failsOnly_ok _
    · exact
        failsOnly_error (place.isFlaw_refusal idIsShown (List.forall_mem_singleton.mpr isShown) _)

theorem failsOnly_atToken
    {α : Type}
    {outcome : Except Failure α}
    (failsOnly : FailsOnly Failure.IsBadValue outcome) :
    FailsOnly Failure.IsFlaw (atToken place outcome) := by
  rcases failsOnly.ok_or_error with ⟨result, rfl⟩ | ⟨failure, rfl, flaw, rfl⟩
  · exact failsOnly_ok _
  · exact failsOnly_error (place.isFlaw_refusal idIsShown (List.forall_mem_nil _) _)

end Named

/-- A number that is not infinite is a whole number or badly written. -/
theorem failsOnly_toInteger_of_isLeast
    {value : Value}
    (isLeast : value.IsLeast) :
    FailsOnly Failure.IsBadValue value.toInteger := by
  obtain ⟨⟨quantity, isQuantity⟩, isFinite, _⟩ := isLeast
  cases value with
  | bool | int =>
      exact failsOnly_ok _
  | real x =>
      unfold Value.toInteger at isFinite ⊢
      dsimp only at isFinite ⊢
      split
      · exact failsOnly_ok _
      · exact failsOnly_error ⟨_, rfl⟩
      · rename_i isInfinite
        simp [*] at isFinite
  | _ =>
      cases isQuantity

theorem mostOf_eq_toInteger
    {value : Value}
    (isNumber : ∃ quantity, value.quantity? = some quantity) :
    mostOf value = value.toInteger := by
  obtain ⟨quantity, isQuantity⟩ := isNumber
  cases value with
  | bool | int | real =>
      rfl
  | _ =>
      cases isQuantity

theorem exists_usualMost
    (isNumber : ∃ quantity, (Value.fieldOr "min" (.int 1) entries).quantity? = some quantity) :
    ∃ usual,
      usualMost entries = .ok usual ∧
        (usual = .int 1 ∨ usual = Value.fieldOr "min" (.int 1) entries) := by
  obtain ⟨quantity, isQuantity⟩ := isNumber
  unfold usualMost
  dsimp only
  rw [isQuantity]
  dsimp only
  split
  · exact ⟨_, rfl, .inl rfl⟩
  · exact ⟨_, rfl, .inl rfl⟩
  · exact ⟨_, rfl, .inr rfl⟩

/-- A readable upper bound is a number, or it is badly written. -/
theorem isMost_of_isReadable
    {inPattern : Bool}
    (readable : entries.IsReadable inPattern)
    {usual : Value}
    (isUsual : usualMost entries = .ok usual) :
    (Value.fieldOr "max" usual entries).IsMost := by
  unfold Value.fieldOr
  cases isMost : Value.field? "max" entries with
  | some most =>
      exact readable.most most isMost
  | none =>
      obtain ⟨usual', isUsual', isOneOrLeast⟩ := exists_usualMost readable.least.isNumber
      obtain rfl := Except.ok.inj (isUsual.symm.trans isUsual')
      rw [Option.getD_none]
      rcases isOneOrLeast with rfl | rfl
      · refine ⟨failsOnly_ok _, fun number isOne => ?_⟩
        obtain rfl : 1 = number := Except.ok.inj isOne
        have someDigits := Text.two_lt_digitBound
        omega
      · constructor
        case isBound =>
          rw [mostOf_eq_toInteger readable.least.isNumber]
          exact failsOnly_toInteger_of_isLeast readable.least
        case isShort =>
          rw [mostOf_eq_toInteger readable.least.isNumber]
          exact readable.least.isShort

/-- A token with readable entries is read or refused as a definition. -/
theorem failsOnly_token
    {inPattern : Bool}
    (readable : entries.IsReadable inPattern)
    (idIsShown : place.id.canBeShown = true)
    {phrase : Value}
    {offsets : Option (List Nat)}
    (sameKind : offsets.isSome = inPattern) :
    FailsOnly Failure.IsFlaw (entries.token place phrase offsets) := by
  obtain ⟨usual, isUsual, _⟩ := exists_usualMost readable.least.isNumber
  unfold token
  subst sameKind
  refine (failsOnly_reference idIsShown readable.reference).bind fun reference _ => ?_
  rw [isUsual]
  refine failsOnly_atToken idIsShown ?_
  refine FailsOnly.bind ?_ fun text _ => ?_
  · unfold Value.shown
    split
    · exact failsOnly_ok _
    · exact failsOnly_error ⟨_, rfl⟩
  · refine (failsOnly_toInteger_of_isLeast readable.least).bind fun least _ => ?_
    refine (isMost_of_isReadable readable isUsual).isBound.bind fun most _ => ?_
    exact failsOnly_mapError fun flaw => ⟨flaw, rfl⟩

/-- The bounds of a token with readable entries can be written. -/
theorem canBeWritten_of_token
    {inPattern : Bool}
    (readable : entries.IsReadable inPattern)
    {phrase : Value}
    {offsets : Option (List Nat)}
    {token : Token}
    (read : entries.token place phrase offsets = .ok token) :
    token.operator.canBeWritten = true := by
  obtain ⟨_, _, _, least, most, _, isUsual, _, isLeast, isMost, made⟩ :=
    exists_ofParts_of_token read
  have shortLeast := readable.least.isShort least isLeast
  have shortMost := (isMost_of_isReadable readable isUsual).isShort most isMost
  obtain ⟨_, _, rfl⟩ := Token.eq_of_ofParts made
  have someDigits := Text.two_lt_digitBound
  refine Token.canBeWritten_operator_iff.mpr ⟨by dsimp only; omega, fun bound isBound => ?_⟩
  dsimp only at isBound
  split at isBound
  · cases isBound
  · cases isBound
    omega

/-- A token that is defined by its text alone is readable. -/
theorem isReadable_text
    (inPattern : Bool)
    (text : String) :
    IsReadable inPattern [(.text "string", .text text)] where
  keys := Value.hasListableKeys_of_known rfl
  least := by
    rw [show Value.fieldOr "min" (.int 1) [(.text "string", .text text)] = .int 1 by
      simp [Value.fieldOr]]
    exact Value.isLeast_one
  most := by simp
  reference := .inl (by simp [Value.fieldOr])

end TokenEntries

/-- The definition of a token is a mapping with values of the right kinds, or it can be named. -/
def Value.IsReadableToken (inPattern : Bool) : Value → Prop
  | .mapping entries => TokenEntries.IsReadable inPattern entries
  | part => part.canBeShown = true

namespace TokenEntries

variable {place : DefinitionPlace} {inPattern : Bool} {part : Value}

theorem isReadable_of_ofValue
    (readable : part.IsReadableToken inPattern)
    {entries : TokenEntries}
    (read : ofValue place part = .ok entries) :
    entries.IsReadable inPattern := by
  cases part with
  | text text =>
      cases read
      exact isReadable_text inPattern text
  | mapping given =>
      rw [eq_of_ofValue_mapping read]
      exact readable
  | _ =>
      cases read

/-- What defines a token is taken as its entries or refused as a definition. -/
theorem failsOnly_ofValue
    (idIsShown : place.id.canBeShown = true)
    (listable : ∀ entries, part = .mapping entries → Value.HasListableKeys knownKeys entries)
    (canBeShown : (∀ entries, part ≠ .mapping entries) → part.canBeShown = true) :
    FailsOnly Failure.IsFlaw (ofValue place part) := by
  have refused :
      (∀ entries, part ≠ .mapping entries) →
        (place.refusal [part] fun source id => .badToken source id part).IsFlaw := by
    intro noMapping
    have named : ∀ value ∈ [part], value.canBeShown = true :=
      List.forall_mem_singleton.mpr (canBeShown noMapping)
    exact place.isFlaw_refusal idIsShown named _
  cases part with
  | text text =>
      exact failsOnly_ok _
  | mapping entries =>
      refine FailsOnly.bind ?_ fun _ _ => failsOnly_ok _
      exact place.failsOnly_requireKnown idIsShown (listable entries rfl) _
  | _ =>
      exact failsOnly_error (refused nofun)

theorem failsOnly_ofValue_of_isReadableToken
    (idIsShown : place.id.canBeShown = true)
    (readable : part.IsReadableToken inPattern) :
    FailsOnly Failure.IsFlaw (ofValue place part) := by
  refine failsOnly_ofValue idIsShown ?_ fun noMapping => ?_
  · rintro entries rfl
    exact readable.keys
  · cases part with
    | mapping entries => exact (noMapping entries rfl).elim
    | _ => exact readable

end TokenEntries

/-- The parts can be read one by one. -/
def Value.HasReadableParts (inPattern : Bool) (value : Value) : Prop :=
  ∃ parts, value.elements = .ok parts ∧ ∀ part ∈ parts, part.IsReadableToken inPattern

/-- A name can be looked up, and what is found are alternatives that can be read. -/
structure PhraseTable.IsReadableAt (phrases : PhraseTable) (name : Value) : Prop where
  isKey : name.isKey = true
  undefined : Value.lookup? name phrases = none → name.canBeShown = true
  alternatives :
    ∀ alternatives,
      Value.lookup? name phrases = some alternatives →
        ∃ options,
          alternatives.elements = .ok options ∧
            ∀ alternative ∈ options, alternative.HasReadableParts true

/-- The entries of an element can be read: as a token, or by the phrase that they refer to. -/
structure PhraseTable.AreReadable (phrases : PhraseTable) (entries : TokenEntries) : Prop where
  keys : Value.HasListableKeys TokenEntries.knownKeys entries
  token : Value.field? "phraseref" entries = none → entries.IsReadable true
  phrase : ∀ name, Value.field? "phraseref" entries = some name → phrases.IsReadableAt name

/-- An element of a pattern is a mapping that can be read, or it can be named. -/
def PhraseTable.IsReadableElement (phrases : PhraseTable) : Value → Prop
  | .mapping entries => phrases.AreReadable entries
  | element => element.canBeShown = true

section Patterns

variable {phrases : PhraseTable} {place : DefinitionPlace}

theorem areReadable_of_ofValue
    {element : Value}
    (readable : phrases.IsReadableElement element)
    {entries : TokenEntries}
    (read : TokenEntries.ofValue place element = .ok entries) :
    phrases.AreReadable entries := by
  cases element with
  | text text =>
      cases read
      exact
        ⟨Value.hasListableKeys_of_known rfl, fun _ => TokenEntries.isReadable_text true text,
          by simp⟩
  | mapping given =>
      rw [TokenEntries.eq_of_ofValue_mapping read]
      exact readable
  | _ =>
      cases read

section Named

variable (idIsShown : place.id.canBeShown = true)
include idIsShown

theorem failsOnly_antipatternOf
    {antipattern : Value}
    (readable : antipattern.HasReadableParts false) :
    FailsOnly Failure.IsFlaw (antipatternOf place antipattern) := by
  obtain ⟨parts, areParts, eachReadable⟩ := readable
  unfold antipatternOf
  rw [areParts]
  refine (failsOnly_ok parts).bind fun parts isParts => ?_
  cases isParts
  refine FailsOnly.bind (.mapM fun part member => ?_) fun defined areDefined => ?_
  · exact TokenEntries.failsOnly_ofValue_of_isReadableToken idIsShown (eachReadable part member)
  · refine .mapM fun entries member => ?_
    obtain ⟨part, isPart, read⟩ := Outcome.exists_item_of_mem_mapM areDefined member
    exact
      TokenEntries.failsOnly_token
        (TokenEntries.isReadable_of_ofValue (eachReadable part isPart) read) idIsShown rfl

theorem failsOnly_alternatives
    {name : Value}
    (readableAt : phrases.IsReadableAt name) :
    FailsOnly Failure.IsFlaw (phrases.alternatives place name) := by
  unfold PhraseTable.alternatives
  simp only [readableAt.isKey, Bool.not_true, Bool.false_eq_true, if_false]
  split
  · exact failsOnly_ok _
  · rename_i undefined
    have named : ∀ value ∈ [name], value.canBeShown = true :=
      List.forall_mem_singleton.mpr (readableAt.undefined undefined)
    exact failsOnly_error (place.isFlaw_refusal idIsShown named _)

/-- The choices of an element that can be read are read or refused as a definition. -/
theorem failsOnly_choicesOf
    {element : Value}
    (readable : phrases.IsReadableElement element) :
    FailsOnly Failure.IsFlaw (phrases.choicesOf place element) := by
  have ofValue : FailsOnly Failure.IsFlaw (TokenEntries.ofValue place element) := by
    refine TokenEntries.failsOnly_ofValue idIsShown ?_ fun noMapping => ?_
    · rintro entries rfl
      exact readable.keys
    · cases element with
      | mapping entries => exact (noMapping entries rfl).elim
      | _ => exact readable
  refine ofValue.bind fun entries isEntries => ?_
  cases isReference : Value.field? "phraseref" entries with
  | none =>
      exact failsOnly_ok _
  | some name =>
      have readableAt := (areReadable_of_ofValue readable isEntries).phrase name isReference
      refine (failsOnly_alternatives idIsShown readableAt).bind fun alternatives found => ?_
      obtain ⟨options, areOptions, eachReadable⟩ :=
        readableAt.alternatives alternatives (lookup?_of_alternatives found)
      rw [areOptions]
      refine FailsOnly.mapM fun alternative member => ?_
      obtain ⟨parts, areParts, partsReadable⟩ := eachReadable alternative member
      unfold PhraseTable.placedAlternative
      rw [areParts]
      refine FailsOnly.mapM fun part isPart => ?_
      refine FailsOnly.bind ?_ fun _ _ => failsOnly_ok _
      exact
        TokenEntries.failsOnly_ofValue_of_isReadableToken idIsShown (partsReadable part isPart)

end Named

/-- The tokens of a readable anti-pattern have bounds that can be written. -/
theorem haveSigns_of_antipatternOf
    {antipattern : Value}
    (readable : antipattern.HasReadableParts false)
    {tokens : List Token}
    (read : antipatternOf place antipattern = .ok tokens) :
    Rule.HaveSigns tokens := by
  obtain ⟨parts, areParts, eachReadable⟩ := readable
  obtain ⟨parts', areParts', afterParts⟩ := Outcome.bind_eq_ok_iff.mp read
  obtain rfl := Except.ok.inj (areParts'.symm.trans areParts)
  obtain ⟨defined, areDefined, areTokens⟩ := Outcome.bind_eq_ok_iff.mp afterParts
  intro token isToken
  obtain ⟨entries, isDefined, isRead⟩ := Outcome.exists_item_of_mem_mapM areTokens isToken
  obtain ⟨part, isPart, isEntries⟩ := Outcome.exists_item_of_mem_mapM areDefined isDefined
  exact
    TokenEntries.canBeWritten_of_token
      (TokenEntries.isReadable_of_ofValue (eachReadable part isPart) isEntries) isRead

/-- What a readable element gives are readable tokens. -/
theorem isReadable_of_gives
    {element : Value}
    (readable : phrases.IsReadableElement element)
    {placed : List PlacedToken}
    (gives : Gives phrases place element placed) :
    ∀ token ∈ placed, token.entries.IsReadable true := by
  intro token member
  cases gives with
  | token isEntries isPlain =>
      rw [List.mem_singleton.mp member]
      exact (areReadable_of_ofValue readable isEntries).token isPlain
  | phrase isEntries isReference isDefined areOptions isOption areParts arePlaced =>
      obtain ⟨options, areOptions', eachReadable⟩ :=
        ((areReadable_of_ofValue readable isEntries).phrase _ isReference).alternatives _
          isDefined
      rw [areOptions, Except.ok.injEq] at areOptions'
      subst areOptions'
      obtain ⟨parts, areParts', partsReadable⟩ := eachReadable _ isOption
      rw [areParts, Except.ok.injEq] at areParts'
      subst areParts'
      obtain ⟨part, isPart, isEntriesOfPart, _⟩ :=
        Outcome.exists_related_of_mem arePlaced.flip member
      exact TokenEntries.isReadable_of_ofValue (partsReadable part isPart) isEntriesOfPart

/-- The elements of a pattern can be read one by one. -/
structure PhraseTable.IsReadablePattern (phrases : PhraseTable) (pattern : Value) : Prop where
  elements :
    ∃ elements,
      pattern.elements = .ok elements ∧ ∀ element ∈ elements, phrases.IsReadableElement element
  /-- The places of the tokens can be named. -/
  isShort :
    ∀ place alternatives,
      expand phrases place pattern = .ok alternatives →
        ∀ tokens ∈ alternatives, tokens.length < Text.digitBound

/-- The tokens of each combination of choices are readable. -/
theorem isReadable_of_mem_combinations
    {elements : List Value}
    (readable : ∀ element ∈ elements, phrases.IsReadableElement element)
    {choices : List (List (List PlacedToken))}
    (readChoices : elements.mapM (phrases.choicesOf place) = .ok choices)
    {rows : List (List PlacedToken)}
    (isCombination : rows ∈ combinations choices) :
    ∀ token ∈ rows.flatten, token.entries.IsReadable true := by
  intro token member
  obtain ⟨row, isRow, isToken⟩ := List.mem_flatten.mp member
  obtain ⟨element, isElement, gives⟩ :=
    Outcome.exists_related_of_mem (gives_of_mem_combinations readChoices isCombination).flip isRow
  exact isReadable_of_gives (readable element isElement) gives token isToken

/-- A pattern of readable elements is expanded or refused as a definition. -/
theorem failsOnly_expand
    (idIsShown : place.id.canBeShown = true)
    {pattern : Value}
    (readable : phrases.IsReadablePattern pattern) :
    FailsOnly Failure.IsFlaw (expand phrases place pattern) := by
  obtain ⟨elements, areElements, eachReadable⟩ := readable.elements
  unfold expand
  rw [areElements]
  refine (failsOnly_ok elements).bind fun elements isElements => ?_
  cases isElements
  refine FailsOnly.bind (.mapM fun element member => ?_) fun choices readChoices => ?_
  · exact failsOnly_choicesOf idIsShown (eachReadable element member)
  · refine .mapM fun rows isCombination => .mapM fun token member => ?_
    exact
      TokenEntries.failsOnly_token
        (isReadable_of_mem_combinations eachReadable readChoices isCombination token member)
        idIsShown rfl

/-- The tokens of an expanded pattern have bounds and references that can be named. -/
structure Token.AreShort (tokens : List Token) : Prop where
  signs : Rule.HaveSigns tokens
  isShort : tokens.length < Text.digitBound
  references :
    ∀ token ∈ tokens, ∀ reference ∈ token.reference, reference.natAbs ≤ tokens.length

theorem areShort_of_mem_expand
    {pattern : Value}
    (readable : phrases.IsReadablePattern pattern)
    {alternatives : List (List Token)}
    (expands : expand phrases place pattern = .ok alternatives)
    {tokens : List Token}
    (isAlternative : tokens ∈ alternatives) :
    Token.AreShort tokens := by
  obtain ⟨elements, areElements, eachReadable⟩ := readable.elements
  obtain ⟨elements', areElements', afterElements⟩ := Outcome.bind_eq_ok_iff.mp expands
  obtain rfl := Except.ok.inj (areElements'.symm.trans areElements)
  obtain ⟨choices, readChoices, areRead⟩ := Outcome.bind_eq_ok_iff.mp afterElements
  obtain ⟨rows, isCombination, isRead⟩ := Outcome.exists_item_of_mem_mapM areRead isAlternative
  have sameOffsets := placedOffsets_of_tokensOf isRead
  have read :
      ∀ token ∈ tokens,
        ∃ placed ∈ rows.flatten,
          placed.entries.token place placed.phrase (some (unitOffsets (Token.unitSizes tokens))) =
            .ok token := by
    intro token isToken
    rw [← sameOffsets]
    exact Outcome.exists_item_of_mem_mapM isRead isToken
  constructor
  case signs =>
    intro token isToken
    obtain ⟨placed, isPlaced, isRead⟩ := read token isToken
    exact
      TokenEntries.canBeWritten_of_token
        (isReadable_of_mem_combinations eachReadable readChoices isCombination placed isPlaced)
        isRead
  case isShort =>
    exact readable.isShort place alternatives expands tokens isAlternative
  case references =>
    intro token isToken reference isReference
    obtain ⟨placed, _, isRead⟩ := read token isToken
    have goesToUnit := (TokenEntries.isReadAs_of_token isRead).reference
    rw [isReference] at goesToUnit
    obtain ⟨unit, _, rfl⟩ := TokenEntries.exists_unit_of_reference goesToUnit
    rw [Int.natAbs_natCast]
    rw [← Token.sum_unitSizes tokens]
    exact sum_take_le_sum _ _

end Patterns

/-- The definition of a rule has values of the right kinds. -/
structure RuleEntries.IsReadable (phrases : PhraseTable) (definition : RuleEntries) : Prop where
  keys : Value.HasListableKeys knownKeys definition
  message : Value.field? "message" definition ≠ some .null
  shortMessage : Value.fieldOr "short_message" (.text "") definition ≠ .null
  suggestions : Value.fieldOr "suggestions_out_msg" (.text "") definition ≠ .null
  mark : (Value.fieldOr "mark" .null definition).IsMark
  antipatterns :
    (Value.fieldOr "antipatterns" .null definition).isTruthy = true →
      ∃ given,
        (Value.fieldOr "antipatterns" .null definition).elements = .ok given ∧
          ∀ antipattern ∈ given, antipattern.HasReadableParts false
  expression :
    ∀ expression, Value.field? "regex" definition = some expression →
      expression.IsExpressionSource ∧
        (Value.fieldOr "regex_mark" (.int 0) definition).IsGroupNumber
  pattern :
    ∀ pattern, Value.field? "pattern" definition = some pattern → pattern ≠ .null →
      phrases.IsReadablePattern pattern

namespace Rule

theorem failsOnly_requireField
    {name : String}
    {value : Value}
    (present : value ≠ .null) :
    FailsOnly Failure.IsFlaw (requireField name value) := by
  cases value with
  | null =>
      exact (present rfl).elim
  | _ =>
      exact failsOnly_ok ()

/-- A bad reference is that of one of the tokens. -/
theorem exists_token_of_badReference?
    {tokens : List Token}
    {index : Nat}
    {reference : Int}
    (isBad : badReference? tokens = some (index, reference)) :
    index < tokens.length ∧ ∃ token ∈ tokens, token.reference = some reference := by
  obtain ⟨⟨token, place⟩, member, isPlace⟩ := List.exists_of_findSome?_eq_some isBad
  dsimp only at isPlace
  split at isPlace
  · cases isPlace
  · rename_i isReference
    split at isPlace
    · cases isPlace
    · cases isPlace
      have isToken := List.mk_mem_zipIdx_iff_getElem?.mp member
      exact
        ⟨(List.getElem?_eq_some_iff.mp isToken).1, token, List.mem_of_getElem? isToken,
          isReference⟩

theorem failsOnly_tokenPattern
    {tokens : List Token}
    (areShort : Token.AreShort tokens) :
    FailsOnly Failure.IsFlaw (tokenPattern tokens) := by
  have fewTokens := areShort.isShort
  unfold tokenPattern
  split
  · rename_i index reference isBad
    obtain ⟨inside, token, isToken, isReference⟩ := exists_token_of_badReference? isBad
    have few := areShort.references token isToken reference isReference
    refine failsOnly_error ⟨_, Failure.refusing_of_forall ?_ _⟩
    rw [List.forall_mem_cons, List.forall_mem_singleton]
    constructor
    · exact Value.canBeShown_int_iff.mpr (by rw [Int.natAbs_natCast]; omega)
    · exact Value.canBeShown_int_iff.mpr (by omega)
  · rw [requireSigns_eq_ok_iff.mpr areShort.signs]
    exact failsOnly_ok _

theorem failsOnly_readExpression
    {id source : Value}
    (idIsShown : id.canBeShown = true)
    (isSource : source.IsExpressionSource)
    (notNull : source ≠ .null) :
    FailsOnly Failure.IsFlaw (readExpression id (.source source)) := by
  cases source with
  | text source =>
      unfold readExpression
      dsimp only
      split
      · exact failsOnly_ok _
      · exact
          failsOnly_error
            ⟨_, Failure.refusing_of_forall (List.forall_mem_singleton.mpr idIsShown) _⟩
      · rename_i refusal notMalformed isRefusal
        obtain ⟨defect, place, rfl⟩ := isSource refusal isRefusal
        exact (notMalformed defect place rfl).elim
  | null =>
      exact (notNull rfl).elim
  | _ =>
      exact isSource.elim

theorem failsOnly_expressionPattern
    {mark : Int}
    (isShort : mark.natAbs < Text.digitBound)
    (expression : Regex.Expression) :
    FailsOnly Failure.IsFlaw (expressionPattern expression mark) := by
  have named : ∀ value ∈ [Value.int mark], value.canBeShown = true :=
    List.forall_mem_singleton.mpr (Value.canBeShown_int_iff.mpr isShort)
  unfold expressionPattern
  split
  · exact failsOnly_ok _
  · exact failsOnly_error ⟨_, Failure.refusing_of_forall named _⟩

/-- Parts with texts make a rule or are refused as a definition. -/
theorem failsOnly_ofParts
    {parts : RuleParts}
    (message : parts.message ≠ .null)
    (shortMessage : parts.shortMessage ≠ .null)
    (suggestions : parts.extraSuggestions ≠ .null)
    (signs : HaveSigns parts.antipatterns.flatten)
    (pattern : FailsOnly Failure.IsFlaw (patternOf parts)) :
    FailsOnly Failure.IsFlaw (Rule.ofParts parts) := by
  rw [ofParts_eq, requireSigns_eq_ok_iff.mpr signs]
  refine (failsOnly_requireField message).bind fun _ _ => ?_
  refine (failsOnly_requireField shortMessage).bind fun _ _ => ?_
  refine (failsOnly_requireField suggestions).bind fun _ _ => ?_
  exact pattern.bind fun _ _ => failsOnly_ok _

end Rule

/-- The texts of a rule are given, and the bounds of its anti-patterns can be written. -/
structure RuleParts.AreSound (parts : RuleParts) : Prop where
  message : parts.message ≠ .null
  shortMessage : parts.shortMessage ≠ .null
  suggestions : parts.extraSuggestions ≠ .null
  signs : Rule.HaveSigns parts.antipatterns.flatten

namespace RuleEntries

variable {phrases : PhraseTable} {definition : RuleEntries} {place : DefinitionPlace}

theorem failsOnly_message
    (idIsShown : place.id.canBeShown = true) :
    FailsOnly Failure.IsFlaw (message place definition) := by
  unfold message
  split
  · exact failsOnly_ok _
  · exact failsOnly_error (place.isFlaw_refusal idIsShown (List.forall_mem_nil _) _)

theorem exists_correction
    {mark : Value}
    (isMark : mark.IsMark)
    {name : String}
    (isName : name = "from" ∨ name = "to") :
    ∃ number, correction name mark = .ok number := by
  unfold correction
  split
  · rename_i entries
    cases entries with
    | nil =>
        exact ⟨0, rfl⟩
    | cons entry entries =>
        obtain ⟨_, isMapping, ofFrom, ofTo⟩ := isMark rfl
        cases isMapping
        rcases isName with rfl | rfl
        · exact ofFrom
        · exact ofTo
  · rename_i noMapping
    split
    · rename_i isTruthy
      obtain ⟨entries, isMapping, _⟩ := isMark isTruthy
      exact (noMapping entries isMapping).elim
    · exact ⟨0, rfl⟩

theorem failsOnly_antipatterns
    (readable : definition.IsReadable phrases)
    (idIsShown : place.id.canBeShown = true) :
    FailsOnly Failure.IsFlaw (antipatterns place definition) := by
  unfold antipatterns Value.elementsIfAny
  split
  · rename_i isTruthy
    obtain ⟨given, areGiven, eachReadable⟩ := readable.antipatterns isTruthy
    rw [areGiven]
    exact FailsOnly.mapM fun antipattern member =>
      failsOnly_antipatternOf idIsShown (eachReadable antipattern member)
  · exact failsOnly_ok _

theorem haveSigns_of_antipatterns
    (readable : definition.IsReadable phrases)
    {rows : List (List Token)}
    (read : antipatterns place definition = .ok rows) :
    Rule.HaveSigns rows.flatten := by
  unfold antipatterns Value.elementsIfAny at read
  split at read
  · rename_i isTruthy
    obtain ⟨given, areGiven, eachReadable⟩ := readable.antipatterns isTruthy
    rw [areGiven] at read
    intro token isToken
    obtain ⟨tokens, areTokens, inTokens⟩ := List.mem_flatten.mp isToken
    obtain ⟨antipattern, isGiven, isRead⟩ := Outcome.exists_item_of_mem_mapM read areTokens
    exact haveSigns_of_antipatternOf (eachReadable antipattern isGiven) isRead token inTokens
  · cases read
    exact List.forall_mem_nil _

theorem failsOnly_commonParts
    {context : DefinitionContext}
    (readable : definition.IsReadable phrases)
    (idIsShown : place.id.canBeShown = true)
    (subId given : Value) :
    FailsOnly Failure.IsFlaw (commonParts context place subId given definition) := by
  obtain ⟨start, isStart⟩ := exists_correction readable.mark (.inl rfl)
  obtain ⟨stop, isStop⟩ := exists_correction readable.mark (.inr rfl)
  unfold commonParts
  refine (failsOnly_antipatterns readable idIsShown).bind fun antipatterns _ => ?_
  rw [isStart, isStop]
  exact failsOnly_ok _

theorem areSound_of_commonParts
    {context : DefinitionContext}
    (readable : definition.IsReadable phrases)
    {subId given : Value}
    (isGiven : message place definition = .ok given)
    {parts : RuleParts}
    (isCommon : commonParts context place subId given definition = .ok parts) :
    parts.AreSound ∧ parts.id = place.id := by
  obtain ⟨_, areAntipatterns, afterAntipatterns⟩ := Outcome.bind_eq_ok_iff.mp isCommon
  obtain ⟨_, _, afterStart⟩ := Outcome.bind_eq_ok_iff.mp afterAntipatterns
  obtain ⟨_, _, result⟩ := Outcome.bind_eq_ok_iff.mp afterStart
  cases result
  refine ⟨⟨?_, readable.shortMessage, readable.suggestions, ?_⟩, rfl⟩
  · rintro rfl
    unfold message at isGiven
    split at isGiven
    · rename_i isMessage
      cases isGiven
      exact readable.message isMessage
    · cases isGiven
  · exact haveSigns_of_antipatterns readable areAntipatterns

/-- The rules of a readable definition are read or refused as a definition. -/
theorem failsOnly_rules
    {context : DefinitionContext}
    (readable : definition.IsReadable context.phrases)
    {id : Value}
    (idIsShown : id.canBeShown = true)
    (subId : Value) :
    FailsOnly Failure.IsFlaw (rules context id subId definition) := by
  have isShown : id.shown = .ok id.display := Value.shown_eq_ok_iff.mpr ⟨idIsShown, rfl⟩
  unfold rules
  refine (DefinitionPlace.failsOnly_requireKnown idIsShown readable.keys _).bind fun _ _ => ?_
  refine (failsOnly_message idIsShown).bind fun given isGiven => ?_
  refine (failsOnly_commonParts readable idIsShown subId given).bind fun parts isCommon => ?_
  obtain ⟨noTokens, noExpression⟩ := tokens_expression_of_commonParts isCommon
  obtain ⟨sound, sameId⟩ := areSound_of_commonParts readable isGiven isCommon
  have withoutPattern : FailsOnly Failure.IsFlaw (Rule.ofParts parts) := by
    refine
      Rule.failsOnly_ofParts sound.message sound.shortMessage sound.suggestions sound.signs ?_
    rw [Rule.patternOf, noTokens, noExpression]
    exact failsOnly_ok _
  split
  · exact failsOnly_error (DefinitionPlace.isFlaw_refusal idIsShown (List.forall_mem_nil _) _)
  · rename_i expression isExpression _
    obtain ⟨isSource, mark, isMark, isShort⟩ := readable.expression expression isExpression
    refine FailsOnly.bind ?_ fun _ _ => failsOnly_ok _
    unfold expressionRule
    rw [isMark]
    refine
      Rule.failsOnly_ofParts sound.message sound.shortMessage sound.suggestions sound.signs ?_
    unfold Rule.patternOf
    dsimp only
    rw [noTokens]
    cases expression with
    | null =>
        exact failsOnly_ok _
    | _ =>
        refine
          (Rule.failsOnly_readExpression (sameId ▸ idIsShown) isSource nofun).bind fun _ _ => ?_
        exact Rule.failsOnly_expressionPattern isShort _
  · rw [isShown]
    exact withoutPattern.bind fun _ _ => failsOnly_ok _
  · rw [isShown]
    exact withoutPattern.bind fun _ _ => failsOnly_ok _
  · rename_i pattern notNull _ isPattern
    have isReadable := readable.pattern pattern isPattern fun isNull => notNull isNull
    refine FailsOnly.bind ?_ fun _ _ => failsOnly_ok _
    refine (failsOnly_expand idIsShown isReadable).bind fun alternatives expands => ?_
    refine .mapM fun tokens isAlternative => ?_
    refine
      Rule.failsOnly_ofParts sound.message sound.shortMessage sound.suggestions sound.signs ?_
    unfold Rule.patternOf
    dsimp only
    rw [noExpression]
    exact Rule.failsOnly_tokenPattern (areShort_of_mem_expand isReadable expands isAlternative)

end RuleEntries

/-- The phrases of a document; what is no mapping has none. -/
def phrasesOf (document : List (Value × Value)) : PhraseTable :=
  match Value.fieldOr "phrases" .null document with
  | .mapping phrases => phrases
  | _ => []

/-- All values of a document are of the kinds that their readers expect. -/
structure IsReadableDocument (document : List (Value × Value)) : Prop where
  definitions : (Value.fieldOr "rules" .null document).IsIterableIfAny
  members :
    ∀ definitions group,
      (Value.fieldOr "rules" .null document).elementsIfAny = .ok definitions →
        .mapping group ∈ definitions →
          Value.fieldOr "rules" .null group ≠ .null →
            ∃ members,
              (Value.fieldOr "rules" .null group).elements = .ok members ∧
                ∀ member ∈ members, ∃ own, member.toEntries = .ok own
  rules :
    ∀ id subId definition,
      HoldsDefinition document id subId definition →
        id.canBeShown = true ∧ definition.IsReadable (phrasesOf document)

section Documents

variable {source language : String} {document : List (Value × Value)}

theorem failsOnly_ofEntries :
    FailsOnly Failure.IsFlaw (DefinitionContext.ofEntries source language document) := by
  unfold DefinitionContext.ofEntries
  dsimp only
  split
  · exact failsOnly_ok _
  · split
    · exact failsOnly_error ⟨_, rfl⟩
    · exact failsOnly_ok _

theorem phrases_of_ofEntries
    {context : DefinitionContext}
    (isContext : DefinitionContext.ofEntries source language document = .ok context) :
    context.phrases = phrasesOf document := by
  unfold DefinitionContext.ofEntries at isContext
  unfold phrasesOf
  generalize Value.fieldOr "phrases" .null document = phrases at isContext ⊢
  cases phrases with
  | mapping phrases =>
      cases isContext
      rfl
  | _ =>
      dsimp only at isContext
      split at isContext
      · cases isContext
      · cases isContext
        rfl

/-- A definition of a readable document is read or refused as a definition. -/
theorem failsOnly_allRules
    (readable : IsReadableDocument document)
    {context : DefinitionContext}
    (samePhrases : context.phrases = phrasesOf document)
    {definitions : List Value}
    (areDefinitions : (Value.fieldOr "rules" .null document).elementsIfAny = .ok definitions)
    {definition : Value}
    (isDefinition : definition ∈ definitions) :
    FailsOnly Failure.IsFlaw (RuleEntries.allRules context definition) := by
  unfold RuleEntries.allRules
  split
  · rename_i group
    split
    · exact failsOnly_error ⟨_, rfl⟩
    · rename_i id hasId
      split
      · rename_i isNoGroup
        obtain ⟨idIsShown, isReadable⟩ :=
          readable.rules _ _ _ (.alone areDefinitions isDefinition hasId isNoGroup)
        exact RuleEntries.failsOnly_rules (samePhrases ▸ isReadable) idIsShown .null
      · rename_i isGroup
        obtain ⟨members, areMembers, eachReadable⟩ :=
          readable.members definitions group areDefinitions isDefinition isGroup
        rw [areMembers]
        refine (failsOnly_ok members).bind fun members isMembers => ?_
        cases isMembers
        refine FailsOnly.bind ?_ fun _ _ => failsOnly_ok _
        refine .mapM fun entry isMember => ?_
        obtain ⟨member, index⟩ := entry
        rw [List.mk_mem_zipIdx_iff_getElem?] at isMember
        obtain ⟨own, isOwn⟩ := eachReadable member (List.mem_of_getElem? isMember)
        dsimp only [RuleEntries.memberRules]
        rw [isOwn]
        obtain ⟨idIsShown, isReadable⟩ :=
          readable.rules _ _ _
            (.member areDefinitions isDefinition hasId isGroup areMembers isMember isOwn)
        exact RuleEntries.failsOnly_rules (samePhrases ▸ isReadable) idIsShown _
  · exact failsOnly_error ⟨_, rfl⟩

/-- A readable document is loaded or refused as a definition. -/
theorem failsOnly_rulesOfEntries
    (readable : IsReadableDocument document) :
    FailsOnly Failure.IsFlaw (rulesOfEntries source language document) := by
  obtain ⟨definitions, areDefinitions⟩ := Value.isIterableIfAny_iff.mp readable.definitions
  unfold rulesOfEntries
  refine failsOnly_ofEntries.bind fun context isContext => ?_
  have samePhrases := phrases_of_ofEntries isContext
  rw [areDefinitions]
  refine (failsOnly_ok definitions).bind fun definitions isDefinitions => ?_
  cases isDefinitions
  refine FailsOnly.bind ?_ fun _ _ => failsOnly_ok _
  exact .mapM fun definition isDefinition =>
    failsOnly_allRules readable samePhrases areDefinitions isDefinition

end Documents

end ProseRules
