import ProseRules.Proofs.Definition.Flaws
import ProseRules.Proofs.Value.Fields

namespace ProseRules

/-!
# Failures of readers

A reader that is given a value of another kind than it expects fails, and its failure is not the
refusal of a definition. Neither is a refusal that would have to name a number with too many
digits. Such a failure escapes from every reader that uses the first one, as long as all that is
read before can be read. A token whose bounds have too many digits is read, but no rule is made
with it.
-/

namespace Failure

/-- The failure is not the refusal of a definition. -/
def IsOther (failure : Failure) : Prop :=
  ¬failure.IsFlaw

theorem isOther_wrongKind :
    IsOther .wrongKind := by
  rintro ⟨_, ⟨⟩⟩

theorem isOther_noMember :
    IsOther .noMember := by
  rintro ⟨_, ⟨⟩⟩

theorem isOther_tooLarge :
    IsOther .tooLarge := by
  rintro ⟨_, ⟨⟩⟩

theorem isOther_badValue
    (flaw : ValueFlaw) :
    IsOther (.badValue flaw) := by
  rintro ⟨_, ⟨⟩⟩

theorem isOther_refusing
    {named : List Value}
    {value : Value}
    (member : value ∈ named)
    (notShown : value.canBeShown = false)
    (flaw : DefinitionFlaw) :
    (refusing named flaw).IsOther := by
  rw [refusing_of_exists ⟨value, member, notShown⟩]
  exact isOther_badValue _

end Failure

open Failure (isOther_wrongKind isOther_noMember isOther_tooLarge isOther_badValue isOther_refusing)
open Outcome (FailsOnly failsOnly_ok failsOnly_error failsOnly_mapError)

namespace Outcome

variable {α β : Type}

/-- A step fails, and not by the refusal of a definition. -/
def Escapes (outcome : Except Failure α) : Prop :=
  ∃ failure, outcome = .error failure ∧ failure.IsOther

theorem escapes_error
    {failure : Failure}
    (isOther : failure.IsOther) :
    Escapes (.error failure : Except Failure α) :=
  ⟨failure, rfl, isOther⟩

/-- A reader that never refuses a definition escapes where it has no result. -/
theorem escapes_of_failsOnly
    {outcome : Except Failure α}
    (failsOnly : FailsOnly Failure.IsOther outcome)
    (noResult : ¬∃ result, outcome = .ok result) :
    Escapes outcome :=
  failsOnly.ok_or_error.resolve_left noResult

theorem Escapes.bind
    {first : Except Failure α}
    (escapes : Escapes first)
    (next : α → Except Failure β) :
    Escapes (first >>= next) := by
  obtain ⟨failure, rfl, isOther⟩ := escapes
  exact escapes_error isOther

theorem Escapes.bind_of_ok
    {first : Except Failure α}
    {value : α}
    (isFirst : first = .ok value)
    {next : α → Except Failure β}
    (escapes : Escapes (next value)) :
    Escapes (first >>= next) := by
  rw [isFirst]
  exact escapes

/-- If the first step never refuses a definition, the whole escapes if all that follows does. -/
theorem Escapes.bind_of_failsOnly
    {first : Except Failure α}
    (failsOnly : FailsOnly Failure.IsOther first)
    {next : α → Except Failure β}
    (escapes : ∀ value, first = .ok value → Escapes (next value)) :
    Escapes (first >>= next) := by
  rcases failsOnly.ok_or_error with ⟨value, isFirst⟩ | escapesFirst
  · exact .bind_of_ok isFirst (escapes value isFirst)
  · exact Escapes.bind escapesFirst next

/-- Steps over a list escape if the first of them does. -/
theorem Escapes.mapM_cons
    {step : α → Except Failure β}
    {item : α}
    (escapes : Escapes (step item))
    (items : List α) :
    Escapes ((item :: items).mapM step) := by
  rw [List.mapM_cons]
  exact escapes.bind _

end Outcome

open Outcome (Escapes escapes_error escapes_of_failsOnly)

namespace Value

variable {value : Value}

theorem failsOnly_elements :
    FailsOnly Failure.IsOther value.elements := by
  cases value with
  | text | bytes | list | tuple | set | mapping =>
      exact failsOnly_ok _
  | _ =>
      exact failsOnly_error isOther_wrongKind

theorem failsOnly_toInteger :
    FailsOnly Failure.IsOther value.toInteger := by
  cases value with
  | bool | int =>
      exact failsOnly_ok _
  | real x =>
      unfold toInteger
      dsimp only
      split
      · exact failsOnly_ok _
      · exact failsOnly_error (isOther_badValue _)
      · exact failsOnly_error isOther_tooLarge
  | text =>
      exact failsOnly_mapError fun flaw => isOther_badValue _
  | bytes =>
      refine failsOnly_mapError fun flaw => ?_
      split
      · exact isOther_badValue _
      · exact isOther_badValue _
  | _ =>
      exact failsOnly_error isOther_wrongKind

theorem failsOnly_entryOf
    {index : Nat}
    {element : Value} :
    FailsOnly Failure.IsOther (entryOf index element) := by
  unfold entryOf
  refine failsOnly_elements.bind fun parts _ => ?_
  split
  · split
    · exact failsOnly_ok _
    · exact failsOnly_error isOther_wrongKind
  · exact failsOnly_error (isOther_badValue _)

theorem failsOnly_toEntries :
    FailsOnly Failure.IsOther value.toEntries := by
  cases value with
  | mapping entries =>
      exact failsOnly_ok entries
  | _ =>
      exact failsOnly_elements.bind fun parts _ => .mapM fun entry _ => failsOnly_entryOf

theorem escapes_elements
    (notIterable : ¬value.IsIterable) :
    Escapes value.elements :=
  escapes_of_failsOnly failsOnly_elements notIterable

theorem escapes_elementsIfAny
    (notIterable : ¬value.IsIterableIfAny) :
    Escapes value.elementsIfAny := by
  obtain ⟨isTruthy, notElements⟩ := Classical.not_imp.mp notIterable
  rw [elementsIfAny, if_pos isTruthy]
  exact escapes_elements notElements

theorem escapes_toInteger
    (notInteger : ¬value.IsInteger) :
    Escapes value.toInteger :=
  escapes_of_failsOnly failsOnly_toInteger notInteger

/-- A number with too many digits is read as itself. -/
theorem digitBound_le_of_toInteger
    (notShown : value.canBeShown = false)
    {number : Int}
    (isNumber : value.toInteger = .ok number) :
    Text.digitBound ≤ number.natAbs := by
  cases value with
  | int n =>
      cases isNumber
      exact canBeShown_int_eq_false_iff.mp notShown
  | list | tuple | set | mapping =>
      cases isNumber
  | _ =>
      cases notShown

theorem failsOnly_shown :
    FailsOnly Failure.IsOther value.shown := by
  unfold shown
  split
  · exact failsOnly_ok _
  · exact failsOnly_error (isOther_badValue _)

end Value

/-- Unknown keys that cannot be listed are not refused. -/
theorem DefinitionPlace.escapes_requireKnown
    {place : DefinitionPlace}
    {known : List String}
    {entries : List (Value × Value)}
    (notListable : ¬Value.HasListableKeys known entries)
    (flaw : (source id : String) → List Value → DefinitionFlaw) :
    Escapes (place.requireKnown known flaw entries) := by
  have someUnknown : Value.unknownKeys known entries ≠ [] :=
    fun noneUnknown => notListable (Value.hasListableKeys_of_known noneUnknown)
  unfold requireKnown
  dsimp only
  rw [if_pos (by simpa using someUnknown)]
  refine .bind_of_failsOnly Value.failsOnly_shown fun _ _ => ?_
  cases unordered : Value.hasUnordered (Value.unknownKeys known entries) with
  | true =>
      rw [Value.sorted, unordered]
      exact escapes_error isOther_wrongKind
  | false =>
      rw [Value.sorted, unordered]
      have someLong : ∃ key ∈ Value.unknownKeys known entries, key.canBeShown = false := by
        by_contra! canBeShown
        exact notListable ⟨unordered, fun key member => by simpa using canBeShown key member⟩
      obtain ⟨key, isUnknown, notShown⟩ := someLong
      refine escapes_error (isOther_refusing ?_ notShown _)
      exact List.mem_cons_of_mem place.id (List.mem_mergeSort.mpr isUnknown)

namespace TokenEntries

variable {place : DefinitionPlace} {entries : TokenEntries}

theorem escapes_ofValue_mapping
    (notListable : ¬Value.HasListableKeys knownKeys entries) :
    Escapes (ofValue place (.mapping entries)) :=
  (place.escapes_requireKnown notListable _).bind _

theorem escapes_ofValue_of_long
    {part : Value}
    (noMapping : ∀ entries, part ≠ .mapping entries)
    (notShown : part.canBeShown = false) :
    Escapes (ofValue place part) := by
  have isNamed : part ∈ [place.id, part] := by simp
  cases part with
  | text text =>
      cases notShown
  | mapping entries =>
      exact (noMapping entries rfl).elim
  | _ =>
      exact escapes_error (isOther_refusing isNamed notShown _)

/-- A pattern of one unit, if any, accepts no other value than a reference. -/
theorem escapes_reference
    {offsets : Option (List Nat)}
    (single : ∀ starts ∈ offsets, starts.length ≤ 2)
    (notReference :
      ¬(Value.fieldOr "reference" .null entries).IsReference offsets.isSome) :
    Escapes (reference place offsets entries) := by
  obtain ⟨notNull, notNamed⟩ := not_or.mp notReference
  unfold reference
  dsimp only
  split
  · rename_i isNull
    exact (notNull isNull).elim
  · have notShown := eq_false_of_ne_true fun isShown => notNamed ⟨isShown, nofun⟩
    exact escapes_error (isOther_refusing (by simp) notShown _)
  · rename_i starts _
    refine .bind_of_failsOnly Value.failsOnly_toInteger fun number isNumber => ?_
    have notShown := eq_false_of_ne_true fun isShown => notNamed ⟨isShown, fun _ => ⟨_, isNumber⟩⟩
    have outOfRange : ¬(1 ≤ number ∧ number < starts.length) := by
      intro inRange
      have few := single starts rfl
      have long := Value.digitBound_le_of_toInteger notShown isNumber
      have someDigits := Text.two_lt_digitBound
      omega
    rw [if_neg outOfRange]
    exact escapes_error (isOther_refusing (by simp) notShown _)

variable {phrase : Value} {offsets : Option (List Nat)} {target : Option Int}

theorem escapes_token_of_reference
    (escapes : Escapes (reference place offsets entries)) :
    Escapes (entries.token place phrase offsets) :=
  escapes.bind _

theorem escapes_token_of_least
    (isTarget : reference place offsets entries = .ok target)
    (isShown : ∃ text, (Value.fieldOr "string" (.text "") entries).shown = .ok text)
    (notNumber :
      (Value.fieldOr "min" (.int 1) entries).quantity? = none ∨
        (Value.fieldOr "min" (.int 1) entries).toInteger = .error .tooLarge) :
    Escapes (entries.token place phrase offsets) := by
  unfold token
  refine .bind_of_ok isTarget ?_
  cases isQuantity : (Value.fieldOr "min" (.int 1) entries).quantity? with
  | none =>
      have noUsual : usualMost entries = .error .wrongKind := by
        unfold usualMost
        dsimp only
        rw [isQuantity]
        rfl
      rw [noUsual]
      exact escapes_error isOther_wrongKind
  | some quantity =>
      obtain ⟨usual, isUsual, _⟩ := exists_usualMost ⟨quantity, isQuantity⟩
      -- An infinite bound can still be compared with 1; it fails when it is read as a number.
      have tooLarge := notNumber.resolve_left (by simp [isQuantity])
      obtain ⟨text, isText⟩ := isShown
      refine .bind_of_ok isUsual ?_
      rw [isText, tooLarge]
      exact escapes_error isOther_tooLarge

theorem failsOnly_mostOf
    {value : Value} :
    FailsOnly Failure.IsOther (mostOf value) := by
  unfold mostOf
  split
  · exact failsOnly_ok _
  · exact failsOnly_ok _
  · exact Value.failsOnly_toInteger

/-- A failure that is no refusal of a value stays what it is at a token. -/
theorem escapes_token_of_most
    (isTarget : reference place offsets entries = .ok target)
    (isShown : ∃ text, (Value.fieldOr "string" (.text "") entries).shown = .ok text)
    {usual : Value}
    (isUsual : usualMost entries = .ok usual)
    {least : Int}
    (isLeast : (Value.fieldOr "min" (.int 1) entries).toInteger = .ok least)
    (notBound : ¬FailsOnly Failure.IsBadValue (mostOf (Value.fieldOr "max" usual entries))) :
    Escapes (entries.token place phrase offsets) := by
  unfold FailsOnly at notBound
  push Not at notBound
  obtain ⟨failure, isFailure, notBadValue⟩ := notBound
  have isOther := failsOnly_mostOf failure isFailure
  obtain ⟨text, isText⟩ := isShown
  unfold token
  refine .bind_of_ok isTarget (.bind_of_ok isUsual ?_)
  simp only [isText, isLeast, isFailure, bind, Except.bind]
  cases failure with
  | badValue flaw =>
      exact (notBadValue ⟨flaw, rfl⟩).elim
  | _ =>
      exact escapes_error isOther

end TokenEntries

/-- Nothing is read, or a token with bounds that have too many digits, alone in its place. -/
def IsUnusable {α : Type} (place : Token → α) (outcome : Except Failure α) : Prop :=
  Escapes outcome ∨
    ∃ token : Token,
      outcome = .ok (place token) ∧
        token.reference = none ∧ token.operator.canBeWritten = false

section Unusable

variable {α β γ : Type} {place : Token → α}

theorem IsUnusable.bind_of_ok
    {first : Except Failure β}
    {value : β}
    (isFirst : first = .ok value)
    {next : β → Except Failure α}
    (unusable : IsUnusable place (next value)) :
    IsUnusable place (first >>= next) := by
  rw [isFirst]
  exact unusable

theorem IsUnusable.mapM_singleton
    {step : γ → Except Failure α}
    {item : γ}
    (unusable : IsUnusable place (step item)) :
    IsUnusable (fun token => [place token]) ([item].mapM step) := by
  rcases unusable with escapes | ⟨token, isRead, noReference, tooLong⟩
  · exact .inl (escapes.mapM_cons [])
  · refine .inr ⟨token, ?_, noReference, tooLong⟩
    rw [List.mapM_cons, isRead]
    rfl

/-- A token is unusable if one of its bounds has too many digits. -/
theorem isUnusable_token_of_long
    {entries : TokenEntries}
    {origin : DefinitionPlace}
    {phrase : Value}
    {offsets : Option (List Nat)}
    (isTarget : entries.reference origin offsets = .ok none)
    (isShown : ∃ text, (Value.fieldOr "string" (.text "") entries).shown = .ok text)
    (notNegated : entries.flag "negation" = false)
    {usual : Value}
    (isUsual : TokenEntries.usualMost entries = .ok usual)
    {least most : Int}
    (isLeast : (Value.fieldOr "min" (.int 1) entries).toInteger = .ok least)
    (isMost : TokenEntries.mostOf (Value.fieldOr "max" usual entries) = .ok most)
    (notNegative : 0 ≤ least)
    (inOrder : max least 1 ≤ most)
    (tooLong : Text.digitBound ≤ most) :
    IsUnusable id (entries.token origin phrase offsets) := by
  obtain ⟨text, isText⟩ := isShown
  obtain ⟨token, made, _, isBound⟩ :=
    @Token.exists_ofParts_eq_ok
      { text := text
        negated := entries.flag "negation"
        isExpression := entries.flag "regex"
        inflected := entries.flag "inflected"
        caseSensitive := entries.flag "case_sensitive"
        least := least
        most := most
        phrase := phrase
        reference := none }
      notNegative (fun _ => inOrder) (by simp [notNegated])
  refine .inr ⟨token, ?_, ?_, ?_⟩
  · simp only [TokenEntries.token, isTarget, isUsual, isText, isLeast, isMost, made, bind,
      Except.bind, Except.mapError]
    rfl
  · obtain ⟨_, _, rfl⟩ := Token.eq_of_ofParts made
    rfl
  · dsimp only at isBound
    rw [if_neg (by omega)] at isBound
    refine Bool.eq_false_iff.mpr fun canBeWritten => ?_
    have isShort := (Token.canBeWritten_operator_iff.mp canBeWritten).2 _ isBound
    omega

end Unusable

/--
What defines a token is not taken as its entries, or the token that they define cannot be used,
at least as the only unit of a pattern.
-/
def Value.CannotBeUsed (part : Value) (inPattern : Bool) : Prop :=
  ∀ place : DefinitionPlace,
    Escapes (TokenEntries.ofValue place part) ∨
      ∃ entries,
        TokenEntries.ofValue place part = .ok entries ∧
          Value.field? "phraseref" entries = none ∧
            ∀ (phrase : Value) (offsets : Option (List Nat)),
              offsets.isSome = inPattern →
                (∀ starts ∈ offsets, starts.length ≤ 2) →
                  IsUnusable id (TokenEntries.token place phrase offsets entries)

section Patterns

variable {phrases : PhraseTable} {place : DefinitionPlace} {part : Value}

theorem isUnusable_antipatternOf
    (cannotBeUsed : part.CannotBeUsed false) :
    IsUnusable (fun token => [token]) (antipatternOf place (.list [part])) := by
  unfold antipatternOf
  refine .bind_of_ok rfl ?_
  rcases cannotBeUsed place with escapes | ⟨entries, isEntries, _, unusable⟩
  · exact .inl ((escapes.mapM_cons []).bind _)
  · have areRead : [part].mapM (TokenEntries.ofValue place) = .ok [entries] := by
      simp [List.mapM_cons, isEntries, bind, Except.bind, pure, Except.pure]
    exact .bind_of_ok areRead (.mapM_singleton (unusable entries.ownPhrase none rfl nofun))

theorem escapes_expand_of_choices
    {element : Value}
    (escapes : Escapes (phrases.choicesOf place element)) :
    Escapes (expand phrases place (.list [element])) := by
  unfold expand
  refine .bind_of_ok rfl ?_
  exact (escapes.mapM_cons []).bind _

/-- A pattern of one token is read as this token alone. -/
theorem isUnusable_expand_of_token
    {element phrase : Value}
    {entries : TokenEntries}
    (areChoices : phrases.choicesOf place element = .ok [[⟨entries, phrase⟩]])
    (unusable :
      ∀ (phrase : Value) (offsets : Option (List Nat)),
        offsets.isSome = true →
          (∀ starts ∈ offsets, starts.length ≤ 2) →
            IsUnusable id (entries.token place phrase offsets)) :
    IsUnusable (fun token => [[token]]) (expand phrases place (.list [element])) := by
  unfold expand
  refine .bind_of_ok rfl ?_
  have areRead : [element].mapM (phrases.choicesOf place) = .ok [[[⟨entries, phrase⟩]]] := by
    simp [List.mapM_cons, areChoices, bind, Except.bind, pure, Except.pure]
  refine .bind_of_ok areRead (.mapM_singleton (.mapM_singleton (unusable phrase _ rfl ?_)))
  rintro _ ⟨⟩
  exact Nat.le_refl 2

theorem isUnusable_expand_token
    (cannotBeUsed : part.CannotBeUsed true) :
    IsUnusable (fun token => [[token]]) (expand phrases place (.list [part])) := by
  rcases cannotBeUsed place with escapes | ⟨entries, isEntries, isPlain, unusable⟩
  · exact .inl (escapes_expand_of_choices (escapes.bind _))
  · have areChoices : phrases.choicesOf place part = .ok [[⟨entries, entries.ownPhrase⟩]] := by
      unfold PhraseTable.choicesOf
      rw [isEntries]
      dsimp only [bind, Except.bind]
      rw [isPlain]
      rfl
    exact isUnusable_expand_of_token areChoices unusable

/-- The element of a pattern that refers to a phrase. -/
def phraseReference (name : Value) : Value :=
  .mapping [(.text "phraseref", name)]

theorem choicesOf_phraseReference
    (name : Value) :
    phrases.choicesOf place (phraseReference name) =
      phrases.alternatives place name >>= fun alternatives =>
        alternatives.elements >>= fun parts =>
          parts.mapM (PhraseTable.placedAlternative place name) := by
  simp [PhraseTable.choicesOf, phraseReference, TokenEntries.ofValue,
    DefinitionPlace.requireKnown, Value.unknownKeys, Value.asText?, TokenEntries.knownKeys, bind,
    Except.bind, pure, Except.pure]

theorem alternatives_single
    (alternatives : Value) :
    PhraseTable.alternatives [(.text "p", alternatives)] place (.text "p") = .ok alternatives := by
  simp [PhraseTable.alternatives, Value.isKey, Value.lookup?, pure, Except.pure]

/-- A name that is no key, or one of no phrase that has too many digits, is not refused. -/
theorem escapes_choicesOf_of_name
    {name : Value}
    (notName : ¬(name.isKey = true ∧ name.canBeShown = true)) :
    Escapes (PhraseTable.choicesOf [] place (phraseReference name)) := by
  rw [choicesOf_phraseReference]
  refine Escapes.bind ?_ _
  unfold PhraseTable.alternatives
  cases isKey : name.isKey with
  | false =>
      exact escapes_error isOther_wrongKind
  | true =>
      have notShown := eq_false_of_ne_true fun isShown => notName ⟨isKey, isShown⟩
      exact escapes_error (isOther_refusing (by simp) notShown _)

theorem escapes_choicesOf_alternatives
    {alternatives : Value}
    (notIterable : ¬alternatives.IsIterable) :
    Escapes
      (PhraseTable.choicesOf [(.text "p", alternatives)] place (phraseReference (.text "p"))) := by
  rw [choicesOf_phraseReference]
  exact .bind_of_ok (alternatives_single _) ((Value.escapes_elements notIterable).bind _)

theorem escapes_choicesOf_alternative
    {alternative : Value}
    (notIterable : ¬alternative.IsIterable) :
    Escapes
      (PhraseTable.choicesOf [(.text "p", .list [alternative])] place
        (phraseReference (.text "p"))) := by
  rw [choicesOf_phraseReference]
  refine .bind_of_ok (alternatives_single _) (.bind_of_ok rfl ?_)
  exact ((Value.escapes_elements notIterable).bind _).mapM_cons []

theorem isUnusable_expand_alternative
    (cannotBeUsed : part.CannotBeUsed true) :
    IsUnusable (fun token => [[token]])
      (expand [(.text "p", .list [.list [part]])] place (.list [phraseReference (.text "p")])) := by
  have choices := @choicesOf_phraseReference [(.text "p", .list [.list [part]])] place (.text "p")
  rw [alternatives_single] at choices
  rcases cannotBeUsed place with escapes | ⟨entries, isEntries, _, unusable⟩
  · refine .inl (escapes_expand_of_choices ?_)
    rw [choices]
    refine .bind_of_ok rfl (.bind_of_ok rfl (.mapM_cons ?_ []))
    exact .bind_of_ok rfl ((escapes.bind _).mapM_cons [])
  · have areRead :
        [.list [part]].mapM (PhraseTable.placedAlternative place (.text "p")) =
          .ok [[⟨entries, .text "p"⟩]] := by
      simp [Value.elements, PhraseTable.placedAlternative, List.mapM_cons, isEntries, bind,
        Except.bind, pure, Except.pure]
    exact isUnusable_expand_of_token (choices.trans areRead) unusable

end Patterns

namespace Rule

variable {parts : RuleParts}

theorem failsOnly_requireField_isOther
    {name : String}
    {value : Value} :
    FailsOnly Failure.IsOther (requireField name value) := by
  cases value with
  | null =>
      exact failsOnly_error (isOther_badValue _)
  | _ =>
      exact failsOnly_ok ()

theorem ne_null_of_requireField
    {name : String}
    {value : Value}
    (required : requireField name value = .ok ()) :
    value ≠ .null := by
  rintro rfl
  cases required

theorem escapes_requireSigns
    {tokens : List Token}
    (noSigns : ¬HaveSigns tokens) :
    Escapes (requireSigns tokens) := by
  unfold requireSigns
  split
  · rename_i signs
    exact (noSigns (List.all_eq_true.mp signs)).elim
  · exact escapes_error (isOther_badValue _)

/--
A rule is not made without its texts, of a pattern that cannot be read, or with anti-patterns
whose bounds have too many digits.
-/
theorem escapes_ofParts
    (cannotBeMade :
      parts.message ≠ .null →
        parts.shortMessage ≠ .null →
          parts.extraSuggestions ≠ .null →
            Escapes (patternOf parts) ∨
              (∃ pattern, patternOf parts = .ok pattern) ∧
                ¬HaveSigns parts.antipatterns.flatten) :
    Escapes (ofParts parts) := by
  rw [ofParts_eq]
  -- The check of a text either escapes itself or shows that the text is there.
  refine .bind_of_failsOnly failsOnly_requireField_isOther fun _ message => ?_
  refine .bind_of_failsOnly failsOnly_requireField_isOther fun _ shortMessage => ?_
  refine .bind_of_failsOnly failsOnly_requireField_isOther fun _ suggestions => ?_
  rcases
    cannotBeMade (ne_null_of_requireField message) (ne_null_of_requireField shortMessage)
      (ne_null_of_requireField suggestions) with escapes | ⟨⟨pattern, isPattern⟩, noSigns⟩
  · exact escapes.bind _
  · exact .bind_of_ok isPattern ((escapes_requireSigns noSigns).bind _)

theorem escapes_readExpression
    {id source : Value}
    (notSource : ¬source.IsExpressionSource)
    (notNull : source ≠ .null) :
    Escapes (readExpression id (.source source)) := by
  cases source with
  | text source =>
      unfold Value.IsExpressionSource at notSource
      push Not at notSource
      obtain ⟨refusal, isRefusal, notMalformed⟩ := notSource
      unfold readExpression
      dsimp only
      rw [isRefusal]
      cases refusal with
      | malformed defect place =>
          exact (notMalformed defect place rfl).elim
      | boundTooLarge =>
          exact escapes_error isOther_tooLarge
      | boundTooLong digits =>
          exact escapes_error (isOther_badValue _)
      | clashingAlphabets =>
          exact escapes_error (isOther_badValue _)
  | null =>
      exact (notNull rfl).elim
  | _ =>
      exact escapes_error isOther_wrongKind

/-- A pattern of one token whose bounds have too many digits is not accepted. -/
theorem escapes_patternOf_token
    {token : Token}
    (isToken : parts.tokens = some [token])
    (noExpression : parts.expression = none)
    (noReference : token.reference = none)
    (tooLong : token.operator.canBeWritten = false) :
    Escapes (patternOf parts) := by
  have noSigns : ¬HaveSigns [token] := by
    intro signs
    rw [signs token (List.mem_singleton_self _)] at tooLong
    cases tooLong
  unfold patternOf
  rw [isToken, noExpression]
  dsimp only
  unfold tokenPattern
  split
  · rename_i isBad
    obtain ⟨_, other, isOther, isReference⟩ := exists_token_of_badReference? isBad
    rw [List.mem_singleton.mp isOther, noReference] at isReference
    cases isReference
  · exact (escapes_requireSigns noSigns).bind _

/-- A number with too many digits is none of a group, and cannot be named for that. -/
theorem escapes_expressionPattern
    {expression : Regex.Expression}
    (noGroups : expression.groups = 0)
    {mark : Int}
    (isLong : Text.digitBound ≤ mark.natAbs) :
    Escapes (expressionPattern expression mark) := by
  have someDigits := Text.two_lt_digitBound
  have outOfRange : ¬(0 ≤ mark ∧ mark.toNat ≤ expression.groups) := by
    rw [noGroups]
    omega
  have notShown : (Value.int mark).canBeShown = false :=
    Value.canBeShown_int_eq_false_iff.mpr isLong
  unfold expressionPattern
  rw [dif_neg outOfRange]
  exact escapes_error (isOther_refusing (List.mem_singleton_self _) notShown _)

end Rule

namespace RuleEntries

variable {context : DefinitionContext} {id subId : Value} {definition : RuleEntries}

theorem escapes_rules_of_keys
    (notListable : ¬Value.HasListableKeys knownKeys definition) :
    Escapes (rules context id subId definition) :=
  (DefinitionPlace.escapes_requireKnown notListable _).bind _

/-- All keys of a definition are known, and it has a message. -/
structure HasMessage (context : DefinitionContext) (id : Value) (definition : RuleEntries)
    (given : Value) : Prop where
  keys :
    DefinitionPlace.requireKnown ⟨context.source, id⟩ knownKeys .unknownRuleKeys definition =
      .ok ()
  isGiven : message ⟨context.source, id⟩ definition = .ok given

theorem hasMessage_of_known
    (allKnown : ∀ entry ∈ definition, ∃ name ∈ knownKeys, entry.1 = .text name)
    {given : Value}
    (isGiven : Value.field? "message" definition = some given) :
    HasMessage context id definition given := by
  constructor
  case keys =>
    unfold DefinitionPlace.requireKnown
    dsimp only
    rw [Value.unknownKeys_eq_nil allKnown]
    rfl
  case isGiven => rw [message, isGiven]

/-- Besides, the parts are read that the rules of a definition share. -/
structure HasParts (context : DefinitionContext) (id subId : Value) (definition : RuleEntries)
    (given : Value) (parts : RuleParts) : Prop where
  hasMessage : HasMessage context id definition given
  common : commonParts context ⟨context.source, id⟩ subId given definition = .ok parts

section Message

variable {given : Value} {parts : RuleParts}

theorem escapes_rules_of_commonParts
    (hasMessage : HasMessage context id definition given)
    (escapes : Escapes (commonParts context ⟨context.source, id⟩ subId given definition)) :
    Escapes (rules context id subId definition) :=
  .bind_of_ok hasMessage.keys (.bind_of_ok hasMessage.isGiven (escapes.bind _))

theorem escapes_rules_of_pattern
    (hasParts : HasParts context id subId definition given parts)
    (noExpression : Value.field? "regex" definition = none)
    {pattern : Value}
    (isPattern : Value.field? "pattern" definition = some pattern)
    (notNull : pattern ≠ .null)
    (escapes : Escapes (patternRules context ⟨context.source, id⟩ parts pattern)) :
    Escapes (rules context id subId definition) := by
  refine .bind_of_ok hasParts.hasMessage.keys (.bind_of_ok hasParts.hasMessage.isGiven ?_)
  refine .bind_of_ok hasParts.common ?_
  rw [noExpression, isPattern]
  cases pattern with
  | null =>
      exact (notNull rfl).elim
  | _ =>
      exact escapes.bind _

theorem escapes_rules_of_expression
    (hasParts : HasParts context id subId definition given parts)
    (noPattern : Value.field? "pattern" definition = none)
    {expression : Value}
    (isExpression : Value.field? "regex" definition = some expression)
    (escapes : Escapes (expressionRule parts expression definition)) :
    Escapes (rules context id subId definition) := by
  refine .bind_of_ok hasParts.hasMessage.keys (.bind_of_ok hasParts.hasMessage.isGiven ?_)
  refine .bind_of_ok hasParts.common ?_
  rw [noPattern, isExpression]
  exact escapes.bind _

/-- A rule without a pattern is named in a notice before it is made. -/
theorem escapes_rules_of_ofParts
    (hasParts : HasParts context id subId definition given parts)
    (noExpression : Value.field? "regex" definition = none)
    (noPattern : Value.field? "pattern" definition = none)
    (escapes : id.canBeShown = true → Escapes (Rule.ofParts parts)) :
    Escapes (rules context id subId definition) := by
  refine .bind_of_ok hasParts.hasMessage.keys (.bind_of_ok hasParts.hasMessage.isGiven ?_)
  refine .bind_of_ok hasParts.common ?_
  rw [noPattern, noExpression]
  refine .bind_of_failsOnly Value.failsOnly_shown fun _ isShown => ?_
  exact (escapes (Value.shown_eq_ok_iff.mp isShown).1).bind _

end Message

theorem antipatterns_eq_nil
    {place : DefinitionPlace}
    (noAntipatterns : Value.field? "antipatterns" definition = none) :
    antipatterns place definition = .ok [] := by
  unfold antipatterns Value.fieldOr
  rw [noAntipatterns]
  rfl

/-- Without a mark the parts are there as soon as the anti-patterns are read. -/
theorem exists_commonParts
    {place : DefinitionPlace}
    {given : Value}
    {rows : List (List Token)}
    (areRead : antipatterns place definition = .ok rows)
    (noMark : Value.field? "mark" definition = none) :
    ∃ parts,
      commonParts context place subId given definition = .ok parts ∧
        parts.message = given ∧
          parts.shortMessage = Value.fieldOr "short_message" (.text "") definition ∧
            parts.extraSuggestions =
                Value.fieldOr "suggestions_out_msg" (.text "") definition ∧
              parts.antipatterns = rows := by
  unfold commonParts
  rw [areRead]
  simp only [Value.fieldOr, noMark, Option.getD_none]
  exact ⟨_, rfl, rfl, rfl, rfl, rfl⟩

theorem exists_hasParts
    (allKnown : ∀ entry ∈ definition, ∃ name ∈ knownKeys, entry.1 = .text name)
    {given : Value}
    (isGiven : Value.field? "message" definition = some given)
    (noAntipatterns : Value.field? "antipatterns" definition = none)
    (noMark : Value.field? "mark" definition = none) :
    ∃ parts,
      HasParts context id subId definition given parts ∧
        parts.message = given ∧
          parts.shortMessage = Value.fieldOr "short_message" (.text "") definition ∧
            parts.extraSuggestions = Value.fieldOr "suggestions_out_msg" (.text "") definition := by
  obtain ⟨parts, isCommon, isMessage, isShortMessage, areSuggestions, _⟩ :=
    @exists_commonParts context subId definition ⟨context.source, id⟩ given []
      (antipatterns_eq_nil noAntipatterns) noMark
  exact
    ⟨parts, ⟨hasMessage_of_known allKnown isGiven, isCommon⟩, isMessage, isShortMessage,
      areSuggestions⟩

/-- Anti-patterns that cannot be read or written make no rule, even if it looks for nothing. -/
theorem escapes_rules_of_antipatterns
    {given : Value}
    (hasMessage : HasMessage context id definition given)
    (noMark : Value.field? "mark" definition = none)
    (noExpression : Value.field? "regex" definition = none)
    (noPattern : Value.field? "pattern" definition = none)
    (unusable :
      IsUnusable (fun token => [[token]]) (antipatterns ⟨context.source, id⟩ definition)) :
    Escapes (rules context id subId definition) := by
  rcases unusable with escapes | ⟨token, areRead, _, tooLong⟩
  · exact escapes_rules_of_commonParts hasMessage (escapes.bind _)
  · obtain ⟨parts, isCommon, _, _, _, areRows⟩ :=
      @exists_commonParts context subId definition _ given _ areRead noMark
    refine
      escapes_rules_of_ofParts ⟨hasMessage, isCommon⟩ noExpression noPattern fun _ => ?_
    obtain ⟨noTokens, noExpression'⟩ := tokens_expression_of_commonParts isCommon
    refine Rule.escapes_ofParts fun _ _ _ => .inr ⟨⟨.absent, ?_⟩, fun signs => ?_⟩
    · rw [Rule.patternOf, noTokens, noExpression']
    · rw [signs token (by simp [areRows])] at tooLong
      cases tooLong

/-- A pattern that cannot be read or written makes no rules. -/
theorem escapes_patternRules
    {place : DefinitionPlace}
    {parts : RuleParts}
    (noExpression : parts.expression = none)
    {pattern : Value}
    (unusable :
      IsUnusable (fun token => [[token]]) (expand context.phrases place pattern)) :
    Escapes (patternRules context place parts pattern) := by
  rcases unusable with escapes | ⟨token, isExpanded, noReference, tooLong⟩
  · exact escapes.bind _
  · refine .bind_of_ok isExpanded (.mapM_cons (Rule.escapes_ofParts fun _ _ _ => ?_) [])
    exact .inl (Rule.escapes_patternOf_token rfl noExpression noReference tooLong)

theorem escapes_correction
    {mark : Value}
    (notMark : ¬mark.IsMark) :
    Escapes (correction "from" mark) ∨
      (∃ start, correction "from" mark = .ok start) ∧ Escapes (correction "to" mark) := by
  obtain ⟨isTruthy, notEntries⟩ := Classical.not_imp.mp notMark
  cases mark with
  | mapping entries =>
      by_cases isStart : (Value.fieldOr "from" (.int 0) entries).IsInteger
      · refine .inr ⟨isStart, Value.escapes_toInteger fun isStop => ?_⟩
        exact notEntries ⟨entries, rfl, isStart, isStop⟩
      · exact .inl (Value.escapes_toInteger isStart)
  | _ =>
      left
      unfold correction
      dsimp only
      rw [if_pos isTruthy]
      exact escapes_error isOther_noMember

theorem escapes_commonParts_of_mark
    {place : DefinitionPlace}
    {given : Value}
    (noAntipatterns : Value.field? "antipatterns" definition = none)
    (notMark : ¬(Value.fieldOr "mark" .null definition).IsMark) :
    Escapes (commonParts context place subId given definition) := by
  unfold commonParts
  refine .bind_of_ok (antipatterns_eq_nil noAntipatterns) ?_
  rcases escapes_correction notMark with escapes | ⟨⟨start, isStart⟩, escapes⟩
  · exact escapes.bind _
  · exact .bind_of_ok isStart (escapes.bind _)

theorem escapes_expressionRule_of_source
    {parts : RuleParts}
    (noTokens : parts.tokens = none)
    (noMark : Value.field? "regex_mark" definition = none)
    {expression : Value}
    (notSource : ¬expression.IsExpressionSource) :
    Escapes (expressionRule parts expression definition) := by
  have notNull : expression ≠ .null := by
    rintro rfl
    exact notSource trivial
  unfold expressionRule Value.fieldOr
  rw [noMark]
  refine .bind_of_ok rfl (Rule.escapes_ofParts fun _ _ _ => .inl ?_)
  unfold Rule.patternOf
  dsimp only
  rw [noTokens]
  cases expression with
  | null =>
      exact (notNull rfl).elim
  | _ =>
      exact (Rule.escapes_readExpression notSource notNull).bind _

/-- No number of a group is needed for an expression without groups, and none may be too long. -/
theorem escapes_expressionRule_of_mark
    {parts : RuleParts}
    (noTokens : parts.tokens = none)
    {source : String}
    {expression : Regex.Expression}
    (isRead : Regex.Expression.ofSource source = .ok expression)
    (noGroups : expression.groups = 0)
    (notNumber : ¬(Value.fieldOr "regex_mark" (.int 0) definition).IsGroupNumber) :
    Escapes (expressionRule parts (.text source) definition) := by
  unfold expressionRule
  refine .bind_of_failsOnly Value.failsOnly_toInteger fun mark isMark => ?_
  have isLong : Text.digitBound ≤ mark.natAbs :=
    Nat.not_lt.mp fun isShort => notNumber ⟨mark, isMark, isShort⟩
  refine Rule.escapes_ofParts fun _ _ _ => .inl ?_
  unfold Rule.patternOf
  dsimp only
  rw [noTokens]
  dsimp only
  rw [Rule.readExpression, isRead]
  exact Rule.escapes_expressionPattern noGroups isLong

end RuleEntries

end ProseRules
