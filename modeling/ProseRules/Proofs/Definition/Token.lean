import ProseRules.Definition.Expansion
import ProseRules.Proofs.Outcome
import ProseRules.Proofs.Value.Fields

namespace ProseRules

/-!
# Reading a written token

The definition that is written of a token is read as the same token. Only its
reference is written in units and read as the start of a unit, so what is read
of it depends on the units at both ends.
-/

/-- A definition is refused in words that name values that can be written. -/
theorem DefinitionPlace.refusal_eq
    {place : DefinitionPlace}
    (idIsShown : place.id.canBeShown = true)
    {named : List Value}
    (canBeShown : ∀ value ∈ named, value.canBeShown = true)
    (flaw : (source id : String) → DefinitionFlaw) :
    place.refusal named flaw = .definition (flaw place.source place.id.display) :=
  Failure.refusing_of_forall (List.forall_mem_cons.mpr ⟨idIsShown, canBeShown⟩) _

/-- A refusal that has to name a value that is too long is not one of the definition. -/
theorem DefinitionPlace.refusal_of_long
    {place : DefinitionPlace}
    {named : List Value}
    {value : Value}
    (member : value ∈ named)
    (notShown : value.canBeShown = false)
    (flaw : (source id : String) → DefinitionFlaw) :
    place.refusal named flaw = .tooLongToWrite :=
  Failure.refusing_of_exists ⟨value, List.mem_cons_of_mem _ member, notShown⟩ _

/-- A mapping is read as its entries. -/
theorem TokenEntries.eq_of_ofValue_mapping
    {place : DefinitionPlace}
    {given entries : TokenEntries}
    (read : ofValue place (.mapping given) = .ok entries) :
    entries = given := by
  obtain ⟨_, _, isGiven⟩ := Outcome.bind_eq_ok_iff.mp read
  cases isGiven
  rfl

namespace Token

/-- The token with another target of its reference. -/
def referringTo
    (token : Token)
    (reference : Option Int)
    (sameKind : reference.isSome = token.reference.isSome) : Token :=
  { token with
    reference := reference
    negation_has_subject := by
      rw [sameKind]
      exact token.negation_has_subject }

/-- The entry for the upper bound of a token. -/
def writtenMost (token : Token) : Value :=
  match token.most with
  | none => .text "*"
  | some most => .int most

/-- The entries for the reference of a token. -/
def writtenReference (token : Token) (offsets : Option (List Nat)) : List (Value × Value) :=
  match token.reference, offsets with
  | some reference, some offsets =>
      [(.text "reference", .int (exportedReference offsets reference))]
  | _, _ => []

theorem definitionEntries_eq
    (token : Token)
    (offsets : Option (List Nat)) :
    token.definitionEntries offsets =
      entryIf (token.text ≠ "") "string" (.text token.text) ++
        (entryIf token.negated "negation" (.bool true) ++
          (entryIf token.isExpression "regex" (.bool true) ++
            (entryIf token.inflected "inflected" (.bool true) ++
              (entryIf token.caseSensitive "case_sensitive" (.bool true) ++
                (entryIf (token.least ≠ 1) "min" (.int token.least) ++
                  (entryIf (token.most ≠ some 1) "max" token.writtenMost ++
                    (entryIf token.isPartOfPhrase "phrase" token.phrase ++
                      token.writtenReference offsets))))))) := by
  simp only [definitionEntries, List.append_assoc]
  rfl

@[simp] theorem field?_writtenReference
    (token : Token)
    (offsets : Option (List Nat))
    {name : String}
    (other : name ≠ "reference") :
    Value.field? name (token.writtenReference offsets) = none := by
  unfold writtenReference
  split
  · simp [other.symm]
  · rfl

/-- Only known keys are written. -/
theorem unknownKeys_definitionEntries
    (token : Token)
    (offsets : Option (List Nat)) :
    Value.unknownKeys TokenEntries.knownKeys (token.definitionEntries offsets) = [] := by
  refine Value.unknownKeys_eq_nil fun entry member => ?_
  rw [definitionEntries_eq] at member
  simp only [List.mem_append, mem_entryIf_iff] at member
  have inReference :
      ∀ entry ∈ token.writtenReference offsets, entry.1 = .text "reference" := by
    intro entry written
    unfold writtenReference at written
    split at written
    · rw [List.mem_singleton.mp written]
    · simp at written
  rcases member with ⟨_, rfl⟩ | ⟨_, rfl⟩ | ⟨_, rfl⟩ | ⟨_, rfl⟩ | ⟨_, rfl⟩ | ⟨_, rfl⟩ |
    ⟨_, rfl⟩ | ⟨_, rfl⟩ | written
  all_goals first
    | exact ⟨_, by simp [TokenEntries.knownKeys], rfl⟩
    | exact ⟨_, by simp [TokenEntries.knownKeys], inReference entry written⟩

section Fields

variable (token : Token) (offsets : Option (List Nat))

theorem fieldOr_string :
    Value.fieldOr "string" (.text "") (token.definitionEntries offsets) = .text token.text := by
  rw [definitionEntries_eq]
  by_cases noText : token.text = "" <;> simp [Value.fieldOr, noText]

theorem fieldOr_min :
    Value.fieldOr "min" (.int 1) (token.definitionEntries offsets) = .int token.least := by
  rw [definitionEntries_eq]
  by_cases usual : token.least = 1 <;> simp [Value.fieldOr, usual]

theorem fieldOr_max
    (usual : Value) :
    Value.fieldOr "max" usual (token.definitionEntries offsets) =
      if token.most = some 1 then usual else token.writtenMost := by
  rw [definitionEntries_eq]
  by_cases isUsual : token.most = some 1 <;> simp [Value.fieldOr, isUsual]

theorem fieldOr_reference :
    Value.fieldOr "reference" .null (token.definitionEntries offsets) =
      match token.reference, offsets with
      | some reference, some offsets => .int (exportedReference offsets reference)
      | _, _ => .null := by
  rw [definitionEntries_eq]
  unfold writtenReference
  split <;> simp [Value.fieldOr]

/-- No reference to a phrase is written. -/
theorem field?_phraseref :
    Value.field? "phraseref" (token.definitionEntries offsets) = none := by
  rw [definitionEntries_eq]
  simp

/-- The phrase that was written is read again if its name is a text. -/
theorem ownPhrase_definitionEntries
    (isText : ∃ name, token.phrase = .text name) :
    TokenEntries.ownPhrase (token.definitionEntries offsets) = token.phrase := by
  obtain ⟨name, isName⟩ := isText
  rw [definitionEntries_eq, TokenEntries.ownPhrase]
  by_cases noName : name = "" <;>
    simp [Value.fieldOr, isPartOfPhrase, isName, Value.isTruthy, noName]

/-- The flags that were written are read again. -/
theorem flags_definitionEntries :
    TokenEntries.flag "negation" (token.definitionEntries offsets) = token.negated ∧
      TokenEntries.flag "regex" (token.definitionEntries offsets) = token.isExpression ∧
        TokenEntries.flag "inflected" (token.definitionEntries offsets) = token.inflected ∧
          TokenEntries.flag "case_sensitive" (token.definitionEntries offsets) =
            token.caseSensitive := by
  rw [definitionEntries_eq]
  refine ⟨?_, ?_, ?_, ?_⟩
  · cases flag : token.negated <;> simp [TokenEntries.flag, Value.fieldOr, Value.isTruthy]
  · cases flag : token.isExpression <;> simp [TokenEntries.flag, Value.fieldOr, Value.isTruthy]
  · cases flag : token.inflected <;> simp [TokenEntries.flag, Value.fieldOr, Value.isTruthy]
  · cases flag : token.caseSensitive <;> simp [TokenEntries.flag, Value.fieldOr, Value.isTruthy]

end Fields

/-- A written token is read as the entries that were written for it. -/
theorem ofValue_definition
    (place : DefinitionPlace)
    (token : Token)
    (offsets : Option (List Nat)) :
    TokenEntries.ofValue place (token.definition offsets) =
      .ok (token.definitionEntries offsets) := by
  have known := unknownKeys_definitionEntries token offsets
  have string := fieldOr_string token offsets
  unfold definition
  split
  · rename_i content onlyText
    rw [onlyText] at string ⊢
    obtain rfl : content = .text token.text := by simpa [Value.fieldOr] using string
    rfl
  · simp [TokenEntries.ofValue, DefinitionPlace.requireKnown, known, pure, Except.pure, bind,
      Except.bind]

/-- Without an upper bound a token takes one word, or as many as it has to. -/
theorem usualMost_definitionEntries
    (token : Token)
    (offsets : Option (List Nat)) :
    TokenEntries.usualMost (token.definitionEntries offsets) =
      .ok (if token.least ≤ 1 then .int 1 else .int token.least) := by
  have least := fieldOr_min token offsets
  simp only [TokenEntries.usualMost, least, Value.quantity?, Value.Quantity.compare?, compare,
    compareOfLessAndEq]
  by_cases none : (token.least : Int) < 1
  · have atMostOne : token.least ≤ 1 := by omega
    simp [none, atMostOne, pure, Except.pure]
  · by_cases one : (token.least : Int) = 1
    · have atMostOne : token.least ≤ 1 := by omega
      simp [one, atMostOne, pure, Except.pure]
    · have more : ¬token.least ≤ 1 := by omega
      simp [none, one, more, pure, Except.pure]

/-- The upper bound that was written is read again, and the usual one where none was. -/
theorem mostOf_definitionEntries
    (token : Token)
    (offsets : Option (List Nat)) :
    TokenEntries.mostOf
        (Value.fieldOr "max" (if token.least ≤ 1 then .int 1 else .int token.least)
          (token.definitionEntries offsets)) =
      .ok token.mostAsInt := by
  rw [fieldOr_max]
  cases most : token.most with
  | none =>
      simp [writtenMost, most, TokenEntries.mostOf, mostAsInt]
  | some greatest =>
      have ordered := token.bounds_ordered greatest most
      by_cases isUsual : greatest = 1
      · have atMostOne : token.least ≤ 1 := by omega
        simp [isUsual, atMostOne, TokenEntries.mostOf, Value.toInteger, mostAsInt, most]
      · simp [isUsual, writtenMost, most, TokenEntries.mostOf, Value.toInteger, mostAsInt]

/-- The parts of a token make the token again. -/
theorem ofParts_referringTo
    (token : Token)
    {reference : Option Int}
    (sameKind : reference.isSome = token.reference.isSome) :
    Token.ofParts
        { text := token.text
          negated := token.negated
          isExpression := token.isExpression
          inflected := token.inflected
          caseSensitive := token.caseSensitive
          least := token.least
          most := token.mostAsInt
          phrase := token.phrase
          reference := reference } =
      .ok (token.referringTo reference sameKind) := by
  have sameMost :
      (if token.mostAsInt = -1 then none else some token.mostAsInt.toNat) = token.most := by
    cases most : token.most with
    | none =>
        simp [mostAsInt, most]
    | some greatest =>
        have isNumber : (greatest : Int) ≠ -1 := by omega
        simp [mostAsInt, most, isNumber]
  have notNegative : ¬(token.least : Int) < 0 := by omega
  have subject :
      token.negated = true → token.text ≠ "" ∨ reference.isSome = true := by
    rw [sameKind]
    exact token.negation_has_subject
  have ordered :
      ∀ most',
        (if token.mostAsInt = -1 then none else some token.mostAsInt.toNat) = some most' →
          max (token.least : Int).toNat 1 ≤ most' := by
    rw [sameMost, Int.toNat_natCast]
    exact token.bounds_ordered
  simp only [Token.ofParts, notNegative, if_false, dif_pos ordered, dif_pos subject]
  congr

/-- The entries written for a token are read as the token with the reference that is read. -/
theorem token_definitionEntries
    (place : DefinitionPlace)
    (token : Token)
    (written offsets : Option (List Nat))
    {reference : Option Int}
    (sameKind : reference.isSome = token.reference.isSome)
    (readReference :
      TokenEntries.reference place offsets (token.definitionEntries written) = .ok reference) :
    TokenEntries.token place token.phrase offsets (token.definitionEntries written) =
      .ok (token.referringTo reference sameKind) := by
  obtain ⟨negated, isExpression, inflected, caseSensitive⟩ :=
    flags_definitionEntries token written
  simp only [TokenEntries.token, readReference, usualMost_definitionEntries, fieldOr_min,
    mostOf_definitionEntries, fieldOr_string, negated, isExpression, inflected, caseSensitive,
    bind, Except.bind, Value.toInteger, Value.shown_text, ofParts_referringTo token sameKind]
  rfl

end Token

end ProseRules
