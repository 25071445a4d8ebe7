import ProseRules.Proofs.Definition.Token
import ProseRules.Proofs.Token.Grouping

namespace ProseRules

/-!
# Reading a written pattern

A written pattern is read as the same row of tokens, in which every reference goes
to the first token of the unit it went to. Anti-patterns without references are
read as they are.
-/

namespace Token

/-- The token with a reference to the first token of the unit that its reference goes to. -/
def referringToStart (token : Token) (sizes : List Nat) : Token :=
  token.referringTo
    (token.reference.map fun reference => (startOfUnit sizes reference.toNat : Int))
    (by simp)

theorem reference_referringToStart
    (token : Token)
    (sizes : List Nat) :
    (token.referringToStart sizes).reference =
      token.reference.map fun reference => (startOfUnit sizes reference.toNat : Int) :=
  rfl

theorem phrase_referringToStart
    (token : Token)
    (sizes : List Nat) :
    (token.referringToStart sizes).phrase = token.phrase :=
  rfl

/-- References to the starts of units do not change the units. -/
theorem unitSizes_map_referringToStart
    (tokens : List Token)
    (sizes : List Nat) :
    unitSizes (tokens.map (·.referringToStart sizes)) = unitSizes tokens := by
  refine unitSizes_congr ?_
  simp [phrase_referringToStart, Function.comp_def]

/-- No reference is read of a token without one. -/
theorem reference_definitionEntries_of_none
    (place : DefinitionPlace)
    {token : Token}
    (noReference : token.reference = none)
    (written offsets : Option (List Nat)) :
    TokenEntries.reference place offsets (token.definitionEntries written) = .ok none := by
  simp only [TokenEntries.reference, fieldOr_reference, noReference]

/-- A written reference is read as the start of the unit it goes to. -/
theorem reference_definitionEntries_of_some
    (place : DefinitionPlace)
    {token : Token}
    {reference : Int}
    (isReference : token.reference = some reference)
    {sizes : List Nat}
    (inside : reference.toNat < sizes.sum) :
    TokenEntries.reference place (some (unitOffsets sizes))
        (token.definitionEntries (some (unitOffsets sizes))) =
      .ok (some (startOfUnit sizes reference.toNat)) := by
  have unitExists := unitHolding_lt_length inside
  have start := getElem?_unitOffsets_unitHolding inside
  have number :
      exportedReference (unitOffsets sizes) reference =
        ((unitHolding sizes reference.toNat + 1 : Nat) : Int) := by
    rw [exportedReference, unitOf_unitOffsets inside]
    rfl
  have inRange :
      (1 : Int) ≤ ((unitHolding sizes reference.toNat + 1 : Nat) : Int) ∧
        ((unitHolding sizes reference.toNat + 1 : Nat) : Int) <
          (unitOffsets sizes).length := by
    rw [length_unitOffsets]
    omega
  simp only [TokenEntries.reference, fieldOr_reference, isReference, number, Value.toInteger,
    bind, Except.bind, inRange, and_self, if_true, pure, Except.pure, Int.toNat_natCast,
    Nat.add_sub_cancel, List.getD_eq_getElem?_getD, start, Option.getD_some]
  rfl

/-- A reference of a pattern goes to one of its tokens. -/
theorem toNat_reference_lt_length
    {tokens : List Token}
    (precede : referencesPrecede tokens)
    {token : Token}
    (member : token ∈ tokens)
    {reference : Int}
    (isReference : token.reference = some reference) :
    reference.toNat < tokens.length := by
  obtain ⟨index, inside, isToken⟩ := List.getElem_of_mem member
  have inPlace : (token, index) ∈ tokens.zipIdx := by
    rw [List.mk_mem_zipIdx_iff_getElem?, List.getElem?_eq_getElem inside, isToken]
  obtain ⟨_, before⟩ := precede (token, index) inPlace reference isReference
  simp only at before
  omega

/-- References to the starts of units still go to earlier tokens. -/
theorem referencesPrecede_map_referringToStart
    {tokens : List Token}
    (precede : referencesPrecede tokens)
    (sizes : List Nat) :
    referencesPrecede (tokens.map (·.referringToStart sizes)) := by
  intro entry member reference isReference
  rw [List.zipIdx_map] at member
  obtain ⟨⟨token, index⟩, inPlace, rfl⟩ := List.mem_map.mp member
  simp only [Prod.map_fst, Prod.map_snd, id_eq, reference_referringToStart,
    Option.map_eq_some_iff] at isReference ⊢
  obtain ⟨original, isOriginal, rfl⟩ := isReference
  obtain ⟨_, before⟩ := precede (token, index) inPlace original isOriginal
  have startsBefore := @startOfUnit_le sizes original.toNat
  simp only at before
  omega

/-- A token of a pattern is read with a reference to the start of a unit. -/
theorem token_definitionEntries_of_referencesPrecede
    (place : DefinitionPlace)
    {tokens : List Token}
    (precede : referencesPrecede tokens)
    {token : Token}
    (member : token ∈ tokens) :
    TokenEntries.token place token.phrase (some (unitOffsets (unitSizes tokens)))
        (token.definitionEntries (some (unitOffsets (unitSizes tokens)))) =
      .ok (token.referringToStart (unitSizes tokens)) := by
  refine token_definitionEntries place token _ _ (by simp) ?_
  cases isReference : token.reference with
  | none =>
      exact reference_definitionEntries_of_none place isReference _ _
  | some reference =>
      have inside : reference.toNat < (unitSizes tokens).sum := by
        rw [sum_unitSizes]
        exact toNat_reference_lt_length precede member isReference
      exact reference_definitionEntries_of_some place isReference inside

/-- A reference to the start of a unit is written as the one it stands for. -/
theorem definition_referringToStart
    {token : Token}
    {sizes : List Nat}
    (inside :
      ∀ reference, token.reference = some reference → reference.toNat < sizes.sum) :
    (token.referringToStart sizes).definition (some (unitOffsets sizes)) =
      token.definition (some (unitOffsets sizes)) := by
  have sameReference :
      (token.referringToStart sizes).writtenReference (some (unitOffsets sizes)) =
        token.writtenReference (some (unitOffsets sizes)) := by
    cases isReference : token.reference with
    | none =>
        simp [writtenReference, reference_referringToStart, isReference]
    | some reference =>
        have startInside : startOfUnit sizes reference.toNat < sizes.sum :=
          Nat.lt_of_le_of_lt startOfUnit_le (inside reference isReference)
        simp [writtenReference, reference_referringToStart, isReference, exportedReference,
          unitOf_unitOffsets startInside, unitOf_unitOffsets (inside reference isReference),
          unitHolding_startOfUnit]
  have sameEntries :
      (token.referringToStart sizes).definitionEntries (some (unitOffsets sizes)) =
        token.definitionEntries (some (unitOffsets sizes)) := by
    rw [definitionEntries_eq, definitionEntries_eq, sameReference]
    rfl
  rw [definition, definition, sameEntries]

/-- A pattern whose references go to the starts of units is written as the pattern itself. -/
theorem map_definition_referringToStart
    {tokens : List Token}
    (precede : referencesPrecede tokens) :
    ((tokens.map (·.referringToStart (unitSizes tokens))).map fun token =>
        token.definition (some (unitOffsets (unitSizes tokens)))) =
      tokens.map fun token => token.definition (some (unitOffsets (unitSizes tokens))) := by
  rw [List.map_map]
  refine List.map_congr_left fun token member => ?_
  refine definition_referringToStart fun reference isReference => ?_
  rw [sum_unitSizes]
  exact toNat_reference_lt_length precede member isReference

end Token

/-- A written anti-pattern without references is read as it is. -/
theorem antipatternOf_definition
    (place : DefinitionPlace)
    {tokens : List Token}
    (phrasesAreTexts : ∀ token ∈ tokens, ∃ name, token.phrase = .text name)
    (noReference : ∀ token ∈ tokens, token.reference = none) :
    antipatternOf place (.list (tokens.map fun token => token.definition none)) =
      .ok tokens := by
  have defined :
      (tokens.map fun token => token.definition none).mapM (TokenEntries.ofValue place) =
        .ok (tokens.map fun token => token.definitionEntries none) :=
    Outcome.mapM_map_eq_ok fun token _ => Token.ofValue_definition place token none
  have read :
      (tokens.map fun token => token.definitionEntries none).mapM
          (fun (entries : TokenEntries) => entries.token place entries.ownPhrase none) =
        .ok tokens := by
    refine Outcome.mapM_map_eq_self fun token member => ?_
    have notGiven := noReference token member
    have sameReference : (none : Option Int).isSome = token.reference.isSome := by
      rw [notGiven]
    have asItIs : token.referringTo none sameReference = token := by
      simp only [Token.referringTo, ← notGiven]
    rw [Token.ownPhrase_definitionEntries token none (phrasesAreTexts token member),
      Token.token_definitionEntries place token none none sameReference
        (Token.reference_definitionEntries_of_none place notGiven none none),
      asItIs]
  simp only [antipatternOf, Value.elements, bind, Except.bind, defined]
  exact read

/-- Of single choices there is one combination. -/
theorem combinations_map_singletons
    {α β : Type}
    (choice : α → β)
    (items : List α) :
    combinations (items.map fun item => [choice item]) = [items.map choice] := by
  induction items with
  | nil =>
      rfl
  | cons item items inductionHypothesis =>
      simp [combinations, inductionHypothesis]

/-- The units of placed tokens are those of tokens with the same phrases. -/
theorem placedOffsets_eq
    {placed : List PlacedToken}
    {tokens : List Token}
    (samePhrases : placed.map (·.phrase) = tokens.map (·.phrase)) :
    placedOffsets placed = unitOffsets (Token.unitSizes tokens) := by
  rw [placedOffsets]
  refine congrArg unitOffsets (Token.unitSizes_congr ?_)
  rw [← samePhrases, List.map_map]
  rfl

namespace Token

/-- The entries that are written for a token, with its phrase. -/
def placed (token : Token) (offsets : List Nat) : PlacedToken :=
  ⟨token.definitionEntries (some offsets), token.phrase⟩

/-- A written token leaves no choice. -/
theorem choicesOf_definition
    (phrases : PhraseTable)
    (place : DefinitionPlace)
    {token : Token}
    (phraseIsText : ∃ name, token.phrase = .text name)
    (offsets : List Nat) :
    phrases.choicesOf place (token.definition (some offsets)) =
      .ok [[token.placed offsets]] := by
  simp [PhraseTable.choicesOf, ofValue_definition, field?_phraseref, placed,
    ownPhrase_definitionEntries token _ phraseIsText, bind, Except.bind, pure, Except.pure]

/-- The tokens of a pattern are read with references to the starts of units. -/
theorem tokensOf_map_placed
    (place : DefinitionPlace)
    {tokens : List Token}
    (precede : referencesPrecede tokens) :
    tokensOf place (tokens.map (·.placed (unitOffsets (unitSizes tokens)))) =
      .ok (tokens.map (·.referringToStart (unitSizes tokens))) := by
  have samePhrases :
      (tokens.map (·.placed (unitOffsets (unitSizes tokens)))).map (·.phrase) =
        tokens.map (·.phrase) := by
    simp [placed]
  rw [tokensOf, placedOffsets_eq samePhrases]
  exact Outcome.mapM_map_eq_ok fun token member =>
    token_definitionEntries_of_referencesPrecede place precede member

end Token

/-- A written pattern is read as one row, the tokens with references to starts of units. -/
theorem expand_definition
    (phrases : PhraseTable)
    (place : DefinitionPlace)
    {tokens : List Token}
    (precede : referencesPrecede tokens)
    (phrasesAreTexts : ∀ token ∈ tokens, ∃ name, token.phrase = .text name) :
    expand phrases place
        (.list (tokens.map fun token =>
          token.definition (some (unitOffsets (Token.unitSizes tokens))))) =
      .ok [tokens.map (·.referringToStart (Token.unitSizes tokens))] := by
  have chosen :
      (tokens.map fun token =>
            token.definition (some (unitOffsets (Token.unitSizes tokens)))).mapM
          (phrases.choicesOf place) =
        .ok (tokens.map fun token =>
          [[token.placed (unitOffsets (Token.unitSizes tokens))]]) :=
    Outcome.mapM_map_eq_ok fun token member =>
      Token.choicesOf_definition phrases place (phrasesAreTexts token member) _
  have flattened :
      (tokens.map fun token => [token.placed (unitOffsets (Token.unitSizes tokens))]).flatten =
        tokens.map (·.placed (unitOffsets (Token.unitSizes tokens))) := by
    rw [← List.flatMap_def, List.map_eq_flatMap]
  simp only [expand, Value.elements, bind, Except.bind, chosen, combinations_map_singletons,
    List.mapM_cons, List.mapM_nil, flattened, Token.tokensOf_map_placed place precede, pure,
    Except.pure]

end ProseRules
