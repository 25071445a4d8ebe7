import ProseRules.Proofs.Definition.PhraseReferences
import ProseRules.Proofs.Token.Partition

namespace ProseRules

/-!
# Elements of a pattern and units of its expansions

The alternatives of a phrase have different lengths, so an element of a pattern begins at another
token in each expansion. Its number stays the same: the units that are found in the tokens of an
expansion are what the elements give, one unit for each element.
-/

/-- The name of an element: of the phrase it refers to, or the one it has itself. -/
def elementName : Value → Value
  | .mapping entries =>
      (Value.field? "phraseref" entries).getD (Value.fieldOr "phrase" (.text "") entries)
  | _ => .text ""

/--
The names of elements are texts, neighbours do not share one, and phrases that are referred to
have a name and alternatives, none of them empty.
-/
structure HaveDistinctNames (phrases : PhraseTable) (elements : List Value) : Prop where
  areTexts : ∀ element ∈ elements, ∃ text, elementName element = .text text
  apart :
    elements.IsChain fun first second =>
      elementName first = elementName second → elementName first = .text ""
  offered :
    ∀ element ∈ elements, ∀ name, RefersToPhrase element name →
      name ≠ .text "" ∧
        (∃ parts, phrases.HasAlternative name parts) ∧
          ∀ parts, phrases.HasAlternative name parts → parts ≠ []

section Combination

variable {phrases : PhraseTable} {place : DefinitionPlace} {elements : List Value}
  {rows : List (List PlacedToken)}

/-- A mapping that gives tokens is read as its entries. -/
theorem Gives.ofValue_mapping
    {entries : List (Value × Value)}
    {row : List PlacedToken}
    (gives : Gives phrases place (.mapping entries) row) :
    TokenEntries.ofValue place (.mapping entries) = .ok entries := by
  cases gives with
  | token isEntries =>
      rwa [TokenEntries.eq_of_ofValue_mapping isEntries] at isEntries
  | phrase isEntries =>
      rwa [TokenEntries.eq_of_ofValue_mapping isEntries] at isEntries

/-- What an element gives is a unit with its name. -/
theorem isUnitNamed_of_gives
    (distinct : HaveDistinctNames phrases elements)
    {element : Value}
    (isElement : element ∈ elements)
    {row : List PlacedToken}
    (gives : Gives phrases place element row) :
    IsUnitNamed PlacedToken.phrase (elementName element) row := by
  have isText := distinct.areTexts element isElement
  cases gives with
  | token isEntries isPlain =>
      rename_i entries
      have sameName : entries.ownPhrase = elementName element := by
        cases element with
        | text text =>
            cases isEntries
            simp [TokenEntries.ownPhrase, Value.fieldOr, elementName]
        | mapping given =>
            rw [TokenEntries.eq_of_ofValue_mapping isEntries] at isPlain ⊢
            rw [elementName, isPlain]
            rfl
        | _ =>
            cases isEntries
      refine ⟨isText, by simp, fun placed member => ?_, fun _ => ⟨_, rfl⟩⟩
      rw [List.mem_singleton.mp member, sameName]
  | phrase isEntries isReference isDefined areOptions isOption areParts arePlaced =>
      rename_i name alternatives alternative entries options parts
      have refers := (TokenEntries.refersToPhrase_iff isEntries).mpr isReference
      obtain ⟨someName, _, someParts⟩ := distinct.offered element isElement name refers
      have isName : elementName element = name := by
        obtain ⟨given, rfl, isGiven⟩ := refers
        rw [elementName, isGiven]
        rfl
      rw [isName] at isText ⊢
      refine ⟨isText, ?_, fun placed member => ?_, fun noName => (someName noName).elim⟩
      · rintro rfl
        rw [List.forall₂_nil_right_iff] at arePlaced
        exact someParts parts
          ⟨alternatives, options, alternative, isDefined, areOptions, isOption, areParts⟩ arePlaced
      · obtain ⟨_, _, isPlaced⟩ := Outcome.exists_related_of_mem arePlaced.flip member
        exact isPlaced.2

/-- What the elements give are units with their names. -/
theorem forall₂_isUnitNamed
    (distinct : HaveDistinctNames phrases elements)
    (given : List.Forall₂ (Gives phrases place) elements rows) :
    List.Forall₂ (IsUnitNamed PlacedToken.phrase) (elements.map elementName) rows := by
  rw [List.forall₂_map_left_iff]
  refine ((List.forall₂_and_left _ _).mpr ⟨fun _ member => member, given⟩).imp ?_
  rintro element row ⟨isElement, gives⟩
  exact isUnitNamed_of_gives distinct isElement gives

/-- The units of a combination start where the elements do. -/
theorem placedOffsets_flatten
    (distinct : HaveDistinctNames phrases elements)
    (given : List.Forall₂ (Gives phrases place) elements rows) :
    placedOffsets rows.flatten = unitOffsets (rows.map List.length) := by
  have areUnits :=
    splitBy_flatten_of_named (forall₂_isUnitNamed distinct given)
      ((List.isChain_map elementName).mpr distinct.apart)
  have samePhrases :
      (rows.flatten.map fun token => Token.placeholder token.phrase).map (·.phrase) =
        rows.flatten.map (·.phrase) := by
    rw [List.map_map]
    rfl
  rw [placedOffsets, Token.unitSizes_eq_of_phrases, samePhrases, splitBy_map, areUnits,
    List.map_map]
  refine congrArg unitOffsets (List.map_congr_left fun row _ => ?_)
  simp

/-- The tokens that are read of a combination have one unit for each element. -/
theorem forall₂_units_of_tokensOf
    (distinct : HaveDistinctNames phrases elements)
    (given : List.Forall₂ (Gives phrases place) elements rows)
    {tokens : List Token}
    (read : tokensOf place rows.flatten = .ok tokens) :
    List.Forall₂
      (List.Forall₂ fun placed token =>
        placed.entries.token place placed.phrase (some (placedOffsets rows.flatten)) = .ok token)
      rows (Token.units tokens) := by
  rw [tokensOf, Outcome.mapM_eq_ok_iff] at read
  obtain ⟨units, readUnits, rfl⟩ := Outcome.exists_rows_of_forall₂_flatten read
  have named : List.Forall₂ (IsUnitNamed Token.phrase) (elements.map elementName) units := by
    refine Outcome.forall₂_of_common (fun row name unit isNamed readUnit => ?_)
      (forall₂_isUnitNamed distinct given).flip readUnits
    refine isNamed.of_samePhrases (readUnit.imp fun placed token readToken => ?_)
    exact (TokenEntries.isReadAs_of_token readToken).phrase
  have areUnits : Token.units units.flatten = units :=
    splitBy_flatten_of_named named ((List.isChain_map elementName).mpr distinct.apart)
  rwa [areUnits]

end Combination

namespace TokenEntries

/-- A reference by a number goes to the first token of the unit with this number. -/
theorem reference_eq_of_number
    {place : DefinitionPlace}
    {sizes : List Nat}
    {entries : TokenEntries}
    (isReference : Value.fieldOr "reference" .null entries ≠ .null)
    {number : Int}
    (isNumber : (Value.fieldOr "reference" .null entries).toInteger = .ok number)
    {target : Option Int} :
    reference place (some (unitOffsets sizes)) entries = .ok target ↔
      1 ≤ number ∧
        number ≤ sizes.length ∧ target = some ((sizes.take (number.toNat - 1)).sum : Int) := by
  constructor
  · intro read
    obtain ⟨unit, isUnit, unitExists, rfl⟩ := exists_number_of_reference isReference read
    rw [isNumber, Except.ok.injEq] at isUnit
    subst isUnit
    exact ⟨by omega, by omega, by simp⟩
  · rintro ⟨positive, inRange, rfl⟩
    have length := length_unitOffsets sizes
    have unitExists : number.toNat - 1 ≤ sizes.length := by omega
    simp only [reference, isNumber]
    refine Outcome.bind_eq_ok_iff.mpr ⟨number, rfl, ?_⟩
    rw [if_pos ⟨positive, by omega⟩, List.getD_eq_getElem?_getD, getElem?_unitOffsets unitExists,
      Option.getD_some]
    rfl

/-- The definition of a single token refers to an element by its number. -/
structure RefersToElement (entries : TokenEntries) (number : Int) : Prop where
  isPlain : Value.field? "phraseref" entries = none
  isReference : Value.fieldOr "reference" .null entries ≠ .null
  isNumber : (Value.fieldOr "reference" .null entries).toInteger = .ok number

end TokenEntries

/-- How many tokens a combination has before those of an element. -/
def firstTokenOf (rows : List (List PlacedToken)) (element : Nat) : Nat :=
  (rows.take element).flatten.length

/-- The reference of an element of a combination is read, and its target is an earlier token. -/
def AcceptsReference (place : DefinitionPlace) (rows : List (List PlacedToken)) (element : Nat)
    (entries : TokenEntries) (target : Int) : Prop :=
  entries.reference place (some (placedOffsets rows.flatten)) = .ok (some target) ∧
    0 ≤ target ∧ target < firstTokenOf rows element

/--
In a combination the elements keep their numbers: they are the units of its tokens, and a
reference to one of them is accepted exactly if it is an earlier one, of which it gets the first
token.
-/
structure KeepsElements (phrases : PhraseTable) (place : DefinitionPlace) (elements : List Value)
    (rows : List (List PlacedToken)) : Prop where
  given : List.Forall₂ (Gives phrases place) elements rows
  units :
    ∀ tokens,
      tokensOf place rows.flatten = .ok tokens →
        (Token.units tokens).length = elements.length ∧
          List.Forall₂
            (List.Forall₂ fun placed token =>
              placed.entries.token place placed.phrase (some (placedOffsets rows.flatten)) =
                .ok token)
            rows (Token.units tokens)
  references :
    ∀ (element : Nat) (entries : TokenEntries) (number : Int),
      elements[element]? = some (.mapping entries) →
        entries.RefersToElement number →
          ∀ target,
            AcceptsReference place rows element entries target ↔
              1 ≤ number ∧
                number < element + 1 ∧ target = firstTokenOf rows (number.toNat - 1)
  tokens :
    ∀ tokens,
      tokensOf place rows.flatten = .ok tokens →
        ∀ (element : Nat) (entries : TokenEntries) (number : Int),
          elements[element]? = some (.mapping entries) →
            entries.RefersToElement number →
              ∃ token,
                tokens[firstTokenOf rows element]? = some token ∧
                  token.reference = some (firstTokenOf rows (number.toNat - 1) : Int)
  patterns :
    ∀ tokens pattern,
      tokensOf place rows.flatten = .ok tokens →
        Rule.tokenPattern tokens = .ok pattern →
          ∀ (element : Nat) (entries : TokenEntries) (number : Int),
            elements[element]? = some (.mapping entries) →
              entries.RefersToElement number →
                ∃ target, AcceptsReference place rows element entries target

section Combination

variable {phrases : PhraseTable} {place : DefinitionPlace} {elements : List Value}
  {rows : List (List PlacedToken)}

theorem firstTokenOf_eq_sum
    (rows : List (List PlacedToken))
    (element : Nat) :
    firstTokenOf rows element = ((rows.map List.length).take element).sum := by
  rw [firstTokenOf, List.length_flatten, List.map_take]

/-- The first token that an element gives stands after those of the elements before it. -/
theorem getElem?_flatten_firstTokenOf
    {element : Nat}
    {placed : PlacedToken}
    {more : List PlacedToken}
    (isRow : rows[element]? = some (placed :: more)) :
    rows.flatten[firstTokenOf rows element]? = some placed := by
  obtain ⟨rowExists, isRow⟩ := List.getElem?_eq_some_iff.mp isRow
  have parts : rows.flatten = (rows.take element).flatten ++ (rows.drop element).flatten := by
    rw [← List.flatten_append, List.take_append_drop]
  rw [parts, firstTokenOf, List.getElem?_append_right (Nat.le_refl _), Nat.sub_self,
    List.drop_eq_getElem_cons rowExists, isRow]
  rfl

theorem acceptsReference_iff
    (distinct : HaveDistinctNames phrases elements)
    (given : List.Forall₂ (Gives phrases place) elements rows)
    {element : Nat}
    {entries : TokenEntries}
    (isElement : elements[element]? = some (.mapping entries))
    {number : Int}
    (refers : entries.RefersToElement number)
    {target : Int} :
    AcceptsReference place rows element entries target ↔
      1 ≤ number ∧ number < element + 1 ∧ target = firstTokenOf rows (number.toNat - 1) := by
  have elementExists := (List.getElem?_eq_some_iff.mp isElement).1
  rw [given.length_eq, ← List.length_map (f := List.length)] at elementExists
  have nonempty : ∀ size ∈ rows.map List.length, 0 < size := by
    intro size member
    obtain ⟨row, isRow, rfl⟩ := List.mem_map.mp member
    obtain ⟨_, _, named⟩ :=
      Outcome.exists_related_of_mem (forall₂_isUnitNamed distinct given).flip isRow
    exact List.length_pos_iff.mpr named.nonempty
  rw [AcceptsReference, placedOffsets_flatten distinct given,
    TokenEntries.reference_eq_of_number refers.isReference refers.isNumber, Option.some.injEq]
  simp only [firstTokenOf_eq_sum]
  constructor
  · rintro ⟨⟨positive, inRange, rfl⟩, _, before⟩
    rw [Int.ofNat_lt, sum_take_lt_sum_take_iff nonempty (by omega)] at before
    exact ⟨positive, by omega, rfl⟩
  · rintro ⟨positive, before, rfl⟩
    refine ⟨⟨positive, by omega, rfl⟩, Int.natCast_nonneg _, ?_⟩
    rw [Int.ofNat_lt, sum_take_lt_sum_take_iff nonempty (by omega)]
    omega

/-- A token that is read of an element refers to the first token of the element it names. -/
theorem exists_token_of_refersToElement
    (distinct : HaveDistinctNames phrases elements)
    (given : List.Forall₂ (Gives phrases place) elements rows)
    {tokens : List Token}
    (read : tokensOf place rows.flatten = .ok tokens)
    {element : Nat}
    {entries : TokenEntries}
    (isElement : elements[element]? = some (.mapping entries))
    {number : Int}
    (refers : entries.RefersToElement number) :
    ∃ token,
      tokens[firstTokenOf rows element]? = some token ∧
        token.reference = some (firstTokenOf rows (number.toNat - 1) : Int) ∧
          entries.reference place (some (placedOffsets rows.flatten)) = .ok token.reference := by
  obtain ⟨row, isRow, gives⟩ := Outcome.exists_getElem?_of_forall₂ given isElement
  rw [gives.eq_singleton gives.ofValue_mapping refers.isPlain] at isRow
  obtain ⟨token, isToken, readToken⟩ :=
    Outcome.exists_getElem?_of_mapM read (getElem?_flatten_firstTokenOf isRow)
  have readReference := (TokenEntries.isReadAs_of_token readToken).reference
  have isTarget := readReference
  rw [placedOffsets_flatten distinct given,
    TokenEntries.reference_eq_of_number refers.isReference refers.isNumber,
    ← firstTokenOf_eq_sum] at isTarget
  exact ⟨token, isToken, isTarget.2.2, readReference⟩

/-- In every combination of what the elements give they keep their numbers. -/
theorem keepsElements_of_gives
    (distinct : HaveDistinctNames phrases elements)
    (given : List.Forall₂ (Gives phrases place) elements rows) :
    KeepsElements phrases place elements rows where
  given := given
  units tokens read := by
    have areUnits := forall₂_units_of_tokensOf distinct given read
    exact ⟨areUnits.length_eq.symm.trans given.length_eq.symm, areUnits⟩
  references element entries number isElement refers target :=
    acceptsReference_iff distinct given isElement refers
  tokens tokens read element entries number isElement refers := by
    obtain ⟨token, isToken, isTarget, _⟩ :=
      exists_token_of_refersToElement distinct given read isElement refers
    exact ⟨token, isToken, isTarget⟩
  patterns tokens pattern read accepted element entries number isElement refers := by
    obtain ⟨_, precede, _⟩ := Rule.tokenPattern_eq_ok_iff.mp accepted
    obtain ⟨token, isToken, isTarget, readReference⟩ :=
      exists_token_of_refersToElement distinct given read isElement refers
    have earlier := precede _ (List.mk_mem_zipIdx_iff_getElem?.mpr isToken) _ isTarget
    rw [isTarget] at readReference
    exact ⟨_, readReference, earlier⟩

end Combination

/--
The expansions of a pattern are read from the combinations of what its elements give, of which
there is one at least. In each of them the elements keep their numbers.
-/
theorem keepsElements_of_mem_combinations
    {phrases : PhraseTable}
    {place : DefinitionPlace}
    {elements : List Value}
    (distinct : HaveDistinctNames phrases elements)
    {choices : List (List (List PlacedToken))}
    (read : elements.mapM (phrases.choicesOf place) = .ok choices) :
    expand phrases place (.list elements) =
        (combinations choices).mapM (fun rows => tokensOf place rows.flatten) ∧
      combinations choices ≠ [] ∧
        ∀ rows ∈ combinations choices, KeepsElements phrases place elements rows := by
  refine ⟨?_, ?_, fun rows member => ?_⟩
  · change elements.mapM (phrases.choicesOf place) >>= _ = _
    rw [read]
    rfl
  · have nonempty : ∀ offered ∈ choices, offered ≠ [] := by
      intro offered isOffered
      obtain ⟨element, isElement, readElement⟩ := Outcome.exists_item_of_mem_mapM read isOffered
      exact ne_nil_of_choicesOf readElement fun name refers =>
        (distinct.offered element isElement name refers).2.1
    obtain ⟨rows, isCombination⟩ := exists_combination nonempty
    exact List.ne_nil_of_mem isCombination
  · exact keepsElements_of_gives distinct (gives_of_mem_combinations read member)

/-- A greeting of one or two words, a word of address, and the first word of both again. -/
def addressedTwice : List Value :=
  [.mapping [(.text "phraseref", .text "greeting")], .text "dear",
    .mapping [(.text "reference", .int 1)], .mapping [(.text "reference", .int 2)]]

/-- The two ways to greet. -/
def shortAndLongGreeting : PhraseTable :=
  [(.text "greeting", .list [.list [.text "good", .text "day"], .list [.text "hello"]])]

theorem haveDistinctNames_addressedTwice :
    HaveDistinctNames shortAndLongGreeting addressedTwice where
  areTexts := by
    simp [addressedTwice, elementName, Value.fieldOr]
  apart := by
    simp [addressedTwice, elementName, Value.fieldOr]
  offered := by
    rintro element isElement name ⟨entries, rfl, isReference⟩
    have isGreeting : name = .text "greeting" := by
      simp only [addressedTwice, List.mem_cons, List.not_mem_nil, Value.mapping.injEq] at isElement
      rcases isElement with rfl | isText | rfl | rfl | noElement
      · simpa [eq_comm] using isReference
      · cases isText
      · simp at isReference
      · simp at isReference
      · exact noElement.elim
    have isDefined :
        Value.lookup? (.text "greeting") shortAndLongGreeting =
          some (.list [.list [.text "good", .text "day"], .list [.text "hello"]]) := by
      simp [shortAndLongGreeting, Value.lookup?]
    subst isGreeting
    refine ⟨by simp, ⟨_, _, _, _, isDefined, rfl, List.mem_cons_self, rfl⟩, ?_⟩
    rintro parts ⟨alternatives, options, alternative, isDefined', areOptions, isOption, areParts⟩
    rw [isDefined, Option.some.injEq] at isDefined'
    subst isDefined'
    cases areOptions
    simp only [List.mem_cons, List.not_mem_nil, or_false] at isOption
    rcases isOption with rfl | rfl
    · cases areParts
      simp
    · cases areParts
      simp

/-- The word of address is the third token of one expansion and the second one of the other. -/
theorem keepsElements_addressedTwice :
    HaveDistinctNames shortAndLongGreeting addressedTwice ∧
      ∃ choices alternatives,
        addressedTwice.mapM (shortAndLongGreeting.choicesOf ⟨"rules.yaml", .text "GREETING"⟩) =
            .ok choices ∧
          expand shortAndLongGreeting ⟨"rules.yaml", .text "GREETING"⟩ (.list addressedTwice) =
              .ok alternatives ∧
            (∀ rows ∈ combinations choices,
              KeepsElements shortAndLongGreeting ⟨"rules.yaml", .text "GREETING"⟩ addressedTwice
                rows) ∧
              (combinations choices).map (firstTokenOf · 1) = [2, 1] ∧
                alternatives.map (List.map (·.reference)) =
                  [[none, none, none, some 0, some 2], [none, none, some 0, some 1]] := by
  have evaluatedChoices :
      ((addressedTwice.mapM
        (shortAndLongGreeting.choicesOf ⟨"rules.yaml", .text "GREETING"⟩)).map fun choices =>
          (combinations choices).map (firstTokenOf · 1)).toOption = some [2, 1] := by
    decide +kernel
  have evaluatedTokens :
      ((expand shortAndLongGreeting ⟨"rules.yaml", .text "GREETING"⟩
        (.list addressedTwice)).map (List.map (List.map (·.reference)))).toOption =
          some [[none, none, none, some 0, some 2], [none, none, some 0, some 1]] := by
    decide +kernel
  obtain ⟨choices, read, areChoices⟩ :=
    Outcome.map_eq_ok_iff.mp (Outcome.eq_ok_of_toOption evaluatedChoices)
  obtain ⟨alternatives, expanded, areTokens⟩ :=
    Outcome.map_eq_ok_iff.mp (Outcome.eq_ok_of_toOption evaluatedTokens)
  have distinct := haveDistinctNames_addressedTwice
  obtain ⟨_, _, keeps⟩ := keepsElements_of_mem_combinations distinct read
  exact ⟨distinct, choices, alternatives, read, expanded, keeps, areChoices, areTokens⟩

end ProseRules
