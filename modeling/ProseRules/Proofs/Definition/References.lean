import ProseRules.Definition.Rules
import ProseRules.Proofs.Definition.Pattern
import ProseRules.Proofs.Rule.Parts

namespace ProseRules

/-!
# References of loaded rules

A definition counts units, so every reference of a loaded rule goes to the first
token of a unit. Writing the rule and reading it again leaves such references as
they are.
-/

namespace Token

/-- A token is made of its parts. -/
theorem eq_of_ofParts
    {parts : TokenParts}
    {token : Token}
    (made : Token.ofParts parts = .ok token) :
    ∃ ordered subject,
      token =
        { text := parts.text
          negated := parts.negated
          isExpression := parts.isExpression
          inflected := parts.inflected
          caseSensitive := parts.caseSensitive
          least := parts.least.toNat
          most := if parts.most = -1 then none else some parts.most.toNat
          phrase := parts.phrase
          reference := parts.reference
          bounds_ordered := ordered
          negation_has_subject := subject } := by
  by_cases negative : parts.least < 0
  · simp [Token.ofParts, negative] at made
  · by_cases ordered :
        ∀ most',
          (if parts.most = -1 then none else some parts.most.toNat) = some most' →
            max parts.least.toNat 1 ≤ most'
    · by_cases subject : parts.negated = true → parts.text ≠ "" ∨ parts.reference.isSome = true
      · simp only [Token.ofParts, negative, if_false, dif_pos ordered, dif_pos subject] at made
        cases made
        exact ⟨ordered, subject, rfl⟩
      · simp only [Token.ofParts, negative, if_false, dif_pos ordered, dif_neg subject] at made
        cases made
    · simp only [Token.ofParts, negative, if_false, dif_neg ordered] at made
      cases made

/-- Other parts make a token with their bounds. -/
theorem exists_ofParts_eq_ok
    {parts : TokenParts}
    (notNegative : 0 ≤ parts.least)
    (ordered : parts.most ≠ -1 → max parts.least 1 ≤ parts.most)
    (subject : parts.negated = true → parts.text ≠ "" ∨ parts.reference.isSome = true) :
    ∃ token,
      Token.ofParts parts = .ok token ∧
        token.least = parts.least.toNat ∧
          token.most = if parts.most = -1 then none else some parts.most.toNat := by
  have inOrder :
      ∀ most',
        (if parts.most = -1 then none else some parts.most.toNat) = some most' →
          max parts.least.toNat 1 ≤ most' := by
    intro most' isMost
    split at isMost
    · cases isMost
    · rename_i bounded
      have := ordered bounded
      cases isMost
      omega
  rw [Token.ofParts, if_neg (by omega)]
  simp only [dif_pos inOrder, dif_pos subject]
  exact ⟨_, rfl, rfl, rfl⟩

/-- A reference to the start of a unit is left as it is. -/
theorem referringToStart_of_start
    {token : Token}
    {sizes : List Nat}
    (nonempty : ∀ size ∈ sizes, 0 < size)
    (isStart :
      ∀ reference, token.reference = some reference →
        ∃ unit, unit < sizes.length ∧ reference = ((sizes.take unit).sum : Nat)) :
    token.referringToStart sizes = token := by
  have sameReference :
      (token.reference.map fun reference => (startOfUnit sizes reference.toNat : Int)) =
        token.reference := by
    cases isReference : token.reference with
    | none =>
        rfl
    | some reference =>
        obtain ⟨unit, unitExists, rfl⟩ := isStart reference isReference
        rw [Option.map_some, Int.toNat_natCast, startOfUnit_sum_take nonempty unitExists]
  simp only [referringToStart, referringTo, sameReference]

end Token

namespace TokenEntries

/-- A reference that is read goes to the start of the unit that has its number. -/
theorem exists_number_of_reference
    {place : DefinitionPlace}
    {sizes : List Nat}
    {entries : TokenEntries}
    (isReference : Value.fieldOr "reference" .null entries ≠ .null)
    {target : Option Int}
    (read : reference place (some (unitOffsets sizes)) entries = .ok target) :
    ∃ unit : Nat,
      (Value.fieldOr "reference" .null entries).toInteger = .ok (unit + 1 : Int) ∧
        unit < sizes.length ∧ target = some ((sizes.take unit).sum : Int) := by
  simp only [reference] at read
  obtain ⟨number, isNumber, ranged⟩ := Outcome.bind_eq_ok_iff.mp read
  split at ranged
  · rename_i inRange
    cases ranged
    have length := length_unitOffsets sizes
    have unitExists : number.toNat - 1 < sizes.length := by omega
    have sameNumber : number = ((number.toNat - 1 : Nat) : Int) + 1 := by omega
    refine ⟨number.toNat - 1, by rw [isNumber, ← sameNumber], unitExists, ?_⟩
    rw [List.getD_eq_getElem?_getD, getElem?_unitOffsets (Nat.le_of_lt unitExists),
      Option.getD_some]
    rfl
  · cases ranged

/-- A reference that is read goes to the start of a unit. -/
theorem exists_unit_of_reference
    {place : DefinitionPlace}
    {sizes : List Nat}
    {entries : TokenEntries}
    {target : Int}
    (read : reference place (some (unitOffsets sizes)) entries = .ok (some target)) :
    ∃ unit, unit < sizes.length ∧ target = ((sizes.take unit).sum : Nat) := by
  by_cases noReference : Value.fieldOr "reference" .null entries = .null
  · simp [reference, noReference] at read
  · obtain ⟨unit, _, unitExists, isTarget⟩ := exists_number_of_reference noReference read
    exact ⟨unit, unitExists, Option.some.inj isTarget⟩

theorem eq_ok_of_atToken
    {place : DefinitionPlace}
    {α : Type}
    {outcome : Except Failure α}
    {value : α}
    (succeeds : atToken place outcome = .ok value) :
    outcome = .ok value := by
  unfold atToken at succeeds
  split at succeeds
  · cases succeeds
  · exact succeeds

/-- What a token takes from its entries and from where they stand, its bounds apart. -/
structure IsReadAs (entries : TokenEntries) (place : DefinitionPlace) (phrase : Value)
    (offsets : Option (List Nat)) (token : Token) : Prop where
  text : token.text = (Value.fieldOr "string" (.text "") entries).display
  negated : token.negated = entries.flag "negation"
  caseSensitive : token.caseSensitive = entries.flag "case_sensitive"
  phrase : token.phrase = phrase
  reference : entries.reference place offsets = .ok token.reference

/-- A token that is read is made of what its entries say. -/
theorem exists_ofParts_of_token
    {place : DefinitionPlace}
    {phrase : Value}
    {offsets : Option (List Nat)}
    {entries : TokenEntries}
    {token : Token}
    (read : entries.token place phrase offsets = .ok token) :
    ∃ target usual text least most,
      reference place offsets entries = .ok target ∧
        usualMost entries = .ok usual ∧
          (Value.fieldOr "string" (.text "") entries).shown = .ok text ∧
            (Value.fieldOr "min" (.int 1) entries).toInteger = .ok least ∧
              mostOf (Value.fieldOr "max" usual entries) = .ok most ∧
                Token.ofParts
                    { text := text
                      negated := flag "negation" entries
                      isExpression := flag "regex" entries
                      inflected := flag "inflected" entries
                      caseSensitive := flag "case_sensitive" entries
                      least := least
                      most := most
                      phrase := phrase
                      reference := target } =
                  .ok token := by
  obtain ⟨target, isTarget, afterReference⟩ := Outcome.bind_eq_ok_iff.mp read
  obtain ⟨usual, isUsual, read⟩ := Outcome.bind_eq_ok_iff.mp afterReference
  obtain ⟨text, isText, afterText⟩ := Outcome.bind_eq_ok_iff.mp (eq_ok_of_atToken read)
  obtain ⟨least, isLeast, afterLeast⟩ := Outcome.bind_eq_ok_iff.mp afterText
  obtain ⟨most, isMost, afterMost⟩ := Outcome.bind_eq_ok_iff.mp afterLeast
  exact
    ⟨target, usual, text, least, most, isTarget, isUsual, isText, isLeast, isMost,
      Outcome.eq_ok_of_mapError afterMost⟩

theorem isReadAs_of_token
    {place : DefinitionPlace}
    {phrase : Value}
    {offsets : Option (List Nat)}
    {entries : TokenEntries}
    {token : Token}
    (read : entries.token place phrase offsets = .ok token) :
    entries.IsReadAs place phrase offsets token := by
  obtain ⟨_, _, _, _, _, isTarget, _, isText, _, _, made⟩ := exists_ofParts_of_token read
  obtain ⟨_, _, rfl⟩ := Token.eq_of_ofParts made
  exact ⟨(Value.shown_eq_ok_iff.mp isText).2.symm, rfl, rfl, rfl, isTarget⟩

end TokenEntries

/-- The units of placed tokens are those of the tokens that are read for them. -/
theorem placedOffsets_of_tokensOf
    {place : DefinitionPlace}
    {placed : List PlacedToken}
    {tokens : List Token}
    (read : tokensOf place placed = .ok tokens) :
    placedOffsets placed = unitOffsets (Token.unitSizes tokens) := by
  rw [tokensOf, Outcome.mapM_eq_ok_iff] at read
  apply placedOffsets_eq
  rw [← List.forall₂_eq_eq_eq, List.forall₂_map_left_iff, List.forall₂_map_right_iff]
  exact read.imp fun placedToken token readToken =>
    (TokenEntries.isReadAs_of_token readToken).phrase.symm

/-- In an expanded pattern every reference goes to the start of a unit. -/
theorem referringToStart_of_mem_tokensOf
    {place : DefinitionPlace}
    {placed : List PlacedToken}
    {tokens : List Token}
    (read : tokensOf place placed = .ok tokens) :
    ∀ token ∈ tokens, token.referringToStart (Token.unitSizes tokens) = token := by
  have sameOffsets := placedOffsets_of_tokensOf read
  rw [tokensOf, sameOffsets] at read
  intro token member
  obtain ⟨placedToken, _, readToken⟩ := Outcome.exists_item_of_mem_mapM read member
  have readReference := (TokenEntries.isReadAs_of_token readToken).reference
  refine Token.referringToStart_of_start (fun size => Token.pos_of_mem_unitSizes) ?_
  intro reference isReference
  rw [isReference] at readReference
  exact TokenEntries.exists_unit_of_reference readReference

namespace Rule

/-- Every reference of a rule goes to the start of a unit. -/
def RefersToStarts (rule : Rule) : Prop :=
  ∀ token ∈ rule.tokens, token.referringToStart rule.unitSizes = token

end Rule

namespace RuleEntries

/-- The parts that all alternatives have in common look for nothing. -/
theorem tokens_expression_of_commonParts
    {context : DefinitionContext}
    {place : DefinitionPlace}
    {subId message : Value}
    {entries : RuleEntries}
    {parts : RuleParts}
    (read : commonParts context place subId message entries = .ok parts) :
    parts.tokens = none ∧ parts.expression = none := by
  obtain ⟨_, _, afterAntipatterns⟩ := Outcome.bind_eq_ok_iff.mp read
  obtain ⟨_, _, afterStart⟩ := Outcome.bind_eq_ok_iff.mp afterAntipatterns
  obtain ⟨_, _, result⟩ := Outcome.bind_eq_ok_iff.mp afterStart
  cases result
  exact ⟨rfl, rfl⟩

end RuleEntries

end ProseRules
