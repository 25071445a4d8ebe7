import Mathlib.Order.Bounds.Defs
import ProseRules.Proofs.Definition.Pattern
import ProseRules.Proofs.Token.Partition

namespace ProseRules

/-!
# Numbers of units and places of tokens

The place of a token is written as the number of its unit, and a number is read as the place
where its unit starts. So a reference that is written and read again moves to the start of its
own unit, and never to a later token.
-/

/-- The units that start up to a token. -/
def unitsUpTo (sizes : List Nat) (token : Nat) : Set Nat :=
  {unit | unit < sizes.length ∧ ∃ start ∈ (unitOffsets sizes)[unit]?, start ≤ token}

/-- The tokens of a unit reach from its own offset up to the next one. -/
def UnitHolds (sizes : List Nat) (unit token : Nat) : Prop :=
  ∃ start ∈ (unitOffsets sizes)[unit]?,
    ∃ next ∈ (unitOffsets sizes)[unit + 1]?, start ≤ token ∧ token < next

section Units

variable {sizes : List Nat} {token : Nat}

theorem mem_unitsUpTo_iff
    {unit : Nat} :
    unit ∈ unitsUpTo sizes token ↔ unit < sizes.length ∧ (sizes.take unit).sum ≤ token := by
  refine and_congr_right fun unitExists => ?_
  rw [getElem?_unitOffsets (Nat.le_of_lt unitExists)]
  simp

/-- The unit that holds a token is the last one that starts up to it. -/
theorem isGreatest_unitHolding
    (inside : token < sizes.sum) :
    IsGreatest (unitsUpTo sizes token) (unitHolding sizes token) := by
  constructor
  · rw [mem_unitsUpTo_iff, sum_take_unitHolding]
    exact ⟨unitHolding_lt_length inside, startOfUnit_le⟩
  · intro unit isUpTo
    obtain ⟨unitExists, startsUpTo⟩ := mem_unitsUpTo_iff.mp isUpTo
    exact (le_unitHolding_iff (Nat.le_of_lt unitExists)).mpr startsUpTo

theorem unitHolds_unitHolding
    (inside : token < sizes.sum) :
    UnitHolds sizes (unitHolding sizes token) token := by
  have unitExists := unitHolding_lt_length inside
  obtain ⟨fromStart, beforeNext⟩ := (unitHolding_eq_iff inside).mp rfl
  exact ⟨_, getElem?_unitOffsets (Nat.le_of_lt unitExists), _, getElem?_unitOffsets unitExists,
    fromStart, beforeNext⟩

end Units

/-- A reference is written as the number of its unit and read as the start of this unit. -/
structure ReadsAsStart (sizes : List Nat) (token : Token) (reference : Nat) : Prop where
  /-- The number that is written counts the units from 1. -/
  written :
    Value.fieldOr "reference" .null (token.definitionEntries (some (unitOffsets sizes))) =
      .int (unitOf (unitOffsets sizes) reference + 1)
  /-- The number is read as a place of the same unit, which is not after the one written. -/
  read :
    ∀ place : DefinitionPlace,
      ∃ start ∈ (unitOffsets sizes)[unitOf (unitOffsets sizes) reference]?,
        start ≤ reference ∧
          TokenEntries.reference place (some (unitOffsets sizes))
              (token.definitionEntries (some (unitOffsets sizes))) =
            .ok (some start)

/-- How places of tokens and numbers of units are turned into each other. -/
structure ConvertsPlaces (sizes : List Nat) : Prop where
  isLast :
    ∀ token < sizes.sum,
      IsGreatest (unitsUpTo sizes token) (unitOf (unitOffsets sizes) token)
  holds : ∀ token < sizes.sum, UnitHolds sizes (unitOf (unitOffsets sizes) token) token
  ofStart :
    ∀ unit < sizes.length,
      ∃ start ∈ (unitOffsets sizes)[unit]?, unitOf (unitOffsets sizes) start = unit
  monotone :
    ∀ token later,
      token ≤ later →
        later < sizes.sum → unitOf (unitOffsets sizes) token ≤ unitOf (unitOffsets sizes) later
  references :
    ∀ (token : Token) (reference : Nat),
      token.reference = some (reference : Int) →
        reference < sizes.sum → ReadsAsStart sizes token reference

theorem readsAsStart_of_reference
    {sizes : List Nat}
    {token : Token}
    {reference : Nat}
    (isReference : token.reference = some (reference : Int))
    (inside : reference < sizes.sum) :
    ReadsAsStart sizes token reference := by
  have sameUnit := unitOf_unitOffsets inside
  constructor
  case written =>
    have isWritten := Token.fieldOr_reference token (some (unitOffsets sizes))
    rw [isReference] at isWritten
    exact isWritten
  case read =>
    intro place
    have isRead := Token.reference_definitionEntries_of_some place isReference inside
    rw [sameUnit]
    exact ⟨_, getElem?_unitOffsets_unitHolding inside, startOfUnit_le, isRead⟩

/--
Of units that hold something, each token lies in the last one that starts up to it. A place is
turned into the number of its unit and back into the start of this unit.
-/
theorem convertsPlaces_of_positive
    {sizes : List Nat}
    (positive : ∀ size ∈ sizes, 0 < size) :
    ConvertsPlaces sizes := by
  constructor
  case isLast =>
    intro token inside
    rw [unitOf_unitOffsets inside]
    exact isGreatest_unitHolding inside
  case holds =>
    intro token inside
    rw [unitOf_unitOffsets inside]
    exact unitHolds_unitHolding inside
  case ofStart =>
    intro unit unitExists
    obtain ⟨inside, sameUnit⟩ := unitHolding_sum_take positive unitExists
    refine ⟨_, getElem?_unitOffsets (Nat.le_of_lt unitExists), ?_⟩
    rw [unitOf_unitOffsets inside, sameUnit]
  case monotone =>
    intro token later notBefore inside
    rw [unitOf_unitOffsets inside, unitOf_unitOffsets (Nat.lt_of_le_of_lt notBefore inside)]
    exact unitHolding_mono notBefore inside
  case references =>
    intro token reference isReference inside
    exact readsAsStart_of_reference isReference inside

/-- A unit that holds nothing is passed over: the first token lies in the second unit. -/
example : unitOf (unitOffsets [0, 1]) 0 = 1 := by
  decide

/-- A token that refers to the second one of a phrase of three. -/
def intoPhrase : Token :=
  { Token.placeholder (.text "") with
    reference := some 4
    negation_has_subject := by simp }

/-- A reference into a phrase is written as the number of the phrase and read as its start. -/
theorem convertsPlaces_intoPhrase :
    (∀ size ∈ [2, 1, 3], 0 < size) ∧
      Value.fieldOr "reference" .null
            (intoPhrase.definitionEntries (some (unitOffsets [2, 1, 3]))) =
          .int 3 ∧
        ∀ place : DefinitionPlace,
          TokenEntries.reference place (some (unitOffsets [2, 1, 3]))
              (intoPhrase.definitionEntries (some (unitOffsets [2, 1, 3]))) =
            .ok (some 3) := by
  have positive : ∀ size ∈ [2, 1, 3], 0 < size := by
    decide
  have converts := (convertsPlaces_of_positive positive).references intoPhrase 4 rfl (by decide)
  refine ⟨positive, converts.written, fun place => ?_⟩
  obtain ⟨start, isStart, _, isRead⟩ := converts.read place
  obtain rfl : 3 = start := Option.some.inj isStart
  exact isRead

end ProseRules
