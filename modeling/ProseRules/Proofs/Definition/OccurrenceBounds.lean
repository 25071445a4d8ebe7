import ProseRules.Proofs.Definition.Flaws
import ProseRules.Proofs.Token.Grouping
import ProseRules.Proofs.Token.OperatorSign

namespace ProseRules

/-!
# Bounds of defined tokens

A token whose entries are of the usual kinds is refused for its reference, its bounds or its
negation only. Otherwise the sign of its operator allows the runs within the given bounds.
-/

/-- An upper bound as it is given: not at all, as a number or as none. -/
inductive GivenMost where
  | absent
  | number (most : Int)
  | star
  | null
  deriving Repr, DecidableEq

namespace GivenMost

/-- The entry for the upper bound. -/
def value? : GivenMost → Option Value
  | absent => none
  | number most => some (.int most)
  | star => some (.text "*")
  | null => some .null

/-- The upper bound as a number, -1 if there is none. -/
def asInt (least : Int) : GivenMost → Int
  | absent => max least 1
  | number most => most
  | star | null => -1

/-- A run of so many words is within the upper bound. -/
def Allows (least : Int) (count : Nat) : GivenMost → Prop
  | absent => count ≤ max least 1
  | number most => most = -1 ∨ count ≤ most
  | star | null => True

theorem allows_iff
    {least : Int}
    {count : Nat}
    {most : GivenMost} :
    most.Allows least count ↔ most.asInt least = -1 ∨ count ≤ most.asInt least := by
  cases most with
  | absent =>
      simp only [Allows, asInt]
      omega
  | number most =>
      rfl
  | star | null =>
      simp [Allows, asInt]

end GivenMost

/-- What the entries of a token give: texts, truth values and whole numbers. -/
structure TokenFields where
  text : Option String
  negated : Option Bool
  isExpression : Option Bool
  inflected : Option Bool
  caseSensitive : Option Bool
  least : Option Int
  most : GivenMost
  /-- The number of a unit, counted from 1. -/
  reference : Option Int
  deriving Repr, DecidableEq

namespace TokenFields

/-- The entries give these fields and refer to no phrase. -/
structure GivenBy (fields : TokenFields) (entries : TokenEntries) : Prop where
  text : Value.field? "string" entries = fields.text.map .text
  negated : Value.field? "negation" entries = fields.negated.map .bool
  isExpression : Value.field? "regex" entries = fields.isExpression.map .bool
  inflected : Value.field? "inflected" entries = fields.inflected.map .bool
  caseSensitive : Value.field? "case_sensitive" entries = fields.caseSensitive.map .bool
  least : Value.field? "min" entries = fields.least.map .int
  most : Value.field? "max" entries = fields.most.value?
  reference : Value.field? "reference" entries = fields.reference.map .int
  noPhrase : Value.field? "phraseref" entries = none

/-- The lower bound, which is usually 1. -/
def leastOr1 (fields : TokenFields) : Int :=
  fields.least.getD 1

/-- The reference goes to no unit of the pattern. -/
def RefersOutside (fields : TokenFields) (units : Nat) : Prop :=
  ∃ unit, fields.reference = some unit ∧ ¬(1 ≤ unit ∧ unit ≤ units)

/-- The bounds or the negation of the token are refused. -/
def IsUnfit (fields : TokenFields) : Prop :=
  fields.leastOr1 < 0 ∨
    (∃ most, fields.most = .number most ∧ most ≠ -1 ∧ most < max fields.leastOr1 1) ∨
      fields.negated = some true ∧ fields.text.getD "" = "" ∧ fields.reference = none

/-- A run of so many words is within the bounds. -/
def Allows (fields : TokenFields) (count : Nat) : Prop :=
  fields.leastOr1 ≤ count ∧ fields.most.Allows fields.leastOr1 count

/-- The numbers have at most as many digits as are written into a text. -/
structure IsShort (fields : TokenFields) : Prop where
  least : ∀ least ∈ fields.least, least.natAbs < Text.digitBound
  most : ∀ most, fields.most = .number most → most.natAbs < Text.digitBound
  reference : ∀ unit ∈ fields.reference, unit.natAbs < Text.digitBound

/-- The parts of the token. -/
def parts (fields : TokenFields) (phrase : Value) (reference : Option Int) : TokenParts where
  text := fields.text.getD ""
  negated := fields.negated.getD false
  isExpression := fields.isExpression.getD false
  inflected := fields.inflected.getD false
  caseSensitive := fields.caseSensitive.getD false
  least := fields.leastOr1
  most := fields.most.asInt fields.leastOr1
  phrase := phrase
  reference := reference

end TokenFields

namespace TokenEntries

variable {fields : TokenFields} {entries : TokenEntries} (given : fields.GivenBy entries)
  (place : DefinitionPlace)
include given

theorem reference_eq
    (sizes : List Nat) :
    reference place (some (unitOffsets sizes)) entries =
      match fields.reference with
      | none => .ok none
      | some unit =>
          if 1 ≤ unit ∧ unit ≤ sizes.length then
            .ok (some (Int.ofNat ((unitOffsets sizes).getD (unit.toNat - 1) 0)))
          else
            .error
              (place.refusal [.int unit] fun source id =>
                .badTokenReference source id (.int unit)) := by
  have inRange_iff (unit : Int) : unit < (unitOffsets sizes).length ↔ unit ≤ sizes.length := by
    rw [length_unitOffsets]
    omega
  unfold reference
  rw [Value.fieldOr, given.reference]
  cases fields.reference with
  | none =>
      rfl
  | some unit =>
      simp only [Option.map_some, Option.getD_some, Value.toInteger, inRange_iff]
      rfl

theorem fieldOr_min_eq :
    Value.fieldOr "min" (.int 1) entries = .int fields.leastOr1 := by
  rw [Value.fieldOr, given.least, TokenFields.leastOr1]
  cases fields.least <;> rfl

/-- Without an upper bound the lower one is taken if it is greater than 1. -/
theorem usualMost_eq :
    usualMost entries = .ok (.int (max fields.leastOr1 1)) := by
  rw [usualMost, fieldOr_min_eq given]
  simp only [Value.quantity?, Value.Quantity.compare?]
  cases order : compare fields.leastOr1 1 with
  | lt =>
      rw [Int.max_eq_right (Int.le_of_lt (Int.compare_eq_lt.mp order))]
      rfl
  | eq =>
      rw [Int.compare_eq_eq.mp order]
      rfl
  | gt =>
      rw [Int.max_eq_left (Int.le_of_lt (Int.compare_eq_gt.mp order))]
      rfl

theorem mostOf_max_eq :
    mostOf (Value.fieldOr "max" (.int (max fields.leastOr1 1)) entries) =
      .ok (fields.most.asInt fields.leastOr1) := by
  rw [Value.fieldOr, given.most]
  cases fields.most <;> rfl

/-- What is left of reading a token once its reference is known. -/
theorem token_eq
    (phrase : Value)
    (offsets : Option (List Nat)) :
    entries.token place phrase offsets = (do
      let target ← reference place offsets entries
      atToken place
        ((Token.ofParts (fields.parts phrase target)).mapError Failure.badValue)) := by
  have text :
      (Value.fieldOr "string" (.text "") entries).shown = .ok (fields.text.getD "") := by
    rw [Value.fieldOr, given.text]
    cases fields.text <;> rfl
  have isFlag
      {name : String}
      {value : Option Bool}
      (isValue : Value.field? name entries = value.map .bool) :
      flag name entries = value.getD false := by
    rw [flag, Value.fieldOr, isValue]
    cases value <;> rfl
  unfold token
  rw [usualMost_eq given, text, isFlag given.negated, isFlag given.isExpression,
    isFlag given.inflected, isFlag given.caseSensitive, fieldOr_min_eq given]
  refine congrArg _ (funext fun target => ?_)
  change atToken place (_ >>= fun _ => _ >>= _) = _
  rw [mostOf_max_eq given]
  rfl

end TokenEntries

/-- Parts with a negative bound, bounds out of order or a negation of nothing are refused. -/
theorem Token.exists_ofParts_eq_error
    {parts : TokenParts}
    (unfit :
      parts.least < 0 ∨
        parts.most ≠ -1 ∧ parts.most < max parts.least 1 ∨
          parts.negated = true ∧ parts.text = "" ∧ parts.reference = none) :
    ∃ flaw, Token.ofParts parts = .error flaw := by
  by_cases negative : parts.least < 0
  · rw [Token.ofParts, if_pos negative]
    exact ⟨_, rfl⟩
  rw [Token.ofParts, if_neg negative]
  by_cases ordered :
      ∀ most',
        (if parts.most = -1 then none else some parts.most.toNat) = some most' →
          max parts.least.toNat 1 ≤ most'
  · simp only [dif_pos ordered]
    have noSubject : ¬(parts.negated = true → parts.text ≠ "" ∨ parts.reference.isSome = true) := by
      rcases unfit with isNegative | ⟨bounded, notOrdered⟩ | ⟨negated, noText, noReference⟩
      · exact (negative isNegative).elim
      · have inOrder := ordered _ (if_neg bounded)
        omega
      · simp [negated, noText, noReference]
    rw [dif_neg noSubject]
    exact ⟨_, rfl⟩
  · simp only [dif_neg ordered]
    exact ⟨_, rfl⟩

namespace TokenFields

variable {fields : TokenFields}

/-- Bounds that are fit are in order. -/
theorem ordered_of_not_isUnfit
    (fit : ¬fields.IsUnfit)
    (bounded : fields.most.asInt fields.leastOr1 ≠ -1) :
    max fields.leastOr1 1 ≤ fields.most.asInt fields.leastOr1 := by
  cases isMost : fields.most with
  | absent =>
      exact Int.le_refl _
  | number most =>
      rw [isMost] at bounded
      by_contra notOrdered
      exact fit (.inr (.inl ⟨most, isMost, bounded, Int.not_le.mp notOrdered⟩))
  | star | null =>
      rw [isMost] at bounded
      exact (bounded rfl).elim

/-- The operator of a token with the bounds of the fields allows the runs within them. -/
theorem signAdmits_iff_allows
    (fit : ¬fields.IsUnfit)
    {token : Token}
    (isLeast : token.least = fields.leastOr1.toNat)
    (isMost :
      token.most =
        if fields.most.asInt fields.leastOr1 = -1 then none
        else some (fields.most.asInt fields.leastOr1).toNat)
    (count : Nat) :
    SignAdmits token.spec.operator.sign? count ↔ fields.Allows count := by
  rw [Operator.signAdmits_iff, Token.operator_admits_iff, isLeast, isMost, Allows,
    GivenMost.allows_iff, Int.toNat_le]
  refine and_congr_right fun _ => ?_
  by_cases unbounded : fields.most.asInt fields.leastOr1 = -1
  · simp [unbounded]
  · have ordered := ordered_of_not_isUnfit fit unbounded
    rw [if_neg unbounded, or_iff_right unbounded]
    simp only [Option.some.injEq, forall_eq']
    omega

/-- The parts of a token are refused if they are unfit. -/
theorem exists_flaw_of_isUnfit
    (unfit : fields.IsUnfit)
    (phrase : Value)
    {target : Option Int}
    (sameKind : target.isSome = fields.reference.isSome) :
    ∃ flaw, Token.ofParts (fields.parts phrase target) = .error flaw := by
  refine Token.exists_ofParts_eq_error ?_
  rcases unfit with negative | ⟨most, isMost, bounded, notOrdered⟩ | ⟨negated, noText, noTarget⟩
  · exact .inl negative
  · refine .inr (.inl ?_)
    simp only [parts, isMost]
    exact ⟨bounded, notOrdered⟩
  · rw [noTarget, Option.isSome_none, Option.isSome_eq_false_iff, Option.isNone_iff_eq_none]
      at sameKind
    exact .inr (.inr ⟨by simp [parts, negated], noText, sameKind⟩)

/-- Other parts make a token whose operator allows the runs within the bounds. -/
theorem exists_token_of_not_isUnfit
    (fit : ¬fields.IsUnfit)
    (phrase : Value)
    {target : Option Int}
    (sameKind : target.isSome = fields.reference.isSome) :
    ∃ token,
      Token.ofParts (fields.parts phrase target) = .ok token ∧
        ∀ count, SignAdmits token.spec.operator.sign? count ↔ fields.Allows count := by
  have notNegative : 0 ≤ fields.leastOr1 := Int.not_lt.mp fun negative => fit (.inl negative)
  have subject :
      (fields.parts phrase target).negated = true →
        (fields.parts phrase target).text ≠ "" ∨
          (fields.parts phrase target).reference.isSome = true := by
    intro isNegated
    by_contra! noSubject
    obtain ⟨noText, noTarget⟩ := noSubject
    have negated : fields.negated = some true := by
      cases negated : fields.negated with
      | none =>
          simp [parts, negated] at isNegated
      | some negated =>
          simp_all [parts]
    have noReference : fields.reference = none := by
      rw [← Option.isNone_iff_eq_none, ← Option.isSome_eq_false_iff, ← sameKind]
      simpa [parts] using noTarget
    exact fit (.inr (.inr ⟨negated, noText, noReference⟩))
  obtain ⟨token, made, isLeast, isMost⟩ :=
    @Token.exists_ofParts_eq_ok (fields.parts phrase target) notNegative
      (ordered_of_not_isUnfit fit) subject
  exact ⟨token, made, signAdmits_iff_allows fit isLeast isMost⟩

end TokenFields

namespace TokenEntries

variable {fields : TokenFields} {entries : TokenEntries} (given : fields.GivenBy entries)
  (place : DefinitionPlace) (phrase : Value) {sizes : List Nat}
include given

/-- A reference to no unit is refused before anything else is looked at. -/
theorem token_of_refersOutside
    {unit : Int}
    (isReference : fields.reference = some unit)
    (outside : ¬(1 ≤ unit ∧ unit ≤ sizes.length)) :
    entries.token place phrase (some (unitOffsets sizes)) =
      .error
        (place.refusal [.int unit] fun source id =>
          .badTokenReference source id (.int unit)) := by
  rw [token_eq given, reference_eq given, isReference]
  simp only [if_neg outside]
  rfl

/-- Otherwise the token is made of its parts. -/
theorem exists_target_of_not_refersOutside
    (inside : ¬fields.RefersOutside sizes.length) :
    ∃ target : Option Int,
      target.isSome = fields.reference.isSome ∧
        entries.token place phrase (some (unitOffsets sizes)) =
          atToken place
            ((Token.ofParts (fields.parts phrase target)).mapError Failure.badValue) := by
  rw [token_eq given, reference_eq given]
  cases isReference : fields.reference with
  | none =>
      exact ⟨none, rfl, rfl⟩
  | some unit =>
      have inRange : 1 ≤ unit ∧ unit ≤ sizes.length := by
        by_contra outside
        exact inside ⟨unit, isReference, outside⟩
      simp only [if_pos inRange]
      exact ⟨some (Int.ofNat ((unitOffsets sizes).getD (unit.toNat - 1) 0)), rfl, rfl⟩

end TokenEntries

/--
A token of a pattern is refused exactly if its reference goes to no unit, or if its bounds or
its negation are unfit; otherwise the sign of its operator allows the runs within its bounds.
So it is unless a number has too many digits: a reference to no unit with such a number is not
refused as a part of the definition, since the refusal cannot name it. The id of the rule has to
be named as well.
-/
theorem token_bounds_are_kept
    {fields : TokenFields}
    {entries : TokenEntries}
    (given : fields.GivenBy entries)
    (place : DefinitionPlace)
    (phrase : Value)
    (sizes : List Nat) :
    (fields.IsShort →
        place.id.canBeShown = true →
        ((∃ flaw,
              entries.token place phrase (some (unitOffsets sizes)) =
                .error (.definition flaw)) ↔
            fields.RefersOutside sizes.length ∨ fields.IsUnfit) ∧
          (¬(fields.RefersOutside sizes.length ∨ fields.IsUnfit) →
            ∃ token,
              entries.token place phrase (some (unitOffsets sizes)) = .ok token ∧
                ∀ count, SignAdmits token.spec.operator.sign? count ↔ fields.Allows count)) ∧
      ∀ unit,
        fields.reference = some unit →
          ¬(1 ≤ unit ∧ unit ≤ sizes.length) →
            Text.digitBound ≤ unit.natAbs →
              entries.token place phrase (some (unitOffsets sizes)) =
                .error (.badValue (.integer .tooLongToWrite)) := by
  constructor
  · intro short idIsShown
    by_cases outside : fields.RefersOutside sizes.length
    · obtain ⟨unit, isReference, notInside⟩ := id outside
      have isShort : (Value.int unit).canBeShown = true :=
        Value.canBeShown_int_iff.mpr (short.reference unit isReference)
      rw [TokenEntries.token_of_refersOutside given place phrase isReference notInside,
        place.refusal_eq idIsShown (List.forall_mem_singleton.mpr isShort)]
      exact ⟨iff_of_true ⟨_, rfl⟩ (.inl outside), fun accepted => (accepted (.inl outside)).elim⟩
    · obtain ⟨target, sameKind, isToken⟩ :=
        TokenEntries.exists_target_of_not_refersOutside given place phrase outside
      rw [isToken]
      by_cases unfit : fields.IsUnfit
      · obtain ⟨flaw, refused⟩ := TokenFields.exists_flaw_of_isUnfit unfit phrase sameKind
        have isDefinition :
            TokenEntries.atToken place ((Except.error flaw).mapError Failure.badValue) =
              (.error (.definition (.tokenFlaw place.source place.id.display flaw)) :
                Except Failure Token) :=
          congrArg Except.error (place.refusal_eq idIsShown (List.forall_mem_nil _) _)
        rw [refused, isDefinition]
        exact ⟨iff_of_true ⟨_, rfl⟩ (.inr unfit), fun accepted => (accepted (.inr unfit)).elim⟩
      · obtain ⟨token, made, allows⟩ :=
          TokenFields.exists_token_of_not_isUnfit unfit phrase sameKind
        have notRefused :
            ¬∃ flaw,
              TokenEntries.atToken place (.ok token) =
                (.error (.definition flaw) : Except Failure Token) := by
          rintro ⟨_, isRefused⟩
          cases isRefused
        rw [made]
        exact
          ⟨iff_of_false notRefused (not_or.mpr ⟨outside, unfit⟩),
            fun _ => ⟨token, rfl, allows⟩⟩
  · intro unit isReference outside isLong
    have notShown : (Value.int unit).canBeShown = false :=
      Value.canBeShown_int_eq_false_iff.mpr isLong
    rw [TokenEntries.token_of_refersOutside given place phrase isReference outside,
      place.refusal_of_long (List.mem_singleton_self _) notShown]
    rfl

/-- Two or more words are asked for by a lower bound and a star. -/
theorem token_bounds_are_kept_star :
    ∃ token,
      TokenEntries.token ⟨"s", .text "R"⟩ (.text "") (some (unitOffsets [1]))
          [(.text "string", .text "a"), (.text "min", .int 2), (.text "max", .text "*")] =
        .ok token ∧
        ∀ count, SignAdmits token.spec.operator.sign? count ↔ 2 ≤ count := by
  let fields : TokenFields :=
    { text := some "a"
      negated := none
      isExpression := none
      inflected := none
      caseSensitive := none
      least := some 2
      most := .star
      reference := none }
  have given :
      fields.GivenBy
        [(.text "string", .text "a"), (.text "min", .int 2), (.text "max", .text "*")] := by
    constructor <;> simp [fields, GivenMost.value?]
  have short : fields.IsShort := by
    have someDigits := Text.two_lt_digitBound
    constructor <;> simp [fields, someDigits]
  have accepted : ¬(fields.RefersOutside [1].length ∨ fields.IsUnfit) := by
    simp [fields, TokenFields.RefersOutside, TokenFields.IsUnfit, TokenFields.leastOr1]
  obtain ⟨token, isToken, allows⟩ :=
    ((token_bounds_are_kept given ⟨"s", .text "R"⟩ (.text "") [1]).1 short rfl).2 accepted
  refine ⟨token, isToken, fun count => (allows count).trans ?_⟩
  simp only [fields, TokenFields.Allows, TokenFields.leastOr1, GivenMost.Allows,
    Option.getD_some, and_true]
  omega

/-- A reference with too many digits goes to no unit, but is not refused for that. -/
theorem not_token_refused_longReference :
    ¬∀ (fields : TokenFields) entries place phrase sizes,
        fields.GivenBy entries →
          ((∃ flaw,
                entries.token place phrase (some (unitOffsets sizes)) =
                  .error (.definition flaw)) ↔
              fields.RefersOutside sizes.length ∨ fields.IsUnfit) := by
  intro refusedProperly
  -- The number is kept under a name, so that it is never written out.
  obtain ⟨unit, isLong, isGreat⟩ : ∃ unit : Nat, Text.digitBound ≤ unit ∧ 1 < unit :=
    ⟨Text.digitBound, Nat.le_refl _, Nat.lt_of_succ_lt Text.two_lt_digitBound⟩
  let fields : TokenFields :=
    { text := none
      negated := none
      isExpression := none
      inflected := none
      caseSensitive := none
      least := none
      most := .absent
      reference := some unit }
  have given : fields.GivenBy [(.text "reference", .int unit)] := by
    constructor <;> simp [fields, GivenMost.value?]
  have outside : ¬(1 ≤ (unit : Int) ∧ (unit : Int) ≤ [1].length) := by
    simp only [List.length_singleton]
    omega
  obtain ⟨flaw, refused⟩ :=
    (refusedProperly fields _ ⟨"s", .text "R"⟩ (.text "") [1] given).mpr (.inl ⟨_, rfl, outside⟩)
  have notShown : (Value.int unit).canBeShown = false :=
    Value.canBeShown_int_eq_false_iff.mpr isLong
  rw [TokenEntries.token_of_refersOutside given _ _ rfl outside,
    DefinitionPlace.refusal_of_long (List.mem_singleton_self _) notShown] at refused
  cases refused

end ProseRules
