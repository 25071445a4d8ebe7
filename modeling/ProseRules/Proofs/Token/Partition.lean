import Mathlib.Algebra.BigOperators.Group.List.Lemmas
import ProseRules.Proofs.Outcome
import ProseRules.Proofs.Token.Grouping
import ProseRules.Proofs.Value.Fields

namespace ProseRules

/-!
# Units are the longest runs of one phrase

Two neighbouring tokens lie in one unit exactly if they belong to one phrase. Only one
list of sizes has this property, and the offsets of the units tell which tokens each of
them holds.
-/

section Sizes

variable {sizes : List Nat} {token : Nat}

/-- A unit holds the tokens from its start up to the start of the next one. -/
theorem unitHolding_eq_iff
    (inside : token < sizes.sum)
    {unit : Nat} :
    unitHolding sizes token = unit ↔
      (sizes.take unit).sum ≤ token ∧ token < (sizes.take (unit + 1)).sum := by
  by_cases inRange : unit < sizes.length
  · rw [← le_unitHolding_iff (Nat.le_of_lt inRange), ← unitHolding_lt_iff inRange]
    omega
  · have holdingExists := unitHolding_lt_length inside
    rw [List.take_of_length_le (Nat.not_lt.mp inRange)]
    omega

/-- A unit that holds something holds the token at which it starts. -/
theorem unitHolding_sum_take
    (positive : ∀ size ∈ sizes, 0 < size)
    {unit : Nat}
    (unitExists : unit < sizes.length) :
    (sizes.take unit).sum < sizes.sum ∧ unitHolding sizes (sizes.take unit).sum = unit := by
  have beforeNext : (sizes.take unit).sum < (sizes.take (unit + 1)).sum :=
    (sum_take_lt_sum_take_iff positive unitExists).mpr (Nat.lt_succ_self unit)
  have inside : (sizes.take unit).sum < sizes.sum :=
    Nat.lt_of_lt_of_le beforeNext (sum_take_le_sum sizes (unit + 1))
  exact ⟨inside, (unitHolding_eq_iff inside).mpr ⟨Nat.le_refl _, beforeNext⟩⟩

/-- Later tokens lie in later units or in the same one. -/
theorem unitHolding_mono
    {later : Nat}
    (notBefore : token ≤ later)
    (inside : later < sizes.sum) :
    unitHolding sizes token ≤ unitHolding sizes later := by
  have unitExists := unitHolding_lt_length (Nat.lt_of_le_of_lt notBefore inside)
  rw [le_unitHolding_iff (Nat.le_of_lt unitExists), sum_take_unitHolding]
  exact Nat.le_trans startOfUnit_le notBefore

/-- A unit starts at every token that lies in another unit than the one before it. -/
theorem exists_sum_take_eq_succ_iff
    (positive : ∀ size ∈ sizes, 0 < size)
    (inside : token + 1 < sizes.sum) :
    (∃ unit < sizes.length, (sizes.take unit).sum = token + 1) ↔
      unitHolding sizes token ≠ unitHolding sizes (token + 1) := by
  constructor
  · rintro ⟨unit, unitExists, isStart⟩
    have holdsStart := (unitHolding_sum_take positive unitExists).2
    have isBefore : unitHolding sizes token < unit := by
      rw [unitHolding_lt_iff (Nat.le_of_lt unitExists), isStart]
      exact Nat.lt_succ_self token
    rw [← isStart, holdsStart]
    exact Nat.ne_of_lt isBefore
  · intro otherUnit
    obtain ⟨fromStart, beforeNext⟩ := (unitHolding_eq_iff inside).mp rfl
    refine ⟨_, unitHolding_lt_length inside, ?_⟩
    -- A start before the token at hand would hold the token before it as well.
    by_contra notStart
    refine otherUnit ((unitHolding_eq_iff (Nat.lt_of_succ_lt inside)).mpr ⟨?_, ?_⟩)
    · omega
    · omega

theorem unitHolding_cons_add
    (size : Nat)
    (sizes : List Nat)
    (token : Nat) :
    unitHolding (size :: sizes) (size + token) = unitHolding sizes token + 1 := by
  simp [unitHolding]

/-- Sizes are given by which neighbouring tokens lie in one unit. -/
theorem sizes_eq_of_joined_iff
    {others : List Nat}
    (positive : ∀ size ∈ sizes, 0 < size)
    (othersPositive : ∀ size ∈ others, 0 < size)
    (sameTotal : sizes.sum = others.sum)
    (joinedAlike :
      ∀ place, place + 1 < sizes.sum →
        (unitHolding sizes place = unitHolding sizes (place + 1) ↔
          unitHolding others place = unitHolding others (place + 1))) :
    sizes = others := by
  induction sizes generalizing others with
  | nil =>
      cases others with
      | nil =>
          rfl
      | cons other others =>
          have := othersPositive other List.mem_cons_self
          simp at sameTotal
          omega
  | cons size sizes inductionHypothesis =>
      obtain ⟨sizePositive, laterPositive⟩ := List.forall_mem_cons.mp positive
      cases others with
      | nil =>
          simp at sameTotal
          omega
      | cons other others =>
          obtain ⟨otherPositive, othersLaterPositive⟩ := List.forall_mem_cons.mp othersPositive
          rw [List.sum_cons, List.sum_cons] at sameTotal
          rw [List.sum_cons] at joinedAlike
          -- The shorter one of two first units would be joined with the next one.
          have sameSize : size = other := by
            rcases Nat.lt_trichotomy size other with shorter | same | longer
            · have joined := joinedAlike (size - 1) (by omega)
              simp [unitHolding, shorter, show size - 1 < other by omega,
                Nat.sub_add_cancel sizePositive] at joined
              omega
            · exact same
            · have joined := joinedAlike (other - 1) (by omega)
              simp [unitHolding, longer, show other - 1 < size by omega,
                Nat.sub_add_cancel otherPositive] at joined
              omega
          subst sameSize
          have laterJoinedAlike :
              ∀ place, place + 1 < sizes.sum →
                (unitHolding sizes place = unitHolding sizes (place + 1) ↔
                  unitHolding others place = unitHolding others (place + 1)) := by
            intro place inside
            have joined := joinedAlike (size + place) (by omega)
            simpa only [Nat.add_assoc, unitHolding_cons_add, Nat.add_right_cancel_iff]
              using joined
          rw [inductionHypothesis laterPositive othersLaterPositive (by omega) laterJoinedAlike]

/-- The places where units that hold something start are in order. -/
theorem pairwise_lt_runningTotals
    (positive : ∀ size ∈ sizes, 0 < size)
    (start : Nat) :
    (runningTotals start sizes).Pairwise (· < ·) := by
  induction sizes generalizing start with
  | nil =>
      exact List.pairwise_singleton _ start
  | cons size sizes inductionHypothesis =>
      obtain ⟨sizePositive, laterPositive⟩ := List.forall_mem_cons.mp positive
      refine .cons ?_ (inductionHypothesis laterPositive (start + size))
      intro total member
      have := le_of_mem_runningTotals member
      omega

end Sizes

/--
Of parts that are joined inside and apart from each other, two neighbouring items lie in
one exactly if they are joined.
-/
theorem unitHolding_lengths_eq_iff
    {α : Type}
    {joins : α → α → Bool}
    {parts : List (List α)}
    (nonempty : ∀ part ∈ parts, part ≠ [])
    (joined : ∀ part ∈ parts, part.IsChain fun first second => joins first second = true)
    (apart :
      parts.IsChain fun part next =>
        ∃ someItems someNext, joins (part.getLast someItems) (next.head someNext) = false)
    {place : Nat}
    {first second : α}
    (isFirst : parts.flatten[place]? = some first)
    (isSecond : parts.flatten[place + 1]? = some second) :
    unitHolding (parts.map List.length) place =
        unitHolding (parts.map List.length) (place + 1) ↔
      joins first second = true := by
  induction parts generalizing place with
  | nil =>
      simp at isFirst
  | cons part parts inductionHypothesis =>
      obtain ⟨someItems, laterNonempty⟩ := List.forall_mem_cons.mp nonempty
      obtain ⟨partJoined, laterJoined⟩ := List.forall_mem_cons.mp joined
      rw [List.flatten_cons] at isFirst isSecond
      rw [List.map_cons]
      rcases Nat.lt_trichotomy (place + 1) part.length with bothInPart | lastOfPart | later
      · have firstInPart : place < part.length := by omega
        rw [List.getElem?_append_left firstInPart, List.getElem?_eq_getElem firstInPart]
          at isFirst
        rw [List.getElem?_append_left bothInPart, List.getElem?_eq_getElem bothInPart] at isSecond
        cases isFirst
        cases isSecond
        have areJoined := List.isChain_iff_getElem.mp partJoined place bothInPart
        simp [unitHolding, firstInPart, bothInPart, areJoined]
      · have firstInPart : place < part.length := by omega
        rw [List.getElem?_append_left firstInPart, List.getElem?_eq_getElem firstInPart]
          at isFirst
        rw [List.getElem?_append_right (by omega), lastOfPart, Nat.sub_self] at isSecond
        cases isFirst
        cases parts with
        | nil =>
            simp at isSecond
        | cons next parts =>
            obtain ⟨⟨_, someNext, notJoined⟩, _⟩ := List.isChain_cons_cons.mp apart
            have isLast : part[place] = part.getLast someItems := by
              rw [List.getLast_eq_getElem]
              congr 1
              omega
            have isHead : second = next.head someNext := by
              rw [List.flatten_cons, List.getElem?_append_left (List.length_pos_iff.mpr someNext),
                ← List.head?_eq_getElem?, List.head?_eq_some_head someNext] at isSecond
              exact (Option.some.inj isSecond).symm
            rw [isLast, isHead, notJoined]
            simp [unitHolding, firstInPart, lastOfPart]
      · obtain ⟨place, rfl⟩ := Nat.exists_eq_add_of_le (Nat.le_of_lt_succ later)
        rw [List.getElem?_append_right (by omega)] at isFirst isSecond
        rw [Nat.add_sub_cancel_left] at isFirst
        rw [Nat.add_assoc, Nat.add_sub_cancel_left] at isSecond
        rw [Nat.add_assoc, unitHolding_cons_add, unitHolding_cons_add,
          Nat.add_right_cancel_iff]
        exact inductionHypothesis laterNonempty laterJoined apart.tail isFirst isSecond

section Named

variable {α : Type} (phraseOf : α → Value)

/-- The items are a unit with a phrase of this name, or one item if the name is empty. -/
structure IsUnitNamed (name : Value) (unit : List α) : Prop where
  isText : ∃ text, name = .text text
  nonempty : unit ≠ []
  phrases : ∀ item ∈ unit, phraseOf item = name
  single : name = .text "" → ∃ item, unit = [item]

theorem phrasesJoin_text
    {first second : String} :
    Token.phrasesJoin (.text first) (.text second) = true ↔ first ≠ "" ∧ first = second := by
  simp only [Token.phrasesJoin, Value.isTruthy, Value.equals_text, Bool.and_eq_true,
    decide_eq_true_eq]
  constructor
  · rintro ⟨⟨someName, _⟩, sameName⟩
    exact ⟨someName, sameName⟩
  · rintro ⟨someName, rfl⟩
    exact ⟨⟨someName, someName⟩, rfl⟩

variable {phraseOf}

theorem IsUnitNamed.isChain
    {name : Value}
    {unit : List α}
    (named : IsUnitNamed phraseOf name unit) :
    unit.IsChain fun first second =>
      Token.phrasesJoin (phraseOf first) (phraseOf second) = true := by
  obtain ⟨⟨text, rfl⟩, _, phrases, single⟩ := named
  by_cases noName : text = ""
  · subst noName
    obtain ⟨item, rfl⟩ := single rfl
    exact .singleton item
  · rw [List.isChain_iff_getElem]
    intro place inside
    rw [phrases _ (List.getElem_mem _), phrases _ (List.getElem_mem _)]
    exact phrasesJoin_text.mpr ⟨noName, rfl⟩

/-- Items with the same phrases are a unit of the same name. -/
theorem IsUnitNamed.of_samePhrases
    {β : Type}
    {otherPhraseOf : β → Value}
    {name : Value}
    {unit : List α}
    (named : IsUnitNamed phraseOf name unit)
    {others : List β}
    (samePhrases :
      List.Forall₂ (fun item other => otherPhraseOf other = phraseOf item) unit others) :
    IsUnitNamed otherPhraseOf name others where
  isText := named.isText
  nonempty := by
    rintro rfl
    exact named.nonempty (List.forall₂_nil_right_iff.mp samePhrases)
  phrases other member := by
    obtain ⟨item, isItem, samePhrase⟩ := Outcome.exists_related_of_mem samePhrases.flip member
    rw [samePhrase, named.phrases item isItem]
  single noName := by
    obtain ⟨item, rfl⟩ := named.single noName
    obtain ⟨other, _, _, noMore, rfl⟩ := List.forall₂_cons_left_iff.mp samePhrases
    exact ⟨other, by rw [List.forall₂_nil_left_iff.mp noMore]⟩

/-- Units whose neighbours have different names are the longest runs of one phrase. -/
theorem splitBy_flatten_of_named
    {names : List Value}
    {units : List (List α)}
    (named : List.Forall₂ (IsUnitNamed phraseOf) names units)
    (apart : names.IsChain fun first second => first = second → first = .text "") :
    (units.flatten.splitBy fun first second =>
        Token.phrasesJoin (phraseOf first) (phraseOf second)) =
      units := by
  refine List.splitBy_eq_iff.mpr ⟨rfl, fun noItem => ?_, fun unit member => ?_, ?_⟩
  · obtain ⟨_, _, isNamed⟩ := Outcome.exists_related_of_mem named.flip noItem
    exact isNamed.nonempty rfl
  · obtain ⟨_, _, isNamed⟩ := Outcome.exists_related_of_mem named.flip member
    exact isNamed.isChain
  · rw [List.isChain_iff_getElem] at apart ⊢
    intro place inside
    have sameLength := named.length_eq
    have first := named.get (show place < names.length by omega) (Nat.lt_of_succ_lt inside)
    have second := named.get (show place + 1 < names.length by omega) inside
    refine ⟨first.nonempty, second.nonempty, ?_⟩
    obtain ⟨firstText, isFirst⟩ := first.isText
    obtain ⟨secondText, isSecond⟩ := second.isText
    have notSame := apart place (by omega)
    simp only [List.get_eq_getElem] at first second isFirst isSecond
    rw [isFirst, isSecond] at notSame
    rw [Bool.eq_false_iff, first.phrases _ (List.getLast_mem _),
      second.phrases _ (List.head_mem _), isFirst, isSecond, Ne, phrasesJoin_text]
    rintro ⟨someName, rfl⟩
    exact someName (Value.text.inj (notSame rfl))

end Named

namespace Token

/-- The tokens belong to one phrase. -/
def SharesPhrase (first second : Token) : Prop :=
  ∃ name, name ≠ "" ∧ first.phrase = .text name ∧ second.phrase = .text name

/-- The phrase of a token is a text, which is empty if it belongs to none. -/
def HasTextPhrase (token : Token) : Prop :=
  ∃ name, token.phrase = .text name

theorem sharePhrase_iff
    {first second : Token}
    (firstText : first.HasTextPhrase)
    (secondText : second.HasTextPhrase) :
    sharePhrase first second = true ↔ first.SharesPhrase second := by
  obtain ⟨firstName, isFirst⟩ := firstText
  obtain ⟨secondName, isSecond⟩ := secondText
  change phrasesJoin first.phrase second.phrase = true ↔ _
  rw [SharesPhrase, isFirst, isSecond, phrasesJoin_text]
  constructor
  · rintro ⟨someName, rfl⟩
    exact ⟨firstName, someName, rfl, rfl⟩
  · rintro ⟨name, someName, sameAsFirst, sameAsSecond⟩
    rw [Value.text.injEq] at sameAsFirst sameAsSecond
    subst sameAsFirst
    exact ⟨someName, sameAsSecond.symm⟩

/-- Sizes that join neighbouring tokens exactly if they belong to one phrase. -/
structure PartitionsPhrases (tokens : List Token) (sizes : List Nat) : Prop where
  positive : ∀ size ∈ sizes, 0 < size
  total : sizes.sum = tokens.length
  joined :
    ∀ (place : Nat) (first second : Token),
      tokens[place]? = some first → tokens[place + 1]? = some second →
        (unitHolding sizes place = unitHolding sizes (place + 1) ↔ first.SharesPhrase second)

/-- A single token without a phrase, or a run of tokens of one phrase. -/
def IsPhraseUnit (unit : List Token) : Prop :=
  (∃ token, unit = [token] ∧ token.phrase = .text "") ∨
    unit ≠ [] ∧ ∃ name, name ≠ "" ∧ ∀ token ∈ unit, token.phrase = .text name

/-- Offsets of units: each unit reaches from its own offset up to the next one. -/
structure MarksUnits (tokens : List Token) (offsets : List Nat) : Prop where
  starts : offsets[0]? = some 0
  increasing : offsets.Pairwise (· < ·)
  ends : offsets.getLast? = some tokens.length
  ranges :
    ∀ unit start stop, offsets[unit]? = some start → offsets[unit + 1]? = some stop →
      (units tokens)[unit]? = some ((tokens.drop start).take (stop - start)) ∧
        ∀ token < tokens.length,
          unitHolding (unitSizes tokens) token = unit ↔ start ≤ token ∧ token < stop

section Units

variable {tokens : List Token}

theorem partitionsPhrases_unitSizes
    (textPhrases : ∀ token ∈ tokens, token.HasTextPhrase) :
    PartitionsPhrases tokens (unitSizes tokens) where
  positive := fun _ => pos_of_mem_unitSizes
  total := sum_unitSizes tokens
  joined := by
    intro place first second isFirst isSecond
    rw [← sharePhrase_iff (textPhrases first (List.mem_of_getElem? isFirst))
      (textPhrases second (List.mem_of_getElem? isSecond))]
    rw [← List.flatten_splitBy sharePhrase tokens] at isFirst isSecond
    exact
      unitHolding_lengths_eq_iff (fun _ => List.ne_nil_of_mem_splitBy)
        (fun _ => List.isChain_of_mem_splitBy) (List.isChain_getLast_head_splitBy _ _)
        isFirst isSecond

/-- No other sizes join the tokens of one phrase. -/
theorem PartitionsPhrases.eq_unitSizes
    {sizes : List Nat}
    (textPhrases : ∀ token ∈ tokens, token.HasTextPhrase)
    (partitions : PartitionsPhrases tokens sizes) :
    sizes = unitSizes tokens := by
  have ofUnits := partitionsPhrases_unitSizes textPhrases
  refine
    sizes_eq_of_joined_iff partitions.positive ofUnits.positive
      (partitions.total.trans ofUnits.total.symm) ?_
  intro place inside
  rw [partitions.total] at inside
  have isFirst := List.getElem?_eq_getElem (Nat.lt_of_succ_lt inside)
  have isSecond := List.getElem?_eq_getElem inside
  rw [partitions.joined place _ _ isFirst isSecond, ofUnits.joined place _ _ isFirst isSecond]

/-- Tokens that share phrases one after the other belong to the phrase of the first one. -/
theorem phrase_eq_of_isChain
    {first : Token}
    {rest : List Token}
    (joined : (first :: rest).IsChain fun token next => token.SharesPhrase next) :
    ∀ token ∈ rest, token.phrase = first.phrase := by
  induction rest generalizing first with
  | nil =>
      simp
  | cons next rest inductionHypothesis =>
      obtain ⟨⟨name, _, isFirst, isNext⟩, laterJoined⟩ := List.isChain_cons_cons.mp joined
      intro token member
      rcases List.mem_cons.mp member with rfl | later
      · rw [isFirst, isNext]
      · rw [inductionHypothesis laterJoined token later, isFirst, isNext]

/-- A unit is a single token without a phrase or a run of one phrase. -/
theorem isPhraseUnit_of_mem_units
    (textPhrases : ∀ token ∈ tokens, token.HasTextPhrase)
    {unit : List Token}
    (isUnit : unit ∈ units tokens) :
    IsPhraseUnit unit := by
  have textInUnit : ∀ token ∈ unit, token.HasTextPhrase := by
    intro token member
    refine textPhrases token ?_
    rw [← List.flatten_splitBy sharePhrase tokens]
    exact List.mem_flatten.mpr ⟨unit, isUnit, member⟩
  have joined : unit.IsChain fun token next => token.SharesPhrase next :=
    (List.isChain_of_mem_splitBy isUnit).imp_of_mem_imp fun token next isToken isNext share =>
      (sharePhrase_iff (textInUnit token isToken) (textInUnit next isNext)).mp share
  cases unit with
  | nil =>
      exact (List.ne_nil_of_mem_splitBy isUnit rfl).elim
  | cons first rest =>
      obtain ⟨name, isName⟩ := textInUnit first List.mem_cons_self
      by_cases noPhrase : name = ""
      · subst noPhrase
        cases rest with
        | nil =>
            exact .inl ⟨first, rfl, isName⟩
        | cons next rest =>
            obtain ⟨⟨other, someName, isFirst, _⟩, _⟩ := List.isChain_cons_cons.mp joined
            rw [isName, Value.text.injEq] at isFirst
            exact (someName isFirst.symm).elim
      · refine .inr ⟨by simp, name, noPhrase, ?_⟩
        rintro token (_ | ⟨_, later⟩)
        · exact isName
        · rw [phrase_eq_of_isChain joined token later, isName]

theorem usesGrouping_iff
    (textPhrases : ∀ token ∈ tokens, token.HasTextPhrase) :
    usesGrouping tokens = true ↔ ∃ token ∈ tokens, token.phrase ≠ .text "" := by
  rw [usesGrouping, List.any_eq_true]
  refine exists_congr fun token => and_congr_right fun member => ?_
  obtain ⟨name, isName⟩ := textPhrases token member
  simp [isPartOfPhrase, isName, Value.isTruthy]

theorem marksUnits_unitOffsets
    (tokens : List Token) :
    MarksUnits tokens (unitOffsets (unitSizes tokens)) where
  starts := by
    rw [getElem?_unitOffsets (Nat.zero_le _), List.take_zero, List.sum_nil]
  increasing := pairwise_lt_runningTotals (fun _ => pos_of_mem_unitSizes) 0
  ends := by
    rw [List.getLast?_eq_getElem?, length_unitOffsets, Nat.add_sub_cancel,
      getElem?_unitOffsets (Nat.le_refl _), List.take_length, sum_unitSizes]
  ranges := by
    intro unit start stop isStart isStop
    have unitExists : unit < (unitSizes tokens).length := by
      have := (List.getElem?_eq_some_iff.mp isStop).1
      rw [length_unitOffsets] at this
      omega
    rw [getElem?_unitOffsets (Nat.le_of_lt unitExists)] at isStart
    rw [getElem?_unitOffsets unitExists] at isStop
    cases isStart
    cases isStop
    refine ⟨?_, fun token inside => ?_⟩
    · have inUnits : unit < (units tokens).length := by simpa [unitSizes] using unitExists
      have ofParts := List.drop_take_succ_flatten_eq_getElem (units tokens) unit inUnits
      have allTokens : (units tokens).flatten = tokens := List.flatten_splitBy _ _
      rw [allTokens, List.drop_take] at ofParts
      rw [List.getElem?_eq_getElem inUnits, ← ofParts]
      rfl
    · exact unitHolding_eq_iff (by rwa [sum_unitSizes])

end Units

/--
The units are the only cut of the tokens that joins neighbours exactly if they belong to
one phrase, and the offsets give the tokens of each unit.
-/
theorem partitionsPhrases_iff_eq_unitSizes
    {tokens : List Token}
    (textPhrases : ∀ token ∈ tokens, token.HasTextPhrase) :
    (∀ sizes, PartitionsPhrases tokens sizes ↔ sizes = unitSizes tokens) ∧
      (∀ unit ∈ units tokens, IsPhraseUnit unit) ∧
        (usesGrouping tokens = true ↔ ∃ token ∈ tokens, token.phrase ≠ .text "") ∧
          MarksUnits tokens (unitOffsets (unitSizes tokens)) := by
  refine ⟨fun sizes => ⟨?_, ?_⟩, fun unit => isPhraseUnit_of_mem_units textPhrases,
    usesGrouping_iff textPhrases, marksUnits_unitOffsets tokens⟩
  · exact fun partitions => partitions.eq_unitSizes textPhrases
  · rintro rfl
    exact partitionsPhrases_unitSizes textPhrases

/-- Two tokens of one phrase, one of another phrase and one of none. -/
def twoPhrasesBeforeWord : List Token :=
  [.placeholder (.text "greeting"), .placeholder (.text "greeting"), .placeholder (.text "name"),
    .placeholder (.text "")]

/-- Neighbouring phrases are units of their own. -/
theorem partitionsPhrases_iff_twoPhrasesBeforeWord :
    (∀ token ∈ twoPhrasesBeforeWord, token.HasTextPhrase) ∧
      (∀ sizes, PartitionsPhrases twoPhrasesBeforeWord sizes ↔ sizes = [2, 1, 1]) ∧
        MarksUnits twoPhrasesBeforeWord [0, 2, 3, 4] := by
  have textPhrases : ∀ token ∈ twoPhrasesBeforeWord, token.HasTextPhrase := by
    simp [twoPhrasesBeforeWord, placeholder, HasTextPhrase]
  obtain ⟨onlySizes, _, _, marks⟩ := partitionsPhrases_iff_eq_unitSizes textPhrases
  have sizes : unitSizes twoPhrasesBeforeWord = [2, 1, 1] := by
    decide +kernel
  rw [sizes] at onlySizes marks
  exact ⟨textPhrases, onlySizes, marks⟩

end Token

end ProseRules
