import Mathlib.Algebra.GroupWithZero.Nat
import Mathlib.Data.List.SplitBy
import ProseRules.Token.Grouping

namespace ProseRules

/-!
# Units and the tokens they hold

A token of a pattern lies in one unit. `unitHolding` finds it by going over the
sizes of the units, and `startOfUnit` finds where it starts. The offsets of the
units give the same answers, and the units themselves depend on the phrases of the
tokens only.
-/

/-- The number of the unit that holds a token, going over the sizes of the units. -/
def unitHolding : List Nat → Nat → Nat
  | [], _ => 0
  | size :: sizes, token => if token < size then 0 else unitHolding sizes (token - size) + 1

/-- The first token of the unit that holds a token. -/
def startOfUnit : List Nat → Nat → Nat
  | [], _ => 0
  | size :: sizes, token => if token < size then 0 else size + startOfUnit sizes (token - size)

section Holding

variable {sizes : List Nat} {token : Nat}

theorem unitHolding_lt_length
    (inside : token < sizes.sum) :
    unitHolding sizes token < sizes.length := by
  induction sizes generalizing token with
  | nil =>
      simp at inside
  | cons size sizes inductionHypothesis =>
      by_cases inFirst : token < size
      · simp [unitHolding, inFirst]
      · rw [List.sum_cons] at inside
        have laterUnit := @inductionHypothesis (token - size) (by omega)
        simp [unitHolding, inFirst, laterUnit]

theorem startOfUnit_le :
    startOfUnit sizes token ≤ token := by
  induction sizes generalizing token with
  | nil =>
      exact Nat.zero_le token
  | cons size sizes inductionHypothesis =>
      by_cases inFirst : token < size
      · simp [startOfUnit, inFirst]
      · have laterStart := @inductionHypothesis (token - size)
        simp only [startOfUnit, inFirst, if_false]
        omega

/-- The first token of a unit lies in the unit. -/
theorem unitHolding_startOfUnit :
    unitHolding sizes (startOfUnit sizes token) = unitHolding sizes token := by
  induction sizes generalizing token with
  | nil =>
      rfl
  | cons size sizes inductionHypothesis =>
      by_cases inFirst : token < size
      · have nonempty : 0 < size := by omega
        simp [startOfUnit, unitHolding, inFirst, nonempty]
      · simp [startOfUnit, unitHolding, inFirst, inductionHypothesis]

/-- A token is in an earlier unit exactly if it stands before the place where the unit starts. -/
theorem unitHolding_lt_iff
    {unit : Nat}
    (inRange : unit ≤ sizes.length) :
    unitHolding sizes token < unit ↔ token < (sizes.take unit).sum := by
  induction sizes generalizing token unit with
  | nil =>
      obtain rfl : unit = 0 := by simpa using inRange
      simp
  | cons size sizes inductionHypothesis =>
      cases unit with
      | zero =>
          simp
      | succ unit =>
          have later := @inductionHypothesis (token - size) unit (Nat.le_of_succ_le_succ inRange)
          rw [List.take_succ_cons, List.sum_cons, unitHolding]
          by_cases inFirst : token < size
          · simp only [inFirst, if_true]
            omega
          · simp only [inFirst, if_false]
            omega

theorem le_unitHolding_iff
    {unit : Nat}
    (inRange : unit ≤ sizes.length) :
    unit ≤ unitHolding sizes token ↔ (sizes.take unit).sum ≤ token := by
  have before_iff := @unitHolding_lt_iff sizes token unit inRange
  omega

theorem sum_take_le_sum
    (sizes : List Nat)
    (unit : Nat) :
    (sizes.take unit).sum ≤ sizes.sum := by
  have twoParts := congrArg List.sum (List.take_append_drop unit sizes)
  rw [List.sum_append_nat] at twoParts
  omega

/-- Units that hold something start in order. -/
theorem sum_take_lt_sum_take_iff
    (nonempty : ∀ size ∈ sizes, 0 < size)
    {unit other : Nat}
    (unitExists : unit < sizes.length) :
    (sizes.take unit).sum < (sizes.take other).sum ↔ unit < other := by
  induction sizes generalizing unit other with
  | nil =>
      simp at unitExists
  | cons size sizes inductionHypothesis =>
      obtain ⟨firstNonempty, laterNonempty⟩ := List.forall_mem_cons.mp nonempty
      cases other with
      | zero =>
          simp
      | succ other =>
          cases unit with
          | zero =>
              simp only [List.take_zero, List.sum_nil, List.take_succ_cons, List.sum_cons]
              omega
          | succ unit =>
              have later :=
                @inductionHypothesis laterNonempty unit other (Nat.lt_of_succ_lt_succ unitExists)
              simp only [List.take_succ_cons, List.sum_cons]
              omega

/-- The sums of the sizes before them are where units that hold something start. -/
theorem startOfUnit_sum_take
    (nonempty : ∀ size ∈ sizes, 0 < size)
    {unit : Nat}
    (unitExists : unit < sizes.length) :
    startOfUnit sizes (sizes.take unit).sum = (sizes.take unit).sum := by
  induction sizes generalizing unit with
  | nil =>
      simp at unitExists
  | cons size sizes inductionHypothesis =>
      cases unit with
      | zero =>
          simp [startOfUnit, nonempty size List.mem_cons_self]
      | succ unit =>
          have later :=
            inductionHypothesis (fun other member => nonempty other (List.mem_cons_of_mem _ member))
              (Nat.lt_of_succ_lt_succ unitExists)
          simp [startOfUnit, later]

end Holding

theorem length_runningTotals
    (start : Nat)
    (sizes : List Nat) :
    (runningTotals start sizes).length = sizes.length + 1 := by
  induction sizes generalizing start with
  | nil =>
      rfl
  | cons size sizes inductionHypothesis =>
      simp [runningTotals, inductionHypothesis]

theorem le_of_mem_runningTotals
    {start total : Nat}
    {sizes : List Nat}
    (member : total ∈ runningTotals start sizes) :
    start ≤ total := by
  induction sizes generalizing start with
  | nil =>
      simp [runningTotals] at member
      omega
  | cons size sizes inductionHypothesis =>
      rcases List.mem_cons.mp member with rfl | later
      · exact Nat.le_refl total
      · have := inductionHypothesis later
        omega

/-- A unit starts where the sizes before it add up to. -/
theorem getElem?_runningTotals
    {start unit : Nat}
    {sizes : List Nat}
    (unitExists : unit ≤ sizes.length) :
    (runningTotals start sizes)[unit]? = some (start + (sizes.take unit).sum) := by
  induction sizes generalizing start unit with
  | nil =>
      obtain rfl : unit = 0 := by simpa using unitExists
      rfl
  | cons size sizes inductionHypothesis =>
      cases unit with
      | zero =>
          simp [runningTotals]
      | succ unit =>
          have later := @inductionHypothesis (start + size) unit (by simpa using unitExists)
          simp [runningTotals, later, Nat.add_assoc]

theorem length_unitOffsets
    (sizes : List Nat) :
    (unitOffsets sizes).length = sizes.length + 1 :=
  length_runningTotals 0 sizes

theorem getElem?_unitOffsets
    {unit : Nat}
    {sizes : List Nat}
    (unitExists : unit ≤ sizes.length) :
    (unitOffsets sizes)[unit]? = some (sizes.take unit).sum := by
  rw [unitOffsets, getElem?_runningTotals unitExists, Nat.zero_add]

theorem dropLast_runningTotals_cons
    (start size : Nat)
    (sizes : List Nat) :
    (runningTotals start (size :: sizes)).dropLast =
      start :: (runningTotals (start + size) sizes).dropLast := by
  cases sizes <;> rfl

/-- As many units start up to a token as there are up to the one that holds it. -/
theorem length_filter_runningTotals
    {start token : Nat}
    {sizes : List Nat}
    (inside : token < sizes.sum) :
    ((runningTotals start sizes).dropLast.filter (· ≤ start + token)).length =
      unitHolding sizes token + 1 := by
  induction sizes generalizing start token with
  | nil =>
      simp at inside
  | cons size sizes inductionHypothesis =>
      rw [dropLast_runningTotals_cons, List.filter_cons_of_pos (by simp), List.length_cons]
      by_cases inFirst : token < size
      · have noneLater :
            (runningTotals (start + size) sizes).dropLast.filter (· ≤ start + token) = [] := by
          rw [List.filter_eq_nil_iff]
          intro total member
          have := le_of_mem_runningTotals (List.dropLast_subset _ member)
          simp only [decide_eq_true_eq]
          omega
        simp [unitHolding, inFirst, noneLater]
      · rw [List.sum_cons] at inside
        have later := @inductionHypothesis (start + size) (token - size) (by omega)
        have samePlace : start + size + (token - size) = start + token := by omega
        rw [samePlace] at later
        simp [unitHolding, inFirst, later]

/-- The unit of a token by the offsets is the one that holds it. -/
theorem unitOf_unitOffsets
    {sizes : List Nat}
    {token : Nat}
    (inside : token < sizes.sum) :
    unitOf (unitOffsets sizes) token = unitHolding sizes token := by
  have counted := @length_filter_runningTotals 0 token sizes inside
  rw [Nat.zero_add] at counted
  rw [unitOf, unitOffsets, counted, Nat.add_sub_cancel]

theorem sum_take_unitHolding
    (sizes : List Nat)
    (token : Nat) :
    (sizes.take (unitHolding sizes token)).sum = startOfUnit sizes token := by
  induction sizes generalizing token with
  | nil =>
      rfl
  | cons size sizes inductionHypothesis =>
      by_cases inFirst : token < size
      · simp [unitHolding, startOfUnit, inFirst]
      · simp [unitHolding, startOfUnit, inFirst, inductionHypothesis]

/-- The offset of the unit that holds a token is where the unit starts. -/
theorem getElem?_unitOffsets_unitHolding
    {sizes : List Nat}
    {token : Nat}
    (inside : token < sizes.sum) :
    (unitOffsets sizes)[unitHolding sizes token]? = some (startOfUnit sizes token) := by
  have unitExists := unitHolding_lt_length inside
  rw [getElem?_unitOffsets (Nat.le_of_lt unitExists), sum_take_unitHolding]

/-- A list of images is cut where the list itself is. -/
theorem splitBy_map
    {α β : Type}
    (image : α → β)
    (joins : β → β → Bool)
    (items : List α) :
    (items.map image).splitBy joins =
      (items.splitBy fun first second => joins (image first) (image second)).map
        (List.map image) := by
  have sameLoop :
      ∀ (items : List α) (current : α) (group : List α) (groups : List (List α)),
        List.splitBy.loop joins (items.map image) (image current) (group.map image)
            (groups.map (List.map image)) =
          (List.splitBy.loop (fun first second => joins (image first) (image second)) items
            current group groups).map (List.map image) := by
    intro items
    induction items with
    | nil =>
        intro current group groups
        simp [List.splitBy.loop]
    | cons next items inductionHypothesis =>
        intro current group groups
        simp only [List.map_cons, List.splitBy.loop]
        split
        · exact inductionHypothesis next (current :: group) groups
        · simpa using inductionHypothesis next [] ((current :: group).reverse :: groups)
  cases items with
  | nil =>
      rfl
  | cons first items =>
      exact sameLoop items first [] []

namespace Token

/-- Neighbouring tokens with these phrases belong to one unit. -/
def phrasesJoin (first second : Value) : Bool :=
  first.isTruthy && second.isTruthy && first.equals second

/-- The sizes of the units depend on the phrases only. -/
theorem unitSizes_eq_of_phrases
    (tokens : List Token) :
    unitSizes tokens = ((tokens.map (·.phrase)).splitBy phrasesJoin).map List.length := by
  rw [splitBy_map, List.map_map, unitSizes, units]
  refine List.map_congr_left fun unit _ => ?_
  simp

/-- Rows of tokens with the same phrases have units of the same sizes. -/
theorem unitSizes_congr
    {first second : List Token}
    (samePhrases : first.map (·.phrase) = second.map (·.phrase)) :
    unitSizes first = unitSizes second := by
  rw [unitSizes_eq_of_phrases, unitSizes_eq_of_phrases, samePhrases]

/-- The units hold all tokens. -/
theorem sum_unitSizes
    (tokens : List Token) :
    (unitSizes tokens).sum = tokens.length := by
  rw [unitSizes, units, ← List.length_flatten, List.flatten_splitBy]

/-- No unit is empty. -/
theorem pos_of_mem_unitSizes
    {tokens : List Token}
    {size : Nat}
    (member : size ∈ unitSizes tokens) :
    0 < size := by
  obtain ⟨unit, isUnit, rfl⟩ := List.mem_map.mp member
  exact List.length_pos_iff.mpr (List.ne_nil_of_mem_splitBy isUnit)

/-- Without phrases every token is a unit of its own. -/
theorem unitSizes_of_no_grouping
    {tokens : List Token}
    (noGrouping : usesGrouping tokens = false) :
    unitSizes tokens = List.replicate tokens.length 1 := by
  have allOne : ∀ size ∈ unitSizes tokens, size = 1 := by
    intro size member
    obtain ⟨unit, isUnit, rfl⟩ := List.mem_map.mp member
    have joined := List.isChain_of_mem_splitBy isUnit
    match unit, List.ne_nil_of_mem_splitBy isUnit with
    | [_], _ =>
        rfl
    | first :: second :: rest, _ =>
        -- Two tokens of one unit would share a phrase.
        have shared : sharePhrase first second = true := by
          simp only [List.isChain_cons_cons] at joined
          exact joined.1
        have inTokens : first ∈ tokens := by
          rw [← List.flatten_splitBy sharePhrase tokens]
          exact List.mem_flatten.mpr ⟨_, isUnit, List.mem_cons_self⟩
        have noPhrase := List.any_eq_false.mp noGrouping first inTokens
        simp only [sharePhrase, Bool.and_eq_true] at shared
        exact (noPhrase shared.1.1).elim
  have sameLength : (unitSizes tokens).length = tokens.length := by
    have total := sum_unitSizes tokens
    rw [List.eq_replicate_of_mem allOne, List.sum_replicate_nat] at total
    simpa using total
  rw [← sameLength]
  exact List.eq_replicate_of_mem allOne

end Token

end ProseRules
