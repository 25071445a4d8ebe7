import Mathlib.Data.List.Forall2
import Mathlib.Logic.ExistsUnique
import ProseRules.Definition.Expansion

namespace ProseRules

/-!
# Places of combinations

There are as many combinations as the product of the numbers of choices. A combination is
given by the place of its choice in each list, and it stands where these places read as
the digits of a number whose last digit varies fastest.
-/

variable {α β : Type}

/-- The number of ways to choose one element of each list. -/
def combinationCount : List (List α) → Nat
  | [] => 1
  | choices :: rest => choices.length * combinationCount rest

/-- There is an element at the place picked in each list. -/
def ArePicks (choices : List (List α)) (picks : List Nat) : Prop :=
  List.Forall₂ (fun choice pick => pick < choice.length) choices picks

/-- The elements at the places picked. -/
def picked (choices : List (List α)) (picks : List Nat) : List α :=
  (choices.zip picks).filterMap fun (choice, pick) => choice[pick]?

/-- The place of a combination among all, the last pick varying fastest. -/
def combinationPlace : (choices : List (List α)) → (picks : List Nat) → Nat
  | _ :: rest, pick :: picks => pick * combinationCount rest + combinationPlace rest picks
  | _, _ => 0

/-- A combination has one element of each list. -/
theorem mem_combinations_iff
    {choices : List (List α)}
    {combination : List α} :
    combination ∈ combinations choices ↔
      List.Forall₂ (fun choice offered => choice ∈ offered) combination choices := by
  induction choices generalizing combination with
  | nil =>
      rw [combinations, List.mem_singleton, List.forall₂_nil_right_iff]
  | cons offered choices inductionHypothesis =>
      simp only [combinations, List.mem_flatMap, List.mem_map, inductionHypothesis,
        List.forall₂_cons_right_iff]
      constructor
      · rintro ⟨choice, isOffered, rest, isRest, rfl⟩
        exact ⟨choice, rest, isOffered, isRest, rfl⟩
      · rintro ⟨choice, rest, isOffered, isRest, rfl⟩
        exact ⟨choice, isOffered, rest, isRest, rfl⟩

theorem exists_combination
    {choices : List (List α)}
    (nonempty : ∀ offered ∈ choices, offered ≠ []) :
    ∃ combination, combination ∈ combinations choices := by
  induction choices with
  | nil =>
      exact ⟨[], List.mem_singleton_self _⟩
  | cons offered choices inductionHypothesis =>
      obtain ⟨firstNonempty, laterNonempty⟩ := List.forall_mem_cons.mp nonempty
      obtain ⟨choice, isChoice⟩ := List.exists_mem_of_ne_nil offered firstNonempty
      obtain ⟨rest, isRest⟩ := inductionHypothesis laterNonempty
      rw [mem_combinations_iff] at isRest
      exact ⟨choice :: rest, mem_combinations_iff.mpr (.cons isChoice isRest)⟩

/-- If every list has an element, each element of a list is in some combination. -/
theorem exists_combination_of_mem
    {choices : List (List α)}
    (nonempty : ∀ offered ∈ choices, offered ≠ [])
    {offered : List α}
    (isOffered : offered ∈ choices)
    {choice : α}
    (isChoice : choice ∈ offered) :
    ∃ combination ∈ combinations choices, choice ∈ combination := by
  obtain ⟨earlier, later, rfl⟩ := List.append_of_mem isOffered
  obtain ⟨before, isBefore⟩ :=
    exists_combination fun other member => nonempty other (List.mem_append_left _ member)
  obtain ⟨after, isAfter⟩ :=
    exists_combination fun other member =>
      nonempty other (List.mem_append_right _ (List.mem_cons_of_mem _ member))
  rw [mem_combinations_iff] at isBefore isAfter
  refine ⟨before ++ choice :: after, mem_combinations_iff.mpr ?_, by simp⟩
  exact List.rel_append isBefore (.cons isChoice isAfter)

theorem length_combinations
    (choices : List (List α)) :
    (combinations choices).length = combinationCount choices := by
  induction choices with
  | nil =>
      rfl
  | cons choice rest inductionHypothesis =>
      simp [combinations, combinationCount, inductionHypothesis, List.length_flatMap,
        List.map_const']

/-- In lists of one length put together, an element is found by the list and its place there. -/
theorem getElem?_flatMap_of_length
    {elements : List α}
    {image : α → List β}
    {length : Nat}
    (sameLength : ∀ element, (image element).length = length)
    {outer inner : Nat}
    (inside : inner < length) :
    (elements.flatMap image)[outer * length + inner]? =
      (elements[outer]?).bind fun element => (image element)[inner]? := by
  induction elements generalizing outer with
  | nil =>
      simp
  | cons element elements inductionHypothesis =>
      rw [List.flatMap_cons]
      cases outer with
      | zero =>
          rw [Nat.zero_mul, Nat.zero_add, List.getElem?_append_left (by rwa [sameLength])]
          rfl
      | succ outer =>
          have shifted : (outer + 1) * length + inner = length + (outer * length + inner) := by
            rw [Nat.succ_mul]
            omega
          rw [List.getElem?_append_right (by rw [sameLength, shifted]; omega), sameLength, shifted,
            Nat.add_sub_cancel_left, inductionHypothesis, List.getElem?_cons_succ]

theorem combinationPlace_lt
    {choices : List (List α)}
    {picks : List Nat}
    (arePicks : ArePicks choices picks) :
    combinationPlace choices picks < combinationCount choices := by
  induction arePicks with
  | nil =>
      exact Nat.zero_lt_one
  | @cons choice pick rest picks inside _ inductionHypothesis =>
      rw [combinationPlace, combinationCount]
      calc
        pick * combinationCount rest + combinationPlace rest picks
          < pick * combinationCount rest + combinationCount rest :=
            Nat.add_lt_add_left inductionHypothesis _
        _ = (pick + 1) * combinationCount rest := (Nat.succ_mul _ _).symm
        _ ≤ choice.length * combinationCount rest := Nat.mul_le_mul_right _ inside

/-- The combination of some picks stands at their place. -/
theorem getElem?_combinations
    {choices : List (List α)}
    {picks : List Nat}
    (arePicks : ArePicks choices picks) :
    (combinations choices)[combinationPlace choices picks]? = some (picked choices picks) := by
  induction arePicks with
  | nil =>
      rfl
  | @cons choice pick rest picks inside restPicks inductionHypothesis =>
      have sameLength :
          ∀ element : α,
            ((combinations rest).map (element :: ·)).length = combinationCount rest := by
        intro element
        rw [List.length_map, length_combinations]
      rw [combinations, combinationPlace,
        getElem?_flatMap_of_length sameLength (combinationPlace_lt restPicks),
        List.getElem?_eq_getElem inside, Option.bind_some, List.getElem?_map,
        inductionHypothesis]
      simp [picked, inside]

theorem exists_picks
    {choices : List (List α)}
    {place : Nat}
    (inside : place < combinationCount choices) :
    ∃ picks, ArePicks choices picks ∧ combinationPlace choices picks = place := by
  induction choices generalizing place with
  | nil =>
      rw [combinationCount, Nat.lt_one_iff] at inside
      exact ⟨[], .nil, inside.symm⟩
  | cons choice rest inductionHypothesis =>
      rw [combinationCount] at inside
      have someRest : 0 < combinationCount rest :=
        Nat.pos_of_ne_zero fun noRest => by simp [noRest] at inside
      obtain ⟨picks, arePicks, isPlace⟩ := inductionHypothesis (Nat.mod_lt place someRest)
      refine ⟨place / combinationCount rest :: picks, .cons ?_ arePicks, ?_⟩
      · rwa [Nat.div_lt_iff_lt_mul someRest]
      · rw [combinationPlace, isPlace, Nat.mul_comm]
        exact Nat.div_add_mod place (combinationCount rest)

theorem combinationPlace_injective
    {choices : List (List α)}
    {first second : List Nat}
    (firstPicks : ArePicks choices first)
    (secondPicks : ArePicks choices second)
    (samePlace : combinationPlace choices first = combinationPlace choices second) :
    first = second := by
  induction firstPicks generalizing second with
  | nil =>
      cases secondPicks
      rfl
  | @cons choice pick rest picks _ restPicks inductionHypothesis =>
      cases secondPicks with
      | @cons _ other _ others _ otherPicks =>
          have restInside := combinationPlace_lt restPicks
          have otherInside := combinationPlace_lt otherPicks
          have someRest := Nat.zero_lt_of_lt restInside
          simp only [combinationPlace] at samePlace
          have samePick : pick = other := by
            have quotient := congrArg (· / combinationCount rest) samePlace
            simpa [Nat.mul_comm _ (combinationCount rest), Nat.mul_add_div someRest,
              Nat.div_eq_of_lt restInside, Nat.div_eq_of_lt otherInside] using quotient
          subst samePick
          rw [inductionHypothesis otherPicks (Nat.add_left_cancel samePlace)]

/-- Every combination is that of some picks. -/
theorem exists_picks_of_mem_combinations
    {choices : List (List α)}
    {combination : List α}
    (member : combination ∈ combinations choices) :
    ∃ picks, ArePicks choices picks ∧ picked choices picks = combination := by
  obtain ⟨place, isCombination⟩ := List.mem_iff_getElem?.mp member
  have inside := (List.getElem?_eq_some_iff.mp isCombination).1
  rw [length_combinations] at inside
  obtain ⟨picks, arePicks, rfl⟩ := exists_picks inside
  rw [getElem?_combinations arePicks, Option.some.injEq] at isCombination
  exact ⟨picks, arePicks, isCombination⟩

/-- Each place is that of exactly one list of picks. -/
theorem existsUnique_picks
    {choices : List (List α)}
    {place : Nat}
    (inside : place < combinationCount choices) :
    ∃! picks, ArePicks choices picks ∧ combinationPlace choices picks = place := by
  obtain ⟨picks, arePicks, isPlace⟩ := exists_picks inside
  refine ⟨picks, ⟨arePicks, isPlace⟩, ?_⟩
  rintro others ⟨otherPicks, otherPlace⟩
  exact combinationPlace_injective otherPicks arePicks (otherPlace.trans isPlace.symm)

section Related

variable {related : α → β → Prop} {choices : List (List α)} {others : List (List β)}

/-- Lists of as many choices have their combinations at the same places. -/
theorem combinationCount_place_eq
    (relates : List.Forall₂ (List.Forall₂ related) choices others)
    (picks : List Nat) :
    combinationCount choices = combinationCount others ∧
      combinationPlace choices picks = combinationPlace others picks := by
  induction relates generalizing picks with
  | nil =>
      exact ⟨rfl, rfl⟩
  | cons first _ inductionHypothesis =>
      refine ⟨?_, ?_⟩
      · rw [combinationCount, combinationCount, first.length_eq, (inductionHypothesis []).1]
      · cases picks with
        | nil =>
            rfl
        | cons pick picks =>
            obtain ⟨sameCount, samePlace⟩ := inductionHypothesis picks
            rw [combinationPlace, combinationPlace, sameCount, samePlace]

theorem ArePicks.picked_related
    (relates : List.Forall₂ (List.Forall₂ related) choices others)
    {picks : List Nat}
    (arePicks : ArePicks choices picks) :
    ArePicks others picks ∧ List.Forall₂ related (picked choices picks) (picked others picks) := by
  induction relates generalizing picks with
  | nil =>
      cases arePicks
      exact ⟨.nil, .nil⟩
  | @cons choice other _ _ first _ inductionHypothesis =>
      cases arePicks with
      | @cons _ pick _ picks inside restPicks =>
          obtain ⟨otherPicks, pickedRelated⟩ := inductionHypothesis restPicks
          have otherInside : pick < other.length := first.length_eq ▸ inside
          refine ⟨.cons otherInside otherPicks, ?_⟩
          simp only [picked, List.zip_cons_cons, List.filterMap_cons,
            List.getElem?_eq_getElem inside, List.getElem?_eq_getElem otherInside]
          exact .cons (first.get inside otherInside) pickedRelated

/-- Picks of choices are picks of choices they relate to. -/
theorem ArePicks.of_related
    (relates : List.Forall₂ (List.Forall₂ related) choices others)
    {picks : List Nat}
    (otherPicks : ArePicks others picks) :
    ArePicks choices picks := by
  have flipped :
      List.Forall₂ (List.Forall₂ fun other element => related element other) others choices := by
    apply List.Forall₂.flip
    exact relates.imp fun _ _ sameRow => sameRow.flip
  exact (otherPicks.picked_related flipped).1

end Related

end ProseRules
