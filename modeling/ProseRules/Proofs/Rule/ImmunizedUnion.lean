import ProseRules.Proofs.Rule.Failures
import ProseRules.Proofs.Rule.Immunization

namespace ProseRules

/-!
# Immunizing by one list of anti-patterns after another

Anti-patterns immunize the words that one of them covers, and they fail with a refusal of one
of their tokens or not at all. Both depend on which anti-patterns there are and not on their
order, so the anti-patterns of two lists can be given at once or one list after the other.
-/

/-- Two ways to immunize come to the same: both fail, or both have the same words immunized. -/
inductive ImmunizesAlike : Except Failure Sentence → Except Failure Sentence → Prop where
  | bothFail (first second : Failure) :
      ImmunizesAlike (.error first) (.error second)
  | sameWords {left right : Sentence} :
      (∀ index, index ∈ left.immunized ↔ index ∈ right.immunized) →
      ImmunizesAlike (.ok left) (.ok right)

/-- Of two sentences the second has at least the words of the first immunized, and is like it. -/
structure Sentence.IsExtendedBy (sentence immunized : Sentence) : Prop where
  keepsImmunized : sentence.immunized ⊆ immunized.immunized
  sameWords : immunized.words = sentence.words
  sameIndex : immunized.index = sentence.index
  sameText : immunized.text = sentence.text
  sameVocabulary : immunized.vocabulary = sentence.vocabulary

/-- What fails by refusals of the same tokens comes to the same if the immunized words agree. -/
theorem ImmunizesAlike.of_failsByRefusal
    {tokens others : List Token}
    {first second : Except Failure Sentence}
    (firstFails : FailsByRefusal tokens first)
    (secondFails : FailsByRefusal others second)
    (sameTokens : ∀ token, token ∈ tokens ↔ token ∈ others)
    (sameWords :
      ∀ left right, first = .ok left → second = .ok right →
        ∀ index, index ∈ left.immunized ↔ index ∈ right.immunized) :
    ImmunizesAlike first second := by
  have succeedTogether : (∃ left, first = .ok left) ↔ ∃ right, second = .ok right := by
    rw [firstFails.exists_eq_ok_iff, secondFails.exists_eq_ok_iff]
    exact forall_congr' fun token => imp_congr_left (sameTokens token)
  cases first with
  | error failure =>
      cases second with
      | error other =>
          exact .bothFail failure other
      | ok right =>
          obtain ⟨_, isError⟩ := succeedTogether.mpr ⟨right, rfl⟩
          cases isError
  | ok left =>
      obtain ⟨right, rfl⟩ := succeedTogether.mp ⟨left, rfl⟩
      exact .sameWords (sameWords left right rfl rfl)

theorem ImmunizesAlike.mem_iff
    {first second : Except Failure Sentence}
    (alike : ImmunizesAlike first second)
    {left right : Sentence}
    (isLeft : first = .ok left)
    (isRight : second = .ok right)
    (index : Int) :
    index ∈ left.immunized ↔ index ∈ right.immunized := by
  cases alike with
  | bothFail =>
      cases isLeft
  | sameWords same =>
      cases isLeft
      cases isRight
      exact same index

/-- One list of anti-patterns after another fails with the refusal of a token of either. -/
theorem failsByRefusal_immunize_twice
    (antipatterns others : List (List Token))
    (sentence : Sentence) :
    FailsByRefusal (antipatterns.flatten ++ others.flatten)
      (immunizeByAntipatterns antipatterns sentence >>= immunizeByAntipatterns others) :=
  (failsByRefusal_immunizeByAntipatterns antipatterns sentence).bind fun immunized _ =>
    failsByRefusal_immunizeByAntipatterns others immunized

/-- One list of anti-patterns after another immunizes the words that one of either covers. -/
theorem mem_immunized_twice_iff
    {antipatterns others : List (List Token)}
    {sentence immunized : Sentence}
    (succeeds :
      immunizeByAntipatterns antipatterns sentence >>= immunizeByAntipatterns others =
        .ok immunized)
    {index : Int} :
    index ∈ immunized.immunized ↔
      index ∈ sentence.immunized ∨
        ∃ tokens ∈ antipatterns ++ others, Token.Covers tokens sentence.words index := by
  obtain ⟨between, first, second⟩ := Outcome.bind_eq_ok_iff.mp succeeds
  rw [mem_immunized_iff second, mem_immunized_iff first, words_of_immunizeByAntipatterns first]
  simp only [List.mem_append, or_and_right, exists_or, or_assoc]

section Lists

variable (antipatterns others : List (List Token)) (sentence : Sentence)

theorem immunizesAlike_append :
    ImmunizesAlike (immunizeByAntipatterns (antipatterns ++ others) sentence)
      (immunizeByAntipatterns antipatterns sentence >>= immunizeByAntipatterns others) := by
  refine .of_failsByRefusal (failsByRefusal_immunizeByAntipatterns _ _)
    (failsByRefusal_immunize_twice _ _ _) (by simp) fun left right atOnce twice index => ?_
  rw [mem_immunized_iff atOnce, mem_immunized_twice_iff twice]

theorem immunizesAlike_of_perm
    {antipatterns others : List (List Token)}
    (reordered : antipatterns.Perm others) :
    ImmunizesAlike (immunizeByAntipatterns antipatterns sentence)
      (immunizeByAntipatterns others sentence) := by
  refine .of_failsByRefusal (failsByRefusal_immunizeByAntipatterns _ _)
    (failsByRefusal_immunizeByAntipatterns _ _) (fun token => reordered.flatten.mem_iff)
    fun left right first second index => ?_
  rw [mem_immunized_iff first, mem_immunized_iff second]
  simp only [reordered.mem_iff]

/-- Words that are immunized already are covered again by the same anti-patterns. -/
theorem immunizesAlike_again :
    ImmunizesAlike
      (immunizeByAntipatterns antipatterns sentence >>= immunizeByAntipatterns antipatterns)
      (immunizeByAntipatterns antipatterns sentence) := by
  refine .of_failsByRefusal (failsByRefusal_immunize_twice _ _ _)
    (failsByRefusal_immunizeByAntipatterns _ _) (by simp) fun left right twice once index => ?_
  rw [mem_immunized_twice_iff twice, mem_immunized_iff once]
  simp only [List.mem_append, or_self]

end Lists

theorem isExtendedBy_of_immunizeByAntipatterns
    {antipatterns : List (List Token)}
    {sentence immunized : Sentence}
    (succeeds : immunizeByAntipatterns antipatterns sentence = .ok immunized) :
    sentence.IsExtendedBy immunized := by
  have sameWords := words_of_immunizeByAntipatterns succeeds
  refine ⟨fun index isImmunized => ?_, sameWords, ?_, ?_, ?_⟩
  · exact (mem_immunized_iff succeeds).mpr (.inl isImmunized)
  · simp only [immunizeByAntipatterns] at succeeds
    split at succeeds
    · cases succeeds
      rfl
    · obtain ⟨indices, _, result⟩ := Outcome.bind_eq_ok_iff.mp succeeds
      cases result
      split <;> rfl
  · rw [Sentence.text, Sentence.text, sameWords]
  · rw [Sentence.vocabulary, Sentence.vocabulary, sameWords]

/--
The anti-patterns of two lists immunize the same words at once as one list after the other, or
both ways fail. So neither their order nor giving them twice makes a difference. Nothing but the
immunized words of a sentence changes, and none of them is lost.
-/
theorem immunizeByAntipatterns_composes
    (antipatterns others : List (List Token))
    (sentence : Sentence) :
    ImmunizesAlike (immunizeByAntipatterns (antipatterns ++ others) sentence)
        (immunizeByAntipatterns antipatterns sentence >>= immunizeByAntipatterns others) ∧
      (∀ reordered,
          reordered.Perm antipatterns →
            ImmunizesAlike (immunizeByAntipatterns reordered sentence)
              (immunizeByAntipatterns antipatterns sentence)) ∧
        ImmunizesAlike
            (immunizeByAntipatterns antipatterns sentence >>= immunizeByAntipatterns antipatterns)
            (immunizeByAntipatterns antipatterns sentence) ∧
          ∀ immunized,
            immunizeByAntipatterns antipatterns sentence = .ok immunized →
              sentence.IsExtendedBy immunized :=
  ⟨immunizesAlike_append antipatterns others sentence,
    fun _ reordered => immunizesAlike_of_perm sentence reordered,
    immunizesAlike_again antipatterns sentence,
    fun _ => isExtendedBy_of_immunizeByAntipatterns⟩

/-- A given word, and no word at all. -/
def fineOrNothing : List (List Token) :=
  [[.literal "fine" false false], []]

/-- Two words in a row, the second of which is given. -/
def beforeNow : List Token :=
  [.placeholder (.text ""), .literal "now" false false]

/-- Three words the last of which is immunized, together with one that does not exist. -/
def fineDayEnding : Sentence where
  words := [{ text := "fine" }, { text := "day" }, { text := "now" }]
  immunized := [2, 7]

/--
A word and a pair of words immunize all of three words, given at once or one after the other,
and the word alone does so again in another order.
-/
theorem immunizeByAntipatterns_composes_beforeNow :
    ∃ atOnce after reordered,
      immunizeByAntipatterns (fineOrNothing ++ [beforeNow]) fineDayEnding = .ok atOnce ∧
        (immunizeByAntipatterns fineOrNothing fineDayEnding >>=
            immunizeByAntipatterns [beforeNow]) = .ok after ∧
          fineOrNothing.reverse.Perm fineOrNothing ∧
            immunizeByAntipatterns fineOrNothing.reverse fineDayEnding = .ok reordered ∧
              atOnce.immunized = [2, 7, 0, 1, 2] ∧
                (∀ index, index ∈ atOnce.immunized ↔ index ∈ after.immunized) ∧
                  fineDayEnding.IsExtendedBy reordered ∧
                    ∀ index, index ∈ reordered.immunized ↔ index ∈ [2, 7, 0] := by
  have atOnce :
      immunizeByAntipatterns (fineOrNothing ++ [beforeNow]) fineDayEnding =
        .ok (fineDayEnding.immunize [0, 1, 2]) := by
    rfl
  have first :
      immunizeByAntipatterns fineOrNothing fineDayEnding = .ok (fineDayEnding.immunize [0]) := by
    rfl
  have after :
      (immunizeByAntipatterns fineOrNothing fineDayEnding >>=
          immunizeByAntipatterns [beforeNow]) =
        .ok ((fineDayEnding.immunize [0]).immunize [1, 2]) := by
    rfl
  have reordered :
      immunizeByAntipatterns fineOrNothing.reverse fineDayEnding =
        .ok (fineDayEnding.immunize [0]) := by
    rfl
  obtain ⟨composes, ofReordered, _, _⟩ :=
    immunizeByAntipatterns_composes fineOrNothing [beforeNow] fineDayEnding
  obtain ⟨_, _, _, extended⟩ :=
    immunizeByAntipatterns_composes fineOrNothing.reverse [] fineDayEnding
  exact
    ⟨_, _, _, atOnce, after, List.reverse_perm _, reordered, rfl, composes.mem_iff atOnce after,
      extended _ reordered,
      (ofReordered _ (List.reverse_perm fineOrNothing)).mem_iff reordered first⟩

end ProseRules
