import Mathlib.Data.List.Forall2
import ProseRules.Failure

namespace ProseRules.Outcome

/-!
# Steps that may fail

A step after another one succeeds if both do, and a list of steps succeeds if each
of them does.
-/

variable {ε α β : Type}

/-- A step after another one succeeds exactly if both succeed. -/
theorem bind_eq_ok_iff
    {first : Except ε α}
    {next : α → Except ε β}
    {result : β} :
    first >>= next = .ok result ↔ ∃ value, first = .ok value ∧ next value = .ok result := by
  cases first with
  | error failure =>
      simp [bind, Except.bind]
  | ok value =>
      simp [bind, Except.bind]

/-- Steps that agree on what a step before them gives have the same outcome after it. -/
theorem bind_congr_of_eq_ok
    {first : Except ε α}
    {next other : α → Except ε β}
    (agree : ∀ value, first = .ok value → next value = other value) :
    first >>= next = first >>= other := by
  cases first with
  | error failure =>
      rfl
  | ok value =>
      exact agree value rfl

theorem map_eq_ok_iff
    {outcome : Except ε α}
    {image : α → β}
    {result : β} :
    outcome.map image = .ok result ↔ ∃ value, outcome = .ok value ∧ image value = result := by
  cases outcome <;> simp [Except.map]

/-- A failure in other words is still a failure. -/
theorem eq_ok_of_mapError
    {δ : Type}
    {outcome : Except ε α}
    {reword : ε → δ}
    {value : α}
    (succeeds : outcome.mapError reword = .ok value) :
    outcome = .ok value := by
  cases outcome with
  | error failure =>
      cases succeeds
  | ok result =>
      cases succeeds
      rfl

theorem eq_ok_of_toOption
    {outcome : Except ε α}
    {value : α}
    (isLeft : outcome.toOption = some value) :
    outcome = .ok value := by
  cases outcome with
  | error failure =>
      cases isLeft
  | ok result =>
      cases isLeft
      rfl

theorem exists_eq_ok_of_toOption_map
    {outcome : Except ε α}
    {image : α → β}
    {result : β}
    (isImage : outcome.toOption.map image = some result) :
    ∃ value, outcome = .ok value ∧ image value = result := by
  obtain ⟨value, isLeft, imageIs⟩ := Option.map_eq_some_iff.mp isImage
  exact ⟨value, eq_ok_of_toOption isLeft, imageIs⟩

/-- The steps over a list succeed exactly if each of them does, and give their results in order. -/
theorem mapM_eq_ok_iff
    {step : α → Except ε β}
    {items : List α}
    {results : List β} :
    items.mapM step = .ok results ↔
      List.Forall₂ (fun item result => step item = .ok result) items results := by
  induction items generalizing results with
  | nil =>
      simp [pure, Except.pure, eq_comm]
  | cons item items inductionHypothesis =>
      simp only [List.mapM_cons, bind_eq_ok_iff, inductionHypothesis,
        List.forall₂_cons_left_iff]
      constructor
      · rintro ⟨result, succeeds, later, laterSucceed, shape⟩
        cases shape
        exact ⟨result, later, succeeds, laterSucceed, rfl⟩
      · rintro ⟨result, later, succeeds, laterSucceed, rfl⟩
        exact ⟨result, succeeds, later, laterSucceed, rfl⟩

/-- Steps that succeed with known results give them in order. -/
theorem mapM_eq_ok_map
    {step : α → Except ε β}
    {result : α → β}
    {items : List α}
    (each : ∀ item ∈ items, step item = .ok (result item)) :
    items.mapM step = .ok (items.map result) := by
  rw [mapM_eq_ok_iff, List.forall₂_map_right_iff, List.forall₂_same]
  exact each

/-- Steps that succeed on the images of a list with known results give them in order. -/
theorem mapM_map_eq_ok
    {γ : Type}
    {step : β → Except ε γ}
    {image : α → β}
    {result : α → γ}
    {items : List α}
    (each : ∀ item ∈ items, step (image item) = .ok (result item)) :
    (items.map image).mapM step = .ok (items.map result) := by
  rw [mapM_eq_ok_iff, List.forall₂_map_left_iff, List.forall₂_map_right_iff,
    List.forall₂_same]
  exact each

/-- Steps that lead back from the images of a list give the list again. -/
theorem mapM_map_eq_self
    {step : β → Except ε α}
    {image : α → β}
    {items : List α}
    (each : ∀ item ∈ items, step (image item) = .ok item) :
    (items.map image).mapM step = .ok items := by
  have images := @mapM_map_eq_ok ε α β α step image id items each
  rwa [List.map_id] at images

theorem exists_related_of_mem
    {related : α → β → Prop}
    {items : List α}
    {others : List β}
    (relates : List.Forall₂ related items others)
    {item : α}
    (member : item ∈ items) :
    ∃ other ∈ others, related item other := by
  induction relates with
  | nil =>
      simp at member
  | cons first _ inductionHypothesis =>
      rcases List.mem_cons.mp member with rfl | inLater
      · exact ⟨_, List.mem_cons_self, first⟩
      · obtain ⟨other, otherMember, isRelated⟩ := inductionHypothesis inLater
        exact ⟨other, List.mem_cons_of_mem _ otherMember, isRelated⟩

/-- Every result of a list of steps is that of one of its items. -/
theorem exists_item_of_mem_mapM
    {step : α → Except ε β}
    {items : List α}
    {results : List β}
    (succeeds : items.mapM step = .ok results)
    {result : β}
    (member : result ∈ results) :
    ∃ item ∈ items, step item = .ok result :=
  exists_related_of_mem (mapM_eq_ok_iff.mp succeeds).flip member

/-- The results of a list of steps are those of its items. -/
theorem mem_results_iff
    {step : α → Except ε β}
    {items : List α}
    {results : List β}
    (succeeds : items.mapM step = .ok results)
    {result : β} :
    result ∈ results ↔ ∃ item ∈ items, step item = .ok result := by
  refine ⟨exists_item_of_mem_mapM succeeds, ?_⟩
  rintro ⟨item, member, itemSucceeds⟩
  obtain ⟨found, isResult, isFound⟩ := exists_related_of_mem (mapM_eq_ok_iff.mp succeeds) member
  rw [itemSucceeds, Except.ok.injEq] at isFound
  rwa [isFound]

/-- Two lists that relate to a third one item by item relate to each other. -/
theorem forall₂_of_common
    {γ : Type}
    {first : α → β → Prop}
    {second : α → γ → Prop}
    {third : β → γ → Prop}
    (each : ∀ item left right, first item left → second item right → third left right)
    {items : List α}
    {lefts : List β}
    {rights : List γ}
    (ofLefts : List.Forall₂ first items lefts)
    (ofRights : List.Forall₂ second items rights) :
    List.Forall₂ third lefts rights := by
  induction ofLefts generalizing rights with
  | nil =>
      cases ofRights
      exact .nil
  | cons firstLeft _ inductionHypothesis =>
      cases ofRights with
      | cons firstRight laterRights =>
          exact .cons (each _ _ _ firstLeft firstRight) (inductionHypothesis laterRights)

/-- What relates to rows put one after the other consists of rows that relate to them. -/
theorem exists_rows_of_forall₂_flatten
    {related : α → β → Prop}
    {rows : List (List α)}
    {results : List β}
    (relates : List.Forall₂ related rows.flatten results) :
    ∃ others, List.Forall₂ (List.Forall₂ related) rows others ∧ results = others.flatten := by
  induction rows generalizing results with
  | nil =>
      exact ⟨[], .nil, List.forall₂_nil_left_iff.mp relates⟩
  | cons row rows inductionHypothesis =>
      rw [List.flatten_cons] at relates
      obtain ⟨others, later, areOthers⟩ :=
        inductionHypothesis (List.forall₂_drop_append _ _ _ relates.flip).flip
      refine ⟨results.take row.length :: others, .cons ?_ later, ?_⟩
      · exact (List.forall₂_take_append _ _ _ relates.flip).flip
      · rw [List.flatten_cons, ← areOthers, List.take_append_drop]

/-- What the items have to do with other things carries over to their results. -/
theorem forall₂_of_mapM
    {γ : Type}
    {step : α → Except ε β}
    {related : γ → α → Prop}
    {other : γ → β → Prop}
    (each :
      ∀ origin item result,
        related origin item → step item = .ok result → other origin result)
    {origins : List γ}
    {items : List α}
    (relates : List.Forall₂ related origins items)
    {results : List β}
    (succeeds : items.mapM step = .ok results) :
    List.Forall₂ other origins results := by
  have ofItems : List.Forall₂ (fun item origin => related origin item) items origins :=
    relates.flip
  exact
    forall₂_of_common (fun item origin result => each origin item result) ofItems
      (mapM_eq_ok_iff.mp succeeds)

/-- What an item relates to stands at its place. -/
theorem exists_getElem?_of_forall₂
    {related : α → β → Prop}
    {items : List α}
    {others : List β}
    (relates : List.Forall₂ related items others)
    {place : Nat}
    {item : α}
    (isItem : items[place]? = some item) :
    ∃ other, others[place]? = some other ∧ related item other := by
  induction relates generalizing place with
  | nil =>
      simp at isItem
  | cons first _ inductionHypothesis =>
      cases place with
      | zero =>
          cases isItem
          exact ⟨_, rfl, first⟩
      | succ place =>
          exact inductionHypothesis isItem

/-- The result of an item stands at its place. -/
theorem exists_getElem?_of_mapM
    {step : α → Except ε β}
    {items : List α}
    {results : List β}
    (succeeds : items.mapM step = .ok results)
    {place : Nat}
    {item : α}
    (isItem : items[place]? = some item) :
    ∃ result, results[place]? = some result ∧ step item = .ok result :=
  exists_getElem?_of_forall₂ (mapM_eq_ok_iff.mp succeeds) isItem

/-- A list of steps does not succeed unless the step for each item does. -/
theorem exists_result_of_mem
    {step : α → Except ε β}
    {items : List α}
    {results : List β}
    (succeeds : items.mapM step = .ok results)
    {item : α}
    (member : item ∈ items) :
    ∃ result, step item = .ok result := by
  obtain ⟨result, _, isResult⟩ := exists_related_of_mem (mapM_eq_ok_iff.mp succeeds) member
  exact ⟨result, isResult⟩

/-- The first step that fails ends a list of steps with its failure. -/
theorem mapM_of_first_failure
    {step : α → Except ε β}
    {earlier later : List α}
    {item : α}
    {failure : ε}
    (succeed : ∀ other ∈ earlier, ∃ result, step other = .ok result)
    (fails : step item = .error failure) :
    (earlier ++ item :: later).mapM step = .error failure := by
  induction earlier with
  | nil =>
      simp [fails, bind, Except.bind]
  | cons first earlier inductionHypothesis =>
      obtain ⟨⟨result, firstSucceeds⟩, laterSucceed⟩ := List.forall_mem_cons.mp succeed
      simp [firstSucceeds, inductionHypothesis laterSucceed, bind, Except.bind]

/-- Steps that succeed for every item succeed for the list, with a result for each. -/
theorem exists_mapM_eq_ok
    {step : α → Except ε β}
    {items : List α}
    (each : ∀ item ∈ items, ∃ result, step item = .ok result) :
    ∃ results, items.mapM step = .ok results ∧ results.length = items.length := by
  induction items with
  | nil =>
      exact ⟨[], rfl, rfl⟩
  | cons item items inductionHypothesis =>
      obtain ⟨⟨result, succeeds⟩, laterSucceed⟩ := List.forall_mem_cons.mp each
      obtain ⟨later, run, length⟩ := inductionHypothesis laterSucceed
      refine ⟨result :: later, ?_, by simp [length]⟩
      rw [mapM_eq_ok_iff] at run ⊢
      exact .cons succeeds run

/-- Steps that leave items out without a failure succeed like the steps of the other items. -/
theorem filterMap_mapM_eq
    {step : α → Except ε (Option β)}
    {other : α → Except ε β}
    {isKept : α → Prop}
    [DecidablePred isKept]
    {items : List α}
    (each :
      ∀ item ∈ items, step item = if isKept item then (other item).map some else .ok none) :
    (do
        let results ← items.mapM step
        return results.filterMap fun entry => entry) =
      (items.filter fun item => isKept item).mapM other := by
  induction items with
  | nil =>
      rfl
  | cons item items inductionHypothesis =>
      obtain ⟨first, later⟩ := List.forall_mem_cons.mp each
      -- An item that is left out does not hide the failure of a later one.
      rw [List.mapM_cons, first]
      by_cases kept : isKept item
      · rw [if_pos kept, List.filter_cons_of_pos (by simpa using kept), List.mapM_cons,
          ← inductionHypothesis later]
        cases other item with
        | error failure =>
            rfl
        | ok result =>
            cases items.mapM step <;> rfl
      · rw [if_neg kept, List.filter_cons_of_neg (by simpa using kept),
          ← inductionHypothesis later]
        cases items.mapM step <;> rfl

/-- The result of a step after another one is changed by changing that of the step. -/
theorem map_bind
    {δ : Type}
    (first : Except ε α)
    (next : α → Except ε β)
    (image : β → δ) :
    (first >>= next).map image = first >>= fun value => (next value).map image := by
  cases first <;> rfl

/-- Steps whose results are changed one by one change the results of the list. -/
theorem mapM_eq_map_mapM
    {δ : Type}
    {step : α → Except ε β}
    {other : α → Except ε δ}
    {image : β → δ}
    (each : ∀ item, other item = (step item).map image)
    (items : List α) :
    items.mapM other = (items.mapM step).map (List.map image) := by
  induction items with
  | nil =>
      rfl
  | cons item items inductionHypothesis =>
      rw [List.mapM_cons, List.mapM_cons, each, inductionHypothesis]
      cases step item with
      | error failure =>
          rfl
      | ok result =>
          cases items.mapM step <;> rfl

/-- Steps that agree up to changes of their results have results that agree so. -/
theorem map_mapM_eq
    {γ δ : Type}
    {step : α → Except ε β}
    {other : α → Except ε γ}
    {image : β → δ}
    {image' : γ → δ}
    (each : ∀ item, (step item).map image = (other item).map image')
    (items : List α) :
    (items.mapM step).map (List.map image) = (items.mapM other).map (List.map image') := by
  have changed := mapM_eq_map_mapM (fun item => (each item).trans rfl) items
  exact (mapM_eq_map_mapM (fun _ => rfl) items).symm.trans changed

/-- Steps whose results are changed, each by its item, change the results of the list. -/
theorem mapM_map_eq
    {γ : Type}
    (step : α → Except ε β)
    (image : α → β → γ)
    (items : List α) :
    (items.mapM fun item => (step item).map (image item)) =
      (items.mapM step).map (List.zipWith image items) := by
  induction items with
  | nil =>
      rfl
  | cons item items inductionHypothesis =>
      rw [List.mapM_cons, List.mapM_cons, inductionHypothesis]
      cases step item with
      | error failure =>
          rfl
      | ok result =>
          cases items.mapM step <;> rfl

/-- Steps that agree on the items of a list have the same outcome. -/
theorem mapM_congr
    {step other : α → Except ε β}
    {items : List α}
    (each : ∀ item ∈ items, step item = other item) :
    items.mapM step = items.mapM other := by
  induction items with
  | nil =>
      rfl
  | cons item items inductionHypothesis =>
      obtain ⟨first, later⟩ := List.forall_mem_cons.mp each
      rw [List.mapM_cons, List.mapM_cons, first, inductionHypothesis later]

/-- Steps over rows put one after the other give the results of the rows one after the other. -/
theorem mapM_flatMap
    {γ : Type}
    (step : β → Except ε γ)
    (row : α → List β)
    (items : List α) :
    (items.flatMap row).mapM step =
      (items.mapM fun item => (row item).mapM step).map List.flatten := by
  induction items with
  | nil =>
      rfl
  | cons item items inductionHypothesis =>
      rw [List.flatMap_cons, List.mapM_append, inductionHypothesis, List.mapM_cons]
      cases (row item).mapM step with
      | error failure =>
          rfl
      | ok results =>
          cases items.mapM fun item => (row item).mapM step <;> rfl

end ProseRules.Outcome
