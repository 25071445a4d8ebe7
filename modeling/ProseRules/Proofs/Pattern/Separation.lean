import ProseRules.Proofs.Pattern.Cuts

namespace ProseRules

/-!
# Words that no pattern takes

At a word that no step of a thread takes, the thread is complete as it is or ends. So the
ranges of words found around such a word are those found before it and those found after it.
-/

/-- No step takes the word. -/
def Step.NoneTakes (steps : List Step) (word : Word) : Prop :=
  ∀ step ∈ steps, step.test.holds word = false

theorem Step.test_of_mem_ofToken
    {token : Token}
    {index : Nat}
    {test : ReadyTest}
    {step : Step}
    (member : step ∈ ofToken token index test) :
    step.test = test := by
  unfold ofToken at member
  rcases List.mem_append.mp member with needed | further
  · rw [List.eq_of_mem_replicate needed]
  · split at further
    · rw [List.mem_singleton.mp further]
    · rw [List.eq_of_mem_replicate further]

/-- The steps of tokens none of which a word passes do not take it. -/
theorem Step.noneTakes_of_not_admits
    {index : Nat}
    {tokens : List Token}
    {steps : List Step}
    (compiled : ofTokensFrom index tokens = .ok steps)
    {word : Word}
    (noneAdmits : ∀ token ∈ tokens, ¬token.Admits word) :
    NoneTakes steps word := by
  induction tokens generalizing index steps with
  | nil =>
      cases compiled
      exact List.forall_mem_nil _
  | cons token rest inductionHypothesis =>
      obtain ⟨notThis, noneOfRest⟩ := List.forall_mem_cons.mp noneAdmits
      obtain ⟨test, later, prepared, compiledRest, rfl⟩ :=
        ofTokensFrom_cons_eq_ok_iff.mp compiled
      have refuses : test.holds word = false := by
        by_contra passes
        exact notThis ⟨test, prepared, Bool.not_eq_false _ ▸ passes⟩
      intro step member
      rcases List.mem_append.mp member with ofFirst | ofRest
      · rw [test_of_mem_ofToken ofFirst, refuses]
      · exact inductionHypothesis compiledRest noneOfRest step ofRest

namespace Thread

/-- At a word that no step takes a thread is complete as it is, and none goes on. -/
theorem advanceOver_of_noneTakes
    {word : Word}
    {steps : List Step}
    (noneTakes : Step.NoneTakes steps word)
    (stepsLeft : steps ≠ [])
    (trail : List Nat) :
    advanceOver word trail steps = { completed := (completed? ⟨steps, trail⟩).toList } := by
  induction steps with
  | nil =>
      exact (stepsLeft rfl).elim
  | cons step rest inductionHypothesis =>
      obtain ⟨notThis, noneOfRest⟩ := List.forall_mem_cons.mp noneTakes
      unfold advanceOver
      rw [notThis]
      cases kind : step.kind with
      | once =>
          simp [completed?, Step.isSkippable, kind]
      | optional =>
          cases rest with
          | nil =>
              simp [completed?, Step.isSkippable, kind]
          | cons next later =>
              simp [inductionHypothesis noneOfRest, completed?, Step.isSkippable, kind]
      | repeated =>
          cases rest with
          | nil =>
              simp [completed?, Step.isSkippable, kind]
          | cons next later =>
              simp [inductionHypothesis noneOfRest, completed?, Step.isSkippable, kind]

/-- Threads see no further than a word that none of their steps takes. -/
theorem trails_append_of_noneTakes
    {separator : Word}
    {threads : List Thread}
    (noneTakes : ∀ thread ∈ threads, Step.NoneTakes thread.steps separator)
    (stepsLeft : ∀ thread ∈ threads, thread.steps ≠ [])
    (before after : List Word) :
    trails threads (before ++ separator :: after) = trails threads before := by
  induction before generalizing threads with
  | nil =>
      have ends :
          ∀ thread ∈ threads,
            thread.advance separator = { completed := (completed? thread).toList } :=
        fun thread member =>
          advanceOver_of_noneTakes (noneTakes thread member) (stepsLeft thread member) _
      have noneGoesOn :
          ∀ select : Advance → List Thread,
            (∀ completed, select { completed := completed } = []) →
              (threads.map (·.advance separator)).flatMap select = [] := by
        intro select isEmpty
        rw [List.map_congr_left ends, List.flatMap_map, List.flatMap_eq_nil_iff]
        exact fun thread _ => isEmpty _
      simp only [List.nil_append, trails, noneGoesOn (·.kept) fun _ => rfl,
        noneGoesOn (·.branched) fun _ => rfl, trails_no_threads, List.append_nil]
      rw [List.map_congr_left ends, List.flatMap_map, List.filterMap_eq_flatMap_toList]
  | cons word before inductionHypothesis =>
      simp only [List.cons_append, trails]
      have ofOrigin :
          ∀ thread ∈
              (threads.map (·.advance word)).flatMap (·.kept) ++
                (threads.map (·.advance word)).flatMap (·.branched),
            ∃ origin ∈ threads,
              thread ∈ successors (advanceOver word origin.trail origin.steps) := by
        intro thread member
        simp only [List.mem_append, List.mem_flatMap, List.mem_map] at member
        rcases member with
          ⟨_, ⟨origin, isOrigin, rfl⟩, kept⟩ | ⟨_, ⟨origin, isOrigin, rfl⟩, branched⟩
        · exact ⟨origin, isOrigin, List.mem_append_left _ kept⟩
        · exact ⟨origin, isOrigin, List.mem_append_right _ branched⟩
      rw [inductionHypothesis]
      · intro thread member step isStep
        obtain ⟨origin, isOrigin, successor⟩ := ofOrigin thread member
        exact noneTakes origin isOrigin step ((steps_of_mem_successors successor).2 isStep)
      · intro thread member
        obtain ⟨origin, _, successor⟩ := ofOrigin thread member
        exact (steps_of_mem_successors successor).1

end Thread

/-- The candidate as many words later. -/
def Candidate.later (candidate : Candidate) (count : Nat) : Candidate where
  start := candidate.start + count
  alignment := candidate.alignment

@[simp] theorem Candidate.start_later
    (candidate : Candidate)
    (count : Nat) :
    (candidate.later count).start = candidate.start + count :=
  rfl

@[simp] theorem Candidate.stop_later
    (candidate : Candidate)
    (count : Nat) :
    (candidate.later count).stop = candidate.stop + count := by
  simp only [stop, later]
  omega

section Candidates

variable {patterns : List (List Step)} {separator : Word}

theorem candidatesFrom_later
    (start count : Nat)
    (words : List Word) :
    candidatesFrom patterns (start + count) words =
      (candidatesFrom patterns start words).map (·.later count) := by
  simp [candidatesFrom, Candidate.later]

/-- No pattern takes words from the separator on. -/
theorem candidatesFrom_eq_nil
    (start : Nat) :
    candidatesFrom patterns start [] = [] := by
  have allEmpty :
      (Thread.trails (patterns.map fun steps => ⟨steps, []⟩) []).filter (!·.isEmpty) = [] := by
    rw [List.filter_eq_nil_iff]
    intro trail member
    simp only [Thread.trails, List.mem_filterMap, List.mem_map] at member
    obtain ⟨_, ⟨steps, _, rfl⟩, completes⟩ := member
    unfold Thread.completed? at completes
    split at completes <;> cases completes
    simp
  simp [candidatesFrom, allEmpty]

/-- The ranges around a word that no pattern takes are those before it and those after it. -/
theorem candidates_append_of_noneTakes
    (nonempty : ∀ steps ∈ patterns, steps ≠ [])
    (noneTakes : ∀ steps ∈ patterns, Step.NoneTakes steps separator)
    (before after : List Word) :
    candidates patterns (before ++ separator :: after) =
      candidates patterns before ++
        (candidates patterns after).map (·.later (before.length + 1)) := by
  have upToSeparator
      (start : Nat)
      (words : List Word) :
      candidatesFrom patterns start (words ++ separator :: after) =
        candidatesFrom patterns start words := by
    unfold candidatesFrom
    rw [Thread.trails_append_of_noneTakes]
    · intro thread member
      obtain ⟨steps, isPattern, rfl⟩ := List.mem_map.mp member
      exact noneTakes steps isPattern
    · intro thread member
      obtain ⟨steps, isPattern, rfl⟩ := List.mem_map.mp member
      exact nonempty steps isPattern
  have places :
      List.range (before ++ separator :: after).length =
        List.range before.length ++
          before.length :: (List.range after.length).map (· + (before.length + 1)) := by
    rw [List.length_append, List.length_cons, List.range_add, List.range_succ_eq_map]
    simp [Function.comp_def, Nat.add_comm, Nat.add_left_comm]
  have atFirst :
      (List.range before.length).flatMap (fun start =>
          candidatesFrom patterns start ((before ++ separator :: after).drop start)) =
        candidates patterns before := by
    refine List.flatMap_congr fun start inside => ?_
    rw [List.drop_append_of_le_length (Nat.le_of_lt (List.mem_range.mp inside)), upToSeparator]
  have atSeparator :
      candidatesFrom patterns before.length
          ((before ++ separator :: after).drop before.length) = [] := by
    rw [List.drop_left, ← List.nil_append (separator :: after), upToSeparator,
      candidatesFrom_eq_nil]
  have atLast
      (start : Nat) :
      candidatesFrom patterns (start + (before.length + 1))
          ((before ++ separator :: after).drop (start + (before.length + 1))) =
        (candidatesFrom patterns start (after.drop start)).map
          (·.later (before.length + 1)) := by
    rw [candidatesFrom_later, List.append_cons, Nat.add_comm start, ← List.drop_drop,
      show before.length + 1 = (before ++ [separator]).length by simp, List.drop_left]
  rw [candidates, places, List.flatMap_append, List.flatMap_cons, List.flatMap_map, atFirst,
    atSeparator, List.nil_append]
  simp only [atLast, candidates, List.map_flatMap]

end Candidates

end ProseRules
