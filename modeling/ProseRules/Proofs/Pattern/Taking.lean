import ProseRules.Pattern.Run

namespace ProseRules

/-!
# What the steps of a pattern take

Threads run the steps of a pattern over words one after the other. `Step.Takes`
says without threads which words a row of steps takes and to which tokens it
gives them. The threads find exactly that: a trail is found if and only if the
steps of some thread take a beginning of the words in this way.
-/

namespace Step

/-- The steps that remain once a step took a word: a repeated one may take more. -/
def afterTaking (step : Step) (rest : List Step) : List Step :=
  match step.kind with
  | .repeated => step :: rest
  | _ => rest

/-- The steps after one that took a word are among what remains. -/
theorem mem_afterTaking_of_mem
    {step other : Step}
    {rest : List Step}
    (member : other ∈ rest) :
    other ∈ step.afterTaking rest := by
  unfold afterTaking
  split
  · exact List.mem_cons_of_mem step member
  · exact member

/-- What remains of a longer row of steps. -/
theorem afterTaking_append
    (step : Step)
    (rest more : List Step) :
    step.afterTaking (rest ++ more) = step.afterTaking rest ++ more := by
  unfold afterTaking
  split <;> rfl

/-- The steps take all of the words and give them to the tokens of the alignment. -/
inductive Takes : List Step → List Word → List Nat → Prop where
  | nil :
      Takes [] [] []
  | take
      {step : Step} {rest : List Step} {word : Word} {words : List Word}
      {alignment : List Nat} :
      step.test.holds word = true →
      Takes (step.afterTaking rest) words alignment →
      Takes (step :: rest) (word :: words) (step.token :: alignment)
  | skip
      {step : Step} {rest : List Step} {words : List Word} {alignment : List Nat} :
      step.isSkippable = true →
      Takes rest words alignment →
      Takes (step :: rest) words alignment

namespace Takes

/-- Every word taken is given to one token. -/
theorem length_eq
    {steps : List Step}
    {words : List Word}
    {alignment : List Nat}
    (takes : Takes steps words alignment) :
    alignment.length = words.length := by
  induction takes with
  | nil =>
      rfl
  | take _ _ inductionHypothesis =>
      simp [inductionHypothesis]
  | skip _ _ inductionHypothesis =>
      exact inductionHypothesis

/-- Steps take no words exactly if all of them can be skipped. -/
theorem no_words_iff
    {steps : List Step}
    {alignment : List Nat} :
    Takes steps [] alignment ↔
      steps.all isSkippable = true ∧ alignment = [] := by
  constructor
  · intro takes
    have noTokens : alignment = [] :=
      List.eq_nil_of_length_eq_zero (by simpa using takes.length_eq)
    refine ⟨?_, noTokens⟩
    generalize noWords : ([] : List Word) = words at takes
    induction takes with
    | nil =>
        rfl
    | take =>
        cases noWords
    | skip skippable _ inductionHypothesis =>
        simp only [List.all_cons, skippable, Bool.true_and]
        exact inductionHypothesis noTokens noWords
  · rintro ⟨allSkippable, rfl⟩
    induction steps with
    | nil =>
        exact .nil
    | cons step rest inductionHypothesis =>
        rw [List.all_cons, Bool.and_eq_true] at allSkippable
        exact .skip allSkippable.1 (inductionHypothesis allSkippable.2)

/-- A step that cannot be skipped is given a word that passes its test. -/
theorem exists_word_of_once
    {steps : List Step}
    {words : List Word}
    {alignment : List Nat}
    (takes : Takes steps words alignment)
    {step : Step}
    (member : step ∈ steps)
    (once : step.kind = .once) :
    ∃ word ∈ words, step.test.holds word = true := by
  induction takes with
  | nil =>
      simp at member
  | take passed _ inductionHypothesis =>
      rcases List.mem_cons.mp member with rfl | inRest
      · exact ⟨_, List.mem_cons_self, passed⟩
      · obtain ⟨word, wordMember, wordPassed⟩ :=
          inductionHypothesis (mem_afterTaking_of_mem inRest)
        exact ⟨word, List.mem_cons_of_mem _ wordMember, wordPassed⟩
  | skip skippable _ inductionHypothesis =>
      rcases List.mem_cons.mp member with rfl | inRest
      · simp [isSkippable, once] at skippable
      · exact inductionHypothesis inRest

/-- Two rows of steps take what each of them takes, one after the other. -/
theorem append
    {first second : List Step}
    {firstWords secondWords : List Word}
    {firstAlignment secondAlignment : List Nat}
    (takesFirst : Takes first firstWords firstAlignment)
    (takesSecond : Takes second secondWords secondAlignment) :
    Takes (first ++ second) (firstWords ++ secondWords)
      (firstAlignment ++ secondAlignment) := by
  induction takesFirst with
  | nil =>
      exact takesSecond
  | take passed _ inductionHypothesis =>
      rw [← afterTaking_append] at inductionHypothesis
      exact .take passed inductionHypothesis
  | skip skippable _ inductionHypothesis =>
      exact .skip skippable inductionHypothesis

end Takes

end Step

namespace Thread

/-- The steps of a thread take a beginning of the words, which gives the whole trail. -/
def Completes (thread : Thread) (words : List Word) (found : List Nat) : Prop :=
  ∃ taken alignment,
    taken <+: words ∧
      Step.Takes thread.steps taken alignment ∧
      found = alignment.reverse ++ thread.trail

/-- A thread without steps has its whole trail. -/
theorem completes_no_steps_iff
    {trail found : List Nat}
    {words : List Word} :
    Completes ⟨[], trail⟩ words found ↔ found = trail := by
  constructor
  · rintro ⟨taken, alignment, _, takes, rfl⟩
    cases takes
    rfl
  · rintro rfl
    exact ⟨[], [], List.nil_prefix, .nil, rfl⟩

/-- Without words a thread is complete if all its steps can be skipped. -/
theorem completes_no_words_iff
    {thread : Thread}
    {found : List Nat} :
    thread.Completes [] found ↔ thread.completed? = some found := by
  constructor
  · rintro ⟨taken, alignment, noneTaken, takes, rfl⟩
    rw [List.prefix_nil] at noneTaken
    subst taken
    obtain ⟨allSkippable, rfl⟩ := Step.Takes.no_words_iff.mp takes
    simp [completed?, allSkippable]
  · intro completed
    unfold completed? at completed
    split at completed
    · rename_i allSkippable
      cases completed
      exact
        ⟨[], [], List.nil_prefix,
          Step.Takes.no_words_iff.mpr ⟨allSkippable, rfl⟩, rfl⟩
    · cases completed

/-- A thread skips its first step, or it gives the next word to it. -/
theorem completes_cons_iff
    {step : Step}
    {rest : List Step}
    {trail found : List Nat}
    {word : Word}
    {words : List Word} :
    Completes ⟨step :: rest, trail⟩ (word :: words) found ↔
      (step.isSkippable = true ∧ Completes ⟨rest, trail⟩ (word :: words) found) ∨
        (step.test.holds word = true ∧
          Completes ⟨step.afterTaking rest, step.token :: trail⟩ words found) := by
  constructor
  · rintro ⟨taken, alignment, isBeginning, takes, rfl⟩
    cases takes with
    | take passed takesRest =>
        obtain ⟨rfl, laterIsBeginning⟩ := List.cons_prefix_cons.mp isBeginning
        exact .inr ⟨passed, _, _, laterIsBeginning, takesRest, by simp⟩
    | skip skippable takesRest =>
        exact .inl ⟨skippable, _, _, isBeginning, takesRest, rfl⟩
  · rintro (⟨skippable, taken, alignment, isBeginning, takes, rfl⟩ |
      ⟨passed, taken, alignment, isBeginning, takes, rfl⟩)
    · exact ⟨taken, alignment, isBeginning, .skip skippable takes, rfl⟩
    · exact
        ⟨word :: taken, _, List.cons_prefix_cons.mpr ⟨rfl, isBeginning⟩,
          .take passed takes, by simp⟩

/-- The threads that go on after a word. -/
def successors (advance : Advance) : List Thread :=
  advance.kept ++ advance.branched

/--
A thread with steps left is complete over a word and those after it if it is
complete at the word or one of its successors is complete over those after it.
-/
theorem completes_cons_word_iff
    {steps : List Step}
    (stepsLeft : steps ≠ [])
    {trail found : List Nat}
    {word : Word}
    {words : List Word} :
    Completes ⟨steps, trail⟩ (word :: words) found ↔
      found ∈ (advanceOver word trail steps).completed ∨
        ∃ thread ∈ successors (advanceOver word trail steps),
          thread.Completes words found := by
  induction steps with
  | nil =>
      exact (stepsLeft rfl).elim
  | cons step rest inductionHypothesis =>
      rw [completes_cons_iff]
      cases rest with
      | nil =>
          -- The last step completes the pattern itself, so nothing branches off after it.
          cases passes : step.test.holds word <;> cases kind : step.kind <;>
            (unfold advanceOver
             simp [successors, passes, kind, Step.isSkippable, Step.afterTaking,
               completes_no_steps_iff])
      | cons next later =>
          have inRest := inductionHypothesis (by simp)
          simp only [successors, List.mem_append] at inRest
          cases passes : step.test.holds word <;> cases kind : step.kind <;>
            (unfold advanceOver
             simp only [successors, passes, kind, Step.isSkippable, Step.afterTaking]
             simp [inRest])
          all_goals grind

/-- A thread that goes on has steps left, none of which is new. -/
theorem steps_of_mem_successors
    {word : Word}
    {trail : List Nat}
    {steps : List Step}
    {thread : Thread}
    (member : thread ∈ successors (advanceOver word trail steps)) :
    thread.steps ≠ [] ∧ thread.steps ⊆ steps := by
  induction steps with
  | nil =>
      unfold advanceOver at member
      simp [successors] at member
  | cons step rest inductionHypothesis =>
      unfold advanceOver at member
      cases passes : step.test.holds word <;> cases kind : step.kind <;> cases rest <;>
        simp_all [successors]
      all_goals grind

theorem trails_no_threads
    (words : List Word) :
    trails [] words = [] := by
  induction words with
  | nil =>
      rfl
  | cons word words inductionHypothesis =>
      exact inductionHypothesis

/-- Threads with steps left find the trails on which one of them is complete, and no others. -/
theorem mem_trails_iff
    {threads : List Thread}
    (stepsLeft : ∀ thread ∈ threads, thread.steps ≠ [])
    {words : List Word}
    {found : List Nat} :
    found ∈ trails threads words ↔
      ∃ thread ∈ threads, thread.Completes words found := by
  induction words generalizing threads with
  | nil =>
      simp only [trails, List.mem_filterMap, completes_no_words_iff]
  | cons word words inductionHypothesis =>
      have successorsLeft :
          ∀ thread ∈ (threads.map (·.advance word)).flatMap (·.kept)
            ++ (threads.map (·.advance word)).flatMap (·.branched),
            thread.steps ≠ [] := by
        intro thread member
        simp only [List.mem_append, List.mem_flatMap, List.mem_map] at member
        obtain ⟨_, ⟨origin, _, rfl⟩, kept⟩ | ⟨_, ⟨origin, _, rfl⟩, branched⟩ := member
        · exact (steps_of_mem_successors (List.mem_append_left _ kept)).1
        · exact (steps_of_mem_successors (List.mem_append_right _ branched)).1
      simp only [trails]
      rw [List.mem_append, inductionHypothesis successorsLeft]
      simp only [List.mem_append, List.mem_flatMap, List.mem_map]
      constructor
      · rintro (⟨_, ⟨origin, member, rfl⟩, completed⟩ |
          ⟨thread, ⟨_, ⟨origin, member, rfl⟩, kept⟩ |
            ⟨_, ⟨origin, member, rfl⟩, branched⟩, completes⟩)
        · exact ⟨origin, member,
            (completes_cons_word_iff (stepsLeft origin member)).mpr (.inl completed)⟩
        · exact ⟨origin, member,
            (completes_cons_word_iff (stepsLeft origin member)).mpr
              (.inr ⟨thread, List.mem_append_left _ kept, completes⟩)⟩
        · exact ⟨origin, member,
            (completes_cons_word_iff (stepsLeft origin member)).mpr
              (.inr ⟨thread, List.mem_append_right _ branched, completes⟩)⟩
      · rintro ⟨origin, member, completes⟩
        rcases (completes_cons_word_iff (stepsLeft origin member)).mp completes with
          completed | ⟨thread, successor, completes⟩
        · exact .inl ⟨_, ⟨origin, member, rfl⟩, completed⟩
        · rcases List.mem_append.mp successor with kept | branched
          · exact .inr ⟨thread, .inl ⟨_, ⟨origin, member, rfl⟩, kept⟩, completes⟩
          · exact .inr ⟨thread, .inr ⟨_, ⟨origin, member, rfl⟩, branched⟩, completes⟩

end Thread

/-- What is left of a list without repetitions was in the list. -/
theorem mem_of_mem_eraseDupsBy
    {α : Type}
    {same : α → α → Bool}
    {items : List α}
    {item : α}
    (member : item ∈ items.eraseDupsBy same) :
    item ∈ items := by
  induction length : items.length using Nat.strongRecOn generalizing items with
  | _ bound inductionHypothesis =>
      cases items with
      | nil =>
          exact member
      | cons first rest =>
          rw [List.eraseDupsBy_cons] at member
          rcases List.mem_cons.mp member with isFirst | inRest
          · exact isFirst ▸ List.mem_cons_self
          · have shorter :
                (rest.filter fun other => same other first = false).length < bound := by
              have := List.length_filter_le (fun other => same other first = false) rest
              simp only [List.length_cons] at length
              omega
            have kept := inductionHypothesis _ shorter inRest rfl
            exact List.mem_cons_of_mem first (List.mem_filter.mp kept).1

/-- Every element of a list is the same as one of those left without repetitions. -/
theorem exists_same_mem_eraseDupsBy
    {α : Type}
    (same : α → α → Bool)
    (reflexive : ∀ item, same item item = true)
    {items : List α}
    {item : α}
    (member : item ∈ items) :
    ∃ kept ∈ items.eraseDupsBy same, same item kept = true := by
  induction length : items.length using Nat.strongRecOn generalizing items with
  | _ bound inductionHypothesis =>
      cases items with
      | nil =>
          simp at member
      | cons first rest =>
          rw [List.eraseDupsBy_cons]
          by_cases sameAsFirst : same item first = true
          · exact ⟨first, List.mem_cons_self, sameAsFirst⟩
          · have inRest : item ∈ rest := by
              rcases List.mem_cons.mp member with rfl | inRest
              · exact (sameAsFirst (reflexive item)).elim
              · exact inRest
            have filtered :
                item ∈ rest.filter fun other => same other first = false := by
              simp [inRest, sameAsFirst]
            have shorter :
                (rest.filter fun other => same other first = false).length < bound := by
              have := List.length_filter_le (fun other => same other first = false) rest
              simp only [List.length_cons] at length
              omega
            obtain ⟨kept, keptMember, isSame⟩ :=
              inductionHypothesis _ shorter filtered rfl
            exact ⟨kept, List.mem_cons_of_mem first keptMember, isSame⟩

/-- A pattern without steps takes no words. -/
theorem candidates_no_steps
    (words : List Word) :
    candidates [[]] words = [] := by
  refine List.flatMap_eq_nil_iff.mpr fun start inside => ?_
  obtain ⟨word, later, isDrop⟩ : ∃ word later, words.drop start = word :: later :=
    ⟨_, _, List.drop_eq_getElem_cons (List.mem_range.mp inside)⟩
  have ends : Thread.advanceOver word [] [] = {} := rfl
  simp [candidatesFrom, isDrop, Thread.trails, Thread.advance, ends, Thread.trails_no_threads]

/-- A candidate is a range of words that some pattern takes. -/
theorem takes_of_mem_candidates
    {patterns : List (List Step)}
    (nonempty : ∀ steps ∈ patterns, steps ≠ [])
    {words : List Word}
    {candidate : Candidate}
    (member : candidate ∈ candidates patterns words) :
    candidate.alignment ≠ [] ∧
      ∃ steps ∈ patterns,
        ∃ taken,
          taken <+: words.drop candidate.start ∧
            Step.Takes steps taken candidate.alignment := by
  simp only [candidates, candidatesFrom, List.mem_flatMap, List.mem_map] at member
  obtain ⟨start, _, trail, kept, rfl⟩ := member
  have filtered := mem_of_mem_eraseDupsBy kept
  rw [List.mem_filter] at filtered
  have threadsLeft :
      ∀ thread ∈ patterns.map fun steps => (⟨steps, []⟩ : Thread), thread.steps ≠ [] := by
    intro thread threadMember
    obtain ⟨steps, stepsMember, rfl⟩ := List.mem_map.mp threadMember
    exact nonempty steps stepsMember
  obtain ⟨_, threadMember, taken, alignment, isBeginning, takes, trailShape⟩ :=
    (Thread.mem_trails_iff threadsLeft).mp filtered.1
  obtain ⟨steps, stepsMember, rfl⟩ := List.mem_map.mp threadMember
  simp only [List.append_nil] at trailShape
  subst trail
  refine ⟨by simpa using filtered.2, steps, stepsMember, taken, isBeginning, ?_⟩
  simpa using takes

/-- Every range of words that a pattern takes is one of the candidates. -/
theorem exists_candidate_of_takes
    {patterns : List (List Step)}
    (nonempty : ∀ steps ∈ patterns, steps ≠ [])
    {words taken : List Word}
    {start : Nat}
    {steps : List Step}
    (stepsMember : steps ∈ patterns)
    {alignment : List Nat}
    (isBeginning : taken <+: words.drop start)
    (takes : Step.Takes steps taken alignment)
    (takesSome : taken ≠ []) :
    ∃ candidate ∈ candidates patterns words,
      candidate.start = start ∧ candidate.alignment.length = taken.length := by
  have threadsLeft :
      ∀ thread ∈ patterns.map fun steps => (⟨steps, []⟩ : Thread), thread.steps ≠ [] := by
    intro thread threadMember
    obtain ⟨steps, stepsMember, rfl⟩ := List.mem_map.mp threadMember
    exact nonempty steps stepsMember
  have found :
      alignment.reverse ∈
        Thread.trails (patterns.map fun steps => ⟨steps, []⟩) (words.drop start) := by
    rw [Thread.mem_trails_iff threadsLeft]
    exact
      ⟨⟨steps, []⟩, List.mem_map.mpr ⟨steps, stepsMember, rfl⟩,
        taken, alignment, isBeginning, takes, by simp⟩
  have startInside : start < words.length := by
    have := isBeginning.length_le
    have := List.length_pos_iff.mpr takesSome
    rw [List.length_drop] at *
    omega
  have alignmentNonempty : alignment ≠ [] := by
    intro empty
    rw [empty] at takes
    exact takesSome (List.eq_nil_of_length_eq_zero takes.length_eq.symm)
  have foundNonempty :
      alignment.reverse ∈
        (Thread.trails (patterns.map fun steps => ⟨steps, []⟩) (words.drop start)).filter
          (!·.isEmpty) :=
    List.mem_filter.mpr ⟨found, by simpa using alignmentNonempty⟩
  obtain ⟨kept, keptMember, sameLength⟩ :=
    exists_same_mem_eraseDupsBy
      (fun left right => left.length == right.length) (by simp) foundNonempty
  refine ⟨⟨start, kept.reverse⟩, ?_, rfl, ?_⟩
  · simp only [candidates, candidatesFrom, List.mem_flatMap, List.mem_map]
    exact ⟨start, List.mem_range.mpr startInside, kept, keptMember, rfl⟩
  · have := takes.length_eq
    simp at sameLength
    simp [← sameLength, this]

/-- The ranges of the candidates are the non-empty ones that some pattern takes. -/
theorem exists_mem_candidates_iff
    {patterns : List (List Step)}
    (nonempty : ∀ steps ∈ patterns, steps ≠ [])
    {words : List Word}
    {start stop : Nat} :
    (∃ candidate ∈ candidates patterns words, candidate.start = start ∧ candidate.stop = stop) ↔
      start < stop ∧
        ∃ steps ∈ patterns,
          ∃ taken alignment,
            taken <+: words.drop start ∧
              start + taken.length = stop ∧ Step.Takes steps taken alignment := by
  constructor
  · rintro ⟨candidate, member, rfl, rfl⟩
    obtain ⟨someWords, steps, isPattern, taken, isBeginning, takes⟩ :=
      takes_of_mem_candidates nonempty member
    have := List.length_pos_iff.mpr someWords
    rw [Candidate.stop, takes.length_eq] at *
    exact ⟨by omega, steps, isPattern, taken, _, isBeginning, rfl, takes⟩
  · rintro ⟨someWords, steps, isPattern, taken, alignment, isBeginning, rfl, takes⟩
    have takesSome : taken ≠ [] := by
      rw [← List.length_pos_iff]
      omega
    obtain ⟨candidate, member, rfl, sameLength⟩ :=
      exists_candidate_of_takes nonempty isPattern isBeginning takes takesSome
    exact ⟨candidate, member, rfl, by rw [Candidate.stop, sameLength]⟩

end ProseRules
