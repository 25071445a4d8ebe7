import Mathlib.Data.Finset.Card
import Mathlib.Data.List.DropRight
import ProseRules.Pattern.Cache
import ProseRules.Proofs.Outcome

namespace ProseRules

/-!
# Recency of prepared patterns

A cache is followed through a history of requests. What one request does to the
vocabularies that are kept is stated once; the whole history then leaves exactly the
vocabularies asked for most recently, and decides which answers are the same.
-/

namespace Recency

section Ends

variable {α : Type}

/-- All of a list that is short enough is taken from its end. -/
theorem rtake_of_length_le
    {items : List α}
    {count : Nat}
    (short : items.length ≤ count) :
    items.rtake count = items := by
  simp [List.rtake, Nat.sub_eq_zero_of_le short]

theorem length_rtake
    (items : List α)
    (count : Nat) :
    (items.rtake count).length = min count items.length := by
  simp only [List.rtake, List.length_drop]
  omega

/-- What is taken from the end of two lists is taken from the second one if that is long enough. -/
theorem rtake_append_of_le
    (front : List α)
    {back : List α}
    {count : Nat}
    (long : count ≤ back.length) :
    (front ++ back).rtake count = back.rtake count := by
  simp only [List.rtake, List.length_append]
  rw [show front.length + back.length - count = front.length + (back.length - count) by omega,
    List.drop_length_add_append]

theorem map_rtake
    {β : Type}
    (image : α → β)
    (items : List α)
    (count : Nat) :
    (items.rtake count).map image = (items.map image).rtake count := by
  simp [List.rtake]

/-- An item of a list without repetitions is among the last ones exactly if few follow it. -/
theorem mem_rtake_iff
    {front back : List α}
    {item : α}
    {count : Nat}
    (distinct : (front ++ item :: back).Nodup) :
    item ∈ (front ++ item :: back).rtake count ↔ back.length < count := by
  have apart : item ∉ front ∧ item ∉ back := by
    simp only [List.nodup_append, List.nodup_cons, List.mem_cons, ne_eq] at distinct
    exact ⟨fun inFront => distinct.2.2 item inFront item (Or.inl rfl) rfl, distinct.2.1.1⟩
  constructor
  · intro isLate
    by_contra many
    rw [List.append_cons, rtake_append_of_le _ (Nat.not_lt.mp many)] at isLate
    exact apart.2 (List.mem_of_mem_drop isLate)
  · intro few
    have splits :
        (front ++ item :: back).rtake count =
          front.rtake (count - (back.length + 1)) ++ item :: back := by
      simp only [List.rtake, List.length_append, List.length_cons]
      rw [show front.length + (back.length + 1) - count =
          front.length - (count - (back.length + 1)) by omega,
        List.drop_append_of_le_length (Nat.sub_le _ _)]
    rw [splits]
    simp

end Ends

variable {α : Type} [DecidableEq α]

/-- A list whose last item is asked for again, each item once and in order of its last request. -/
theorem dedup_concat
    (items : List α)
    (item : α) :
    (items ++ [item]).dedup = items.dedup.filter (· ≠ item) ++ [item] := by
  induction items with
  | nil =>
      rfl
  | cons first items inductionHypothesis =>
      rw [List.cons_append]
      by_cases asked : first ∈ items
      · rw [List.dedup_cons_of_mem (List.mem_append_left [item] asked),
          List.dedup_cons_of_mem asked, inductionHypothesis]
      · by_cases same : first = item
        · subst same
          rw [List.dedup_cons_of_mem (by simp), List.dedup_cons_of_notMem asked,
            inductionHypothesis]
          simp
        · rw [List.dedup_cons_of_notMem (by simp [asked, same]),
            List.dedup_cons_of_notMem asked, inductionHypothesis]
          simp [same]

/-- Of distinct items at most one is a given item. -/
theorem length_le_length_filter_ne
    {items : List α}
    (distinct : items.Nodup)
    (item : α) :
    items.length ≤ (items.filter (· ≠ item)).length + 1 := by
  have atMostOne := List.nodup_iff_count_le_one.mp distinct item
  have parts := List.length_eq_length_filter_add (l := items) (· ≠ item)
  have others : (items.filter fun other => !decide (other ≠ item)).length = items.count item := by
    simp [List.count, List.countP_eq_length_filter, BEq.beq]
  omega

/-- Moving an item to the end may be done before or after all but the last items are dropped. -/
theorem rtake_filter_rtake_concat
    {items : List α}
    (distinct : items.Nodup)
    (item : α)
    (count : Nat) :
    ((items.rtake count).filter (· ≠ item) ++ [item]).rtake count =
      (items.filter (· ≠ item) ++ [item]).rtake count := by
  cases count with
  | zero =>
      simp
  | succ count =>
      rw [List.rtake_concat_succ, List.rtake_concat_succ]
      congr 1
      rcases Nat.le_total items.length (count + 1) with short | long
      · rw [rtake_of_length_le short]
      · obtain ⟨older, kept, rfl, keptLength⟩ :
            ∃ older kept, items = older ++ kept ∧ kept.length = count + 1 :=
          ⟨_, _, (List.take_append_drop (items.length - (count + 1)) items).symm, by
            rw [List.length_drop]
            omega⟩
        have few := length_le_length_filter_ne distinct.of_append_right item
        rw [rtake_append_of_le older keptLength.ge, rtake_of_length_le keptLength.le,
          List.filter_append, rtake_append_of_le _ (by omega)]

end Recency

namespace PatternCache

/-- The vocabularies whose patterns are kept, the least recently asked for first. -/
def vocabularies (cache : PatternCache) : List String :=
  cache.entries.map (·.vocabulary)

/-- The cache after patterns were asked for. -/
def after (cache : PatternCache) (requests : List String) : PatternCache :=
  requests.foldl (fun cache vocabulary => (cache.get vocabulary).2) cache

/-- The answer to a request that comes after others. -/
def answerAfter
    (cache : PatternCache)
    (requests : List String)
    (vocabulary : String) :
    Except Failure PreparedPatterns :=
  ((cache.after requests).get vocabulary).1

/-- A request is answered with patterns that no request before it was answered with. -/
def AnswersAnew
    (cache : PatternCache)
    (requests : List String)
    (vocabulary : String) : Prop :=
  ∀ earlier asked later previous answer,
    requests = earlier ++ asked :: later →
    cache.answerAfter earlier asked = .ok previous →
    cache.answerAfter requests vocabulary = .ok answer →
    answer.serial ≠ previous.serial

/-- A cache keeps the patterns of the vocabularies asked for most recently. -/
structure KeepsMostRecent
    (cache : PatternCache)
    (capacity : Nat)
    (own : List (List Step)) : Prop where
  /-- The vocabularies that are kept, in order of their last requests. -/
  vocabularies_after :
    ∀ requests, (cache.after requests).vocabularies = requests.dedup.rtake capacity
  size_after :
    ∀ requests, (cache.after requests).size = min capacity requests.toFinset.card
  /-- Each answer is for the vocabulary asked for and made of the patterns of the cache. -/
  answers :
    ∀ requests vocabulary,
      ∃ answer,
        cache.answerAfter requests vocabulary = .ok answer ∧
          answer.vocabulary = vocabulary ∧
          answer.patterns = own
  /-- An answer is the previous one exactly if few other vocabularies came in between. -/
  same_iff :
    ∀ earlier vocabulary between,
      vocabulary ∉ between →
      (cache.answerAfter (earlier ++ vocabulary :: between) vocabulary =
          cache.answerAfter earlier vocabulary ↔
        between.toFinset.card < capacity)
  new_of_many :
    ∀ earlier vocabulary between,
      vocabulary ∉ between →
      capacity ≤ between.toFinset.card →
      cache.AnswersAnew (earlier ++ vocabulary :: between) vocabulary
  new_of_first :
    ∀ requests vocabulary,
      vocabulary ∉ requests →
      cache.AnswersAnew requests vocabulary

/-- What is true of a cache between two requests. -/
structure Serves
    (cache : PatternCache)
    (capacity : Nat)
    (own : List (List Step)) : Prop where
  has_capacity : cache.capacity = capacity
  prepares : cache.patterns.mapM Step.ofTokens = .ok own
  distinct : cache.vocabularies.Nodup
  size_le : cache.size ≤ capacity
  /-- The entries were prepared before, from the patterns of the cache. -/
  made : ∀ entry ∈ cache.entries, entry.patterns = own ∧ entry.serial < cache.prepared

/-- What one request does to a cache. -/
inductive Request
    (cache : PatternCache)
    (own : List (List Step))
    (vocabulary : String) :
    Except Failure PreparedPatterns × PatternCache → Prop where
  /-- The patterns are kept and become the most recent ones. -/
  | kept
      (entry : PreparedPatterns)
      (member : entry ∈ cache.entries)
      (isFor : entry.vocabulary = vocabulary) :
      Request cache own vocabulary
        (.ok entry,
          { cache with entries := cache.entries.filter (·.vocabulary ≠ vocabulary) ++ [entry] })
  /-- The patterns are prepared, and the oldest ones make room for them. -/
  | new
      (missing : vocabulary ∉ cache.vocabularies) :
      Request cache own vocabulary
        (.ok (PreparedPatterns.mk cache.prepared vocabulary own),
          { cache with
            entries :=
              (cache.entries ++ [PreparedPatterns.mk cache.prepared vocabulary own]).rtake
                cache.capacity.toNat
            prepared := cache.prepared + 1 })

section Step

variable {cache : PatternCache} {capacity : Nat} {own : List (List Step)}

/-- A request does one of two things to a cache. -/
theorem Serves.request
    (serves : cache.Serves capacity own)
    (vocabulary : String) :
    Request cache own vocabulary (cache.get vocabulary) := by
  unfold get
  cases found : cache.entries.find? (·.vocabulary = vocabulary) with
  | some entry =>
      exact .kept entry (List.mem_of_find?_eq_some found)
        (by simpa using List.find?_some found)
  | none =>
      have room : ¬ cache.capacity < 0 := by
        have := serves.has_capacity
        omega
      simp only [serves.prepares, add, room, if_false]
      exact .new (by simpa [vocabularies] using found)

/-- A request for a vocabulary leaves entries that were there before or are its answer. -/
theorem Request.mem_entries
    {vocabulary : String}
    {result : Except Failure PreparedPatterns × PatternCache}
    (request : Request cache own vocabulary result)
    {entry : PreparedPatterns}
    (member : entry ∈ result.2.entries) :
    (entry ∈ cache.entries ∧ entry.vocabulary ≠ vocabulary) ∨ result.1 = .ok entry := by
  cases request with
  | kept answer _ _ =>
      simp only [List.mem_append, List.mem_filter, List.mem_singleton, decide_eq_true_eq] at member
      rcases member with old | rfl
      · exact .inl old
      · exact .inr rfl
  | new missing =>
      have among := List.mem_of_mem_drop member
      simp only [List.mem_append, List.mem_singleton] at among
      rcases among with old | rfl
      · refine .inl ⟨old, ?_⟩
        rintro rfl
        exact missing (List.mem_map_of_mem old)
      · exact .inr rfl

/-- After a request its vocabulary is the most recent one, as far as the capacity allows. -/
theorem Request.vocabularies_eq
    (serves : cache.Serves capacity own)
    {vocabulary : String}
    {result : Except Failure PreparedPatterns × PatternCache}
    (request : Request cache own vocabulary result) :
    result.2.vocabularies =
      (cache.vocabularies.filter (· ≠ vocabulary) ++ [vocabulary]).rtake capacity := by
  have few : cache.vocabularies.length ≤ capacity := by
    simpa [vocabularies, size] using serves.size_le
  cases request with
  | kept entry member isFor =>
      have isKept : vocabulary ∈ cache.vocabularies :=
        isFor ▸ List.mem_map_of_mem member
      have fewer :
          (cache.vocabularies.filter (· ≠ vocabulary)).length < cache.vocabularies.length :=
        List.length_filter_lt_length_iff_exists.mpr ⟨vocabulary, isKept, by simp⟩
      have short :
          (cache.vocabularies.filter (· ≠ vocabulary) ++ [vocabulary]).length ≤ capacity := by
        rw [List.length_append, List.length_singleton]
        omega
      rw [Recency.rtake_of_length_le short]
      simp [vocabularies, List.filter_map, Function.comp_def, isFor]
  | new missing =>
      have others : cache.vocabularies.filter (· ≠ vocabulary) = cache.vocabularies := by
        rw [List.filter_eq_self]
        intro other member
        simpa using ne_of_mem_of_not_mem member missing
      rw [others]
      simp [vocabularies, Recency.map_rtake, serves.has_capacity]

theorem Request.prepared_le
    {vocabulary : String}
    {result : Except Failure PreparedPatterns × PatternCache}
    (request : Request cache own vocabulary result) :
    cache.prepared ≤ result.2.prepared := by
  cases request with
  | kept entry member isFor =>
      exact Nat.le_refl _
  | new missing =>
      exact Nat.le_succ _

/-- The answer is for the vocabulary and made of the patterns of the cache, by now or before. -/
theorem Request.answer
    (serves : cache.Serves capacity own)
    {vocabulary : String}
    {result : Except Failure PreparedPatterns × PatternCache}
    (request : Request cache own vocabulary result) :
    ∃ answer,
      result.1 = .ok answer ∧
        answer.vocabulary = vocabulary ∧
        answer.patterns = own ∧
        answer.serial < result.2.prepared := by
  cases request with
  | kept entry member isFor =>
      obtain ⟨isOwn, isOld⟩ := serves.made entry member
      exact ⟨entry, rfl, isFor, isOwn, isOld⟩
  | new missing =>
      exact ⟨_, rfl, rfl, rfl, Nat.lt_succ_self _⟩

theorem Request.serves
    (serves : cache.Serves capacity own)
    {vocabulary : String}
    {result : Except Failure PreparedPatterns × PatternCache}
    (request : Request cache own vocabulary result) :
    result.2.Serves capacity own := by
  have moved := request.vocabularies_eq serves
  have unchanged :
      result.2.capacity = cache.capacity ∧ result.2.patterns = cache.patterns := by
    cases request <;> exact ⟨rfl, rfl⟩
  refine ⟨unchanged.1 ▸ serves.has_capacity, unchanged.2 ▸ serves.prepares, ?distinct, ?size, ?made⟩
  case distinct =>
    have apart : (cache.vocabularies.filter (· ≠ vocabulary) ++ [vocabulary]).Nodup := by
      rw [List.nodup_append]
      exact ⟨serves.distinct.filter _, List.nodup_singleton _, by simp⟩
    rw [moved]
    exact apart.sublist (List.drop_sublist _ _)
  case size =>
    have kept := congrArg List.length moved
    rw [Recency.length_rtake] at kept
    simp only [vocabularies, List.length_map] at kept
    simp only [size]
    omega
  case made =>
    intro entry member
    rcases request.mem_entries member with ⟨old, _⟩ | isAnswer
    · obtain ⟨isOwn, isOld⟩ := serves.made entry old
      exact ⟨isOwn, isOld.trans_le request.prepared_le⟩
    · obtain ⟨answer, isAnswer', _, isOwn, isOld⟩ := request.answer serves
      cases isAnswer.symm.trans isAnswer'
      exact ⟨isOwn, isOld⟩

end Step

section Run

variable {cache : PatternCache} {capacity : Nat} {own : List (List Step)}

theorem after_append
    (cache : PatternCache)
    (earlier later : List String) :
    cache.after (earlier ++ later) = (cache.after earlier).after later :=
  List.foldl_append

/-- What is true of a cache stays true through all requests. -/
theorem Serves.after
    (serves : cache.Serves capacity own)
    (requests : List String) :
    (cache.after requests).Serves capacity own := by
  induction requests generalizing cache with
  | nil =>
      exact serves
  | cons vocabulary requests inductionHypothesis =>
      exact inductionHypothesis ((serves.request vocabulary).serves serves)

theorem Serves.prepared_le_after
    (serves : cache.Serves capacity own)
    (requests : List String) :
    cache.prepared ≤ (cache.after requests).prepared := by
  induction requests generalizing cache with
  | nil =>
      exact Nat.le_refl _
  | cons vocabulary requests inductionHypothesis =>
      have step := serves.request vocabulary
      exact step.prepared_le.trans (inductionHypothesis (step.serves serves))

/-- Requests for other vocabularies add no entry for a vocabulary. -/
theorem Serves.mem_of_mem_after
    (serves : cache.Serves capacity own)
    {requests : List String}
    {entry : PreparedPatterns}
    (others : entry.vocabulary ∉ requests)
    (member : entry ∈ (cache.after requests).entries) :
    entry ∈ cache.entries := by
  induction requests generalizing cache with
  | nil =>
      exact member
  | cons vocabulary requests inductionHypothesis =>
      have step := serves.request vocabulary
      obtain ⟨isOther, areOthers⟩ := not_or.mp (mt List.mem_cons.mpr others)
      rcases step.mem_entries (inductionHypothesis (step.serves serves) areOthers member) with
        old | isAnswer
      · exact old.1
      · obtain ⟨answer, isAnswer', isFor, _⟩ := step.answer serves
        cases isAnswer.symm.trans isAnswer'
        exact absurd isFor isOther

/-- What is kept after a history from a cache without entries. -/
theorem Serves.vocabularies_after
    (serves : cache.Serves capacity own)
    (isEmpty : cache.entries = [])
    (requests : List String) :
    (cache.after requests).vocabularies = requests.dedup.rtake capacity := by
  induction requests using List.reverseRecOn with
  | nil =>
      simp [PatternCache.after, vocabularies, isEmpty]
  | append_singleton requests vocabulary inductionHypothesis =>
      have now := serves.after requests
      rw [after_append]
      refine ((now.request vocabulary).vocabularies_eq now).trans ?_
      rw [inductionHypothesis, Recency.rtake_filter_rtake_concat (List.nodup_dedup requests),
        Recency.dedup_concat]

/-- A vocabulary stays until as many others were asked for after it as there is room for. -/
theorem Serves.mem_vocabularies_after_iff
    (serves : cache.Serves capacity own)
    (isEmpty : cache.entries = [])
    {earlier between : List String}
    {vocabulary : String}
    (others : vocabulary ∉ between) :
    vocabulary ∈ (cache.after (earlier ++ vocabulary :: between)).vocabularies ↔
      between.toFinset.card < capacity := by
  have distinct := List.nodup_dedup (earlier ++ vocabulary :: between)
  obtain ⟨front, isUnion⟩ : ∃ front,
      (earlier ++ vocabulary :: between).dedup = front ++ vocabulary :: between.dedup := by
    obtain ⟨front, isUnion⟩ := List.suffix_union_right earlier (vocabulary :: between).dedup
    refine ⟨front, ?_⟩
    rw [List.dedup_append, ← isUnion, List.dedup_cons_of_notMem others]
  rw [serves.vocabularies_after isEmpty, isUnion, Recency.mem_rtake_iff (isUnion ▸ distinct),
    List.card_toFinset]

/-- A vocabulary that is kept is answered with what it was answered with before. -/
theorem Serves.answerAfter_eq_of_kept
    (serves : cache.Serves capacity own)
    {earlier between : List String}
    {vocabulary : String}
    (others : vocabulary ∉ between)
    (isKept : vocabulary ∈ (cache.after (earlier ++ vocabulary :: between)).vocabularies) :
    cache.answerAfter (earlier ++ vocabulary :: between) vocabulary =
      cache.answerAfter earlier vocabulary := by
  have before := serves.after earlier
  have asked := before.request vocabulary
  have now := serves.after (earlier ++ vocabulary :: between)
  have again := now.request vocabulary
  unfold answerAfter
  generalize isResult : (cache.after (earlier ++ vocabulary :: between)).get vocabulary = result
    at again ⊢
  cases again with
  | new missing =>
      exact absurd isKept missing
  | kept entry member isFor =>
      rw [after_append] at member
      have atFirst := (asked.serves before).mem_of_mem_after (isFor ▸ others) member
      rcases asked.mem_entries atFirst with ⟨_, isOther⟩ | isAnswer
      · exact absurd isFor isOther
      · exact isAnswer.symm

/-- A vocabulary that is not kept is answered with patterns that are prepared for it. -/
theorem Serves.answersAnew_of_missing
    (serves : cache.Serves capacity own)
    {requests : List String}
    {vocabulary : String}
    (missing : vocabulary ∉ (cache.after requests).vocabularies) :
    cache.AnswersAnew requests vocabulary := by
  rintro earlier asked later previous answer rfl wasPrevious isAnswer
  have before := serves.after earlier
  have step := before.request asked
  obtain ⟨_, isPrevious, _, _, isOld⟩ := step.answer before
  cases wasPrevious.symm.trans isPrevious
  have grows := (step.serves before).prepared_le_after later
  have again := (serves.after (earlier ++ asked :: later)).request vocabulary
  unfold answerAfter at isAnswer
  generalize isResult : (cache.after (earlier ++ asked :: later)).get vocabulary = result
    at again isAnswer
  cases again with
  | kept entry member isFor =>
      exact absurd (isFor ▸ List.mem_map_of_mem member) missing
  | new _ =>
      cases isAnswer
      rw [after_append]
      exact (isOld.trans_le grows).ne'

end Run

/-- An empty cache serves requests if its patterns can be prepared. -/
theorem serves_create
    {patterns : List (List Token)}
    {own : List (List Step)}
    (prepares : (patterns.filter (!·.isEmpty)).mapM Step.ofTokens = .ok own)
    (capacity : Nat) :
    (create patterns capacity).Serves capacity own where
  has_capacity := rfl
  prepares := prepares
  distinct := List.nodup_nil
  size_le := Nat.zero_le _
  made := by
    intro entry member
    cases member

/-- A cache keeps the vocabularies asked for most recently, as many as it has room for. -/
theorem keepsMostRecent_create
    {patterns : List (List Token)}
    {own : List (List Step)}
    (prepares : (patterns.filter (!·.isEmpty)).mapM Step.ofTokens = .ok own)
    (capacity : Nat) :
    (create patterns capacity).KeepsMostRecent capacity own := by
  have serves := serves_create prepares capacity
  have kept := serves.vocabularies_after rfl
  have isKept_iff := @Serves.mem_vocabularies_after_iff _ _ _ serves rfl
  refine ⟨kept, ?size, ?answers, ?same, ?many, ?first⟩
  case size =>
    intro requests
    have lengths := congrArg List.length (kept requests)
    rwa [Recency.length_rtake, ← List.card_toFinset, vocabularies, List.length_map] at lengths
  case answers =>
    intro requests vocabulary
    have now := serves.after requests
    obtain ⟨answer, isAnswer, isFor, isOwn, _⟩ := (now.request vocabulary).answer now
    exact ⟨answer, isAnswer, isFor, isOwn⟩
  case same =>
    intro earlier vocabulary between others
    refine ⟨fun same => ?_, fun few =>
      serves.answerAfter_eq_of_kept others ((isKept_iff others).mpr few)⟩
    by_contra many
    have before := serves.after earlier
    obtain ⟨answer, isAnswer, _⟩ := (before.request vocabulary).answer before
    exact serves.answersAnew_of_missing (mt (isKept_iff others).mp many)
      earlier vocabulary between answer answer rfl isAnswer (same.trans isAnswer) rfl
  case many =>
    intro earlier vocabulary between others many
    exact serves.answersAnew_of_missing (mt (isKept_iff others).mp many.not_gt)
  case first =>
    intro requests vocabulary isFirst
    refine serves.answersAnew_of_missing ?_
    rw [kept]
    exact fun isKept => isFirst (List.mem_dedup.mp (List.mem_of_mem_drop isKept))

/-- With room for two vocabularies one more request in between keeps an answer, two lose it. -/
theorem keepsMostRecent_create_two :
    ∃ own,
      (create [[], [.placeholder (.text "")]] (2 : Nat)).KeepsMostRecent 2 own ∧
        (create [[], [.placeholder (.text "")]] (2 : Nat)).answerAfter ["en", "de"] "en" =
            (create [[], [.placeholder (.text "")]] (2 : Nat)).answerAfter [] "en" ∧
        (create [[], [.placeholder (.text "")]] (2 : Nat)).AnswersAnew ["en", "de", "fr"] "en" := by
  have prepares :
      ([[], [Token.placeholder (.text "")]].filter (!·.isEmpty)).mapM Step.ofTokens =
        .ok [[⟨.once, 0, .any⟩]] := by
    rfl
  have keeps := keepsMostRecent_create prepares 2
  exact ⟨_, keeps, (keeps.same_iff [] "en" ["de"] (by decide)).mpr (by decide),
    keeps.new_of_many [] "en" ["de", "fr"] (by decide) (by decide)⟩

end PatternCache

end ProseRules
