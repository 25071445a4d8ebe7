import Mathlib.Data.List.Pairwise
import Mathlib.Data.List.Sort
import ProseRules.Rule.Overlap

namespace ProseRules.Candidate

/-!
# Overlaps are resolved in one way

Candidates are offered from the most to the least preferred one, and each of them is
chosen unless it shares a word with one chosen before. What is kept stands in the
order of the text and leaves out only candidates that a preferred one overlaps. If no
two candidates have the same range, nothing else has these properties, so it does not
matter in which order the candidates were found.
-/

/-- Some word lies in both ranges. -/
def SharesWord (first second : Candidate) : Prop :=
  ∃ position,
    (first.start ≤ position ∧ position < first.stop) ∧
      second.start ≤ position ∧ position < second.stop

/-- The candidate is longer than another one, or equally long and starts no later. -/
def Outranks (first second : Candidate) : Prop :=
  second.alignment.length < first.alignment.length ∨
    (first.alignment.length = second.alignment.length ∧ first.start ≤ second.start)

/-- Candidates that are kept of others by length and place alone. -/
structure Resolves (candidates kept : List Candidate) : Prop where
  subset : kept ⊆ candidates
  /-- The ranges are disjoint and in the order of the text. -/
  ordered : kept.Pairwise fun first second => first.stop ≤ second.start
  /-- What is left out shares a word with a kept candidate that outranks it. -/
  settled :
    ∀ candidate ∈ candidates, candidate ∉ kept →
      ∃ other ∈ kept, other.SharesWord candidate ∧ other.Outranks candidate

/-- No two of the candidates have the same range. -/
def RangesDiffer (candidates : List Candidate) : Prop :=
  ∀ first ∈ candidates, ∀ second ∈ candidates,
    first.start = second.start → first.stop = second.stop → first = second

theorem isPreferred_iff
    {first second : Candidate} :
    first.isPreferred second = true ↔ first.Outranks second := by
  simp [isPreferred, Outranks]

theorem overlaps_comm
    (first second : Candidate) :
    first.overlaps second = second.overlaps first := by
  rw [overlaps, overlaps, Bool.and_comm]

/-- Ranges overlap exactly if they share a word, as long as neither is empty. -/
theorem overlaps_iff
    {first second : Candidate}
    (firstNonempty : first.start < first.stop)
    (secondNonempty : second.start < second.stop) :
    first.overlaps second = true ↔ first.SharesWord second := by
  simp only [overlaps, SharesWord, Bool.and_eq_true, decide_eq_true_eq]
  constructor
  · rintro ⟨beforeSecondEnds, beforeFirstEnds⟩
    exact ⟨max first.start second.start, by omega, by omega⟩
  · rintro ⟨position, _, _⟩
    omega

/-- The most preferred candidates stand first. -/
theorem pairwise_outranks_mergeSort
    (candidates : List Candidate) :
    (candidates.mergeSort isPreferred).Pairwise Outranks := by
  have transitive :
      ∀ first second third : Candidate,
        first.isPreferred second = true → second.isPreferred third = true →
          first.isPreferred third = true := by
    intro first second third
    simp only [isPreferred_iff, Outranks]
    omega
  have total :
      ∀ first second : Candidate,
        (first.isPreferred second || second.isPreferred first) = true := by
    intro first second
    rw [Bool.or_eq_true, isPreferred_iff, isPreferred_iff, Outranks, Outranks]
    omega
  exact (List.pairwise_mergeSort transitive total candidates).imp isPreferred_iff.mp

/-- Choosing candidates keeps those chosen before. -/
theorem prefix_foldl_choose
    (chosen candidates : List Candidate) :
    chosen <+: candidates.foldl choose chosen := by
  induction candidates generalizing chosen with
  | nil =>
      exact List.prefix_refl chosen
  | cons candidate candidates inductionHypothesis =>
      have choosesMore : chosen <+: choose chosen candidate := by
        unfold choose
        split
        · exact List.prefix_refl chosen
        · exact List.prefix_append chosen [candidate]
      exact choosesMore.trans (inductionHypothesis _)

/-- A chosen candidate was chosen before or is one of those offered. -/
theorem mem_of_mem_foldl_choose
    {chosen candidates : List Candidate}
    {candidate : Candidate}
    (member : candidate ∈ candidates.foldl choose chosen) :
    candidate ∈ chosen ∨ candidate ∈ candidates := by
  induction candidates generalizing chosen with
  | nil =>
      exact .inl member
  | cons first candidates inductionHypothesis =>
      rcases inductionHypothesis member with wasChosen | offered
      · unfold choose at wasChosen
        split at wasChosen
        · exact .inl wasChosen
        · rcases List.mem_append.mp wasChosen with before | isFirst
          · exact .inl before
          · exact .inr (List.mem_cons.mpr (.inl (List.mem_singleton.mp isFirst)))
      · exact .inr (List.mem_cons_of_mem first offered)

/-- Chosen candidates do not overlap. -/
theorem pairwise_not_overlaps_foldl_choose
    {chosen : List Candidate}
    (candidates : List Candidate)
    (apart : chosen.Pairwise fun first second => first.overlaps second = false) :
    (candidates.foldl choose chosen).Pairwise fun first second =>
      first.overlaps second = false := by
  induction candidates generalizing chosen with
  | nil =>
      exact apart
  | cons candidate candidates inductionHypothesis =>
      refine inductionHypothesis ?_
      unfold choose
      split
      · exact apart
      · rename_i overlapsNone
        rw [List.pairwise_append]
        refine ⟨apart, List.pairwise_singleton _ candidate, ?_⟩
        intro other wasChosen _ isCandidate
        rw [List.mem_singleton.mp isCandidate, overlaps_comm]
        simpa using fun overlap => overlapsNone (List.any_eq_true.mpr ⟨other, wasChosen, overlap⟩)

/--
A candidate that is offered after all those that outrank it is chosen, or one of them
overlaps it.
-/
theorem mem_or_overlapped_foldl_choose
    {chosen candidates : List Candidate}
    (chosenFirst : ∀ before ∈ chosen, ∀ candidate ∈ candidates, before.Outranks candidate)
    (sorted : candidates.Pairwise Outranks)
    {candidate : Candidate}
    (offered : candidate ∈ candidates) :
    candidate ∈ candidates.foldl choose chosen ∨
      ∃ other ∈ candidates.foldl choose chosen,
        candidate.overlaps other = true ∧ other.Outranks candidate := by
  induction candidates generalizing chosen with
  | nil =>
      simp at offered
  | cons first candidates inductionHypothesis =>
      obtain ⟨firstOutranks, laterSorted⟩ := List.pairwise_cons.mp sorted
      have kept := (prefix_foldl_choose (choose chosen first) candidates).subset
      rcases List.mem_cons.mp offered with rfl | later
      · by_cases overlapped : chosen.any candidate.overlaps = true
        · obtain ⟨other, wasChosen, overlap⟩ := List.any_eq_true.mp overlapped
          have stillChosen : other ∈ choose chosen candidate := by
            simpa [choose, overlapped] using wasChosen
          exact .inr
            ⟨other, kept stillChosen, overlap,
              chosenFirst other wasChosen candidate List.mem_cons_self⟩
        · have isChosen : candidate ∈ choose chosen candidate := by
            simp [choose, overlapped]
          exact .inl (kept isChosen)
      · refine inductionHypothesis ?_ laterSorted later
        intro before wasChosen other isLater
        have beforeOrFirst := @mem_of_mem_foldl_choose chosen [first] before wasChosen
        rcases beforeOrFirst with earlier | isFirst
        · exact chosenFirst before earlier other (List.mem_cons_of_mem first isLater)
        · rw [List.mem_singleton.mp isFirst]
          exact firstOutranks other isLater

/-- The candidates that are kept are among those given. -/
theorem mem_of_mem_longestFirst
    {candidates : List Candidate}
    {candidate : Candidate}
    (member : candidate ∈ longestFirst candidates) :
    candidate ∈ candidates := by
  rw [longestFirst, List.mem_mergeSort] at member
  rcases mem_of_mem_foldl_choose member with inNothing | sorted
  · simp at inNothing
  · exact List.mem_mergeSort.mp sorted

/-- Of some candidates at least one is kept. -/
theorem longestFirst_ne_nil
    {candidates : List Candidate}
    (nonempty : candidates ≠ []) :
    longestFirst candidates ≠ [] := by
  obtain ⟨candidate, member⟩ := List.exists_mem_of_ne_nil candidates nonempty
  have inSorted : candidate ∈ candidates.mergeSort isPreferred :=
    List.mem_mergeSort.mpr member
  obtain ⟨first, rest, sorted⟩ :=
    List.exists_cons_of_ne_nil (List.ne_nil_of_mem inSorted)
  -- The most preferred candidate finds no other one in its way.
  have firstIsChosen : first ∈ (candidates.mergeSort isPreferred).foldl choose [] := by
    rw [sorted, List.foldl_cons]
    exact (prefix_foldl_choose [first] rest).subset List.mem_cons_self
  exact List.ne_nil_of_mem (List.mem_mergeSort.mpr firstIsChosen)

/-- Of non-empty candidates those kept are disjoint and in the order of the text. -/
theorem ordered_longestFirst
    {candidates : List Candidate}
    (nonempty : ∀ candidate ∈ candidates, candidate.start < candidate.stop) :
    (longestFirst candidates).Pairwise fun first second => first.stop ≤ second.start := by
  have byStart :
      (longestFirst candidates).Pairwise fun first second => first.start ≤ second.start := by
    have transitive :
        ∀ first second third : Candidate,
          decide (first.start ≤ second.start) = true →
            decide (second.start ≤ third.start) = true →
              decide (first.start ≤ third.start) = true := by
      intro first second third
      simp only [decide_eq_true_eq]
      exact Nat.le_trans
    have total :
        ∀ first second : Candidate,
          (decide (first.start ≤ second.start) || decide (second.start ≤ first.start)) = true := by
      intro first second
      simpa using Nat.le_total first.start second.start
    exact (List.pairwise_mergeSort transitive total _).imp of_decide_eq_true
  have apart :
      (longestFirst candidates).Pairwise fun first second => first.overlaps second = false :=
    (List.mergeSort_perm _ _).symm.pairwise
      (pairwise_not_overlaps_foldl_choose _ List.Pairwise.nil)
      (fun notOverlapping => by rwa [overlaps_comm])
  refine (byStart.and apart).imp_of_mem ?_
  rintro first second firstKept secondKept ⟨notLater, notOverlapping⟩
  have firstNonempty := nonempty first (mem_of_mem_longestFirst firstKept)
  have secondNonempty := nonempty second (mem_of_mem_longestFirst secondKept)
  simp only [overlaps, Bool.and_eq_false_iff, decide_eq_false_iff_not] at notOverlapping
  omega

/-- What is kept of non-empty candidates resolves them. -/
theorem resolves_longestFirst
    {candidates : List Candidate}
    (nonempty : ∀ candidate ∈ candidates, candidate.start < candidate.stop) :
    Resolves candidates (longestFirst candidates) where
  subset := fun _ => mem_of_mem_longestFirst
  ordered := ordered_longestFirst nonempty
  settled := by
    intro candidate member leftOut
    have offered : candidate ∈ candidates.mergeSort isPreferred :=
      List.mem_mergeSort.mpr member
    have noneBefore :
        ∀ before ∈ ([] : List Candidate), ∀ other ∈ candidates.mergeSort isPreferred,
          before.Outranks other := by
      simp
    rcases mem_or_overlapped_foldl_choose noneBefore (pairwise_outranks_mergeSort candidates)
        offered with
      chosen | ⟨other, chosen, overlap, outranks⟩
    · exact (leftOut (List.mem_mergeSort.mpr chosen)).elim
    · have otherKept : other ∈ longestFirst candidates := List.mem_mergeSort.mpr chosen
      have otherNonempty := nonempty other (mem_of_mem_longestFirst otherKept)
      rw [overlaps_comm, overlaps_iff otherNonempty (nonempty candidate member)] at overlap
      exact ⟨other, otherKept, overlap, outranks⟩

theorem exists_length_bound
    (candidates : List Candidate) :
    ∃ bound, ∀ candidate ∈ candidates, candidate.alignment.length ≤ bound := by
  induction candidates with
  | nil =>
      exact ⟨0, by simp⟩
  | cons first candidates inductionHypothesis =>
      obtain ⟨bound, bounded⟩ := inductionHypothesis
      refine ⟨max first.alignment.length bound, ?_⟩
      intro candidate member
      rcases List.mem_cons.mp member with rfl | later
      · exact Nat.le_max_left _ bound
      · exact Nat.le_trans (bounded candidate later) (Nat.le_max_right _ bound)

namespace Resolves

/-- Two kept candidates that share a word are the same. -/
theorem eq_of_sharesWord
    {candidates kept : List Candidate}
    (resolves : Resolves candidates kept)
    {first second : Candidate}
    (firstKept : first ∈ kept)
    (secondKept : second ∈ kept)
    (shares : first.SharesWord second) :
    first = second := by
  by_contra different
  have symmetric : Std.Symm fun left right : Candidate =>
      left.stop ≤ right.start ∨ right.stop ≤ left.start :=
    ⟨fun _ _ => Or.symm⟩
  have apart : kept.Pairwise fun left right : Candidate =>
      left.stop ≤ right.start ∨ right.stop ≤ left.start :=
    resolves.ordered.imp Or.inl
  obtain ⟨position, _, _⟩ := shares
  have := apart.forall firstKept secondKept different
  omega

/--
A candidate of one resolution is in any other one: if it were left out there, the kept
candidate that overlaps it would come before it and so be in both.
-/
theorem mem_of_mem
    {candidates kept others : List Candidate}
    (differ : RangesDiffer candidates)
    {bound : Nat}
    (bounded : ∀ candidate ∈ candidates, candidate.alignment.length ≤ bound)
    (resolves : Resolves candidates kept)
    (resolvesToo : Resolves candidates others)
    {candidate : Candidate}
    (member : candidate ∈ kept) :
    candidate ∈ others := by
  by_contra leftOut
  have isCandidate := resolves.subset member
  obtain ⟨other, otherMember, shares, outranks⟩ :=
    resolvesToo.settled candidate isCandidate leftOut
  have otherIsCandidate := resolvesToo.subset otherMember
  have different : other ≠ candidate := by
    rintro rfl
    exact leftOut otherMember
  have otherRange :
      ¬(other.start = candidate.start ∧
        other.alignment.length = candidate.alignment.length) := by
    rintro ⟨sameStart, sameLength⟩
    refine different (differ other otherIsCandidate candidate isCandidate sameStart ?_)
    rw [stop, stop, sameStart, sameLength]
  have otherBounded := bounded other otherIsCandidate
  have otherKept : other ∈ kept :=
    mem_of_mem differ bounded resolvesToo resolves otherMember
  exact different (resolves.eq_of_sharesWord otherKept member shares)
termination_by (bound - candidate.alignment.length, candidate.start)
decreasing_by
  rw [Prod.lex_def]
  unfold Outranks at outranks
  omega

/-- Candidates with different ranges are resolved in one way. -/
theorem eq_of_rangesDiffer
    {candidates kept others : List Candidate}
    (nonempty : ∀ candidate ∈ candidates, candidate.start < candidate.stop)
    (differ : RangesDiffer candidates)
    (resolves : Resolves candidates kept)
    (resolvesToo : Resolves candidates others) :
    kept = others := by
  obtain ⟨bound, bounded⟩ := exists_length_bound candidates
  have strictlyOrdered :
      ∀ {chosen : List Candidate}, Resolves candidates chosen →
        chosen.Pairwise fun first second => first.start < second.start := by
    intro chosen resolution
    refine resolution.ordered.imp_of_mem ?_
    intro first second firstMember _ before
    have := nonempty first (resolution.subset firstMember)
    omega
  have keptOrdered := strictlyOrdered resolves
  have othersOrdered := strictlyOrdered resolvesToo
  have sameMembers : ∀ candidate, candidate ∈ kept ↔ candidate ∈ others :=
    fun candidate =>
      ⟨mem_of_mem differ bounded resolves resolvesToo,
        mem_of_mem differ bounded resolvesToo resolves⟩
  have keptNodup : kept.Nodup := keptOrdered.imp (by rintro first _ before rfl; omega)
  have othersNodup : others.Nodup := othersOrdered.imp (by rintro first _ before rfl; omega)
  have permuted : kept.Perm others :=
    (List.perm_ext_iff_of_nodup keptNodup othersNodup).mpr sameMembers
  exact permuted.eq_of_pairwise (fun first second _ _ before after => by omega) keptOrdered
    othersOrdered

/-- The order in which candidates are given does not matter. -/
theorem of_perm
    {candidates kept others : List Candidate}
    (resolves : Resolves candidates kept)
    (permuted : candidates.Perm others) :
    Resolves others kept where
  subset := fun _ member => permuted.subset (resolves.subset member)
  ordered := resolves.ordered
  settled := fun candidate member => resolves.settled candidate (permuted.symm.subset member)

end Resolves

/-- Candidates with different ranges are resolved alike in whatever order they are given. -/
theorem longestFirst_eq_of_perm
    {candidates others : List Candidate}
    (nonempty : ∀ candidate ∈ candidates, candidate.start < candidate.stop)
    (differ : RangesDiffer candidates)
    (permuted : others.Perm candidates) :
    longestFirst others = longestFirst candidates := by
  have othersNonempty : ∀ candidate ∈ others, candidate.start < candidate.stop :=
    fun candidate member => nonempty candidate (permuted.subset member)
  exact ((resolves_longestFirst othersNonempty).of_perm permuted).eq_of_rangesDiffer nonempty
    differ (resolves_longestFirst nonempty)

end ProseRules.Candidate
