import ProseRules.Proofs.Pattern.Separation
import ProseRules.Proofs.Rule.Failures
import ProseRules.Proofs.Rule.Immunization

namespace ProseRules

/-!
# Sentences with a word that no token admits

A word that no token of a pattern or of its anti-patterns admits separates a sentence. What
is found, what is immunized and how overlaps are resolved is all decided on each side of it
alone, so the matches are those of the words before it and those of the words after it.
-/

section Ranges

/-- Of items that are left without repetitions no later one is the same as an earlier one. -/
theorem pairwise_eraseDupsBy
    {α : Type}
    (same : α → α → Bool)
    (items : List α) :
    (items.eraseDupsBy same).Pairwise fun earlier later => same later earlier = false := by
  induction length : items.length using Nat.strongRecOn generalizing items with
  | _ bound inductionHypothesis =>
      cases items with
      | nil =>
          exact List.Pairwise.nil
      | cons first rest =>
          rw [List.eraseDupsBy_cons]
          have shorter :
              (rest.filter fun other => same other first = false).length < bound := by
            have := List.length_filter_le (fun other => same other first = false) rest
            simp only [List.length_cons] at length
            omega
          refine .cons ?_ (inductionHypothesis _ shorter _ rfl)
          intro other member
          simpa using (List.mem_filter.mp (mem_of_mem_eraseDupsBy member)).2

/-- No two candidates have the same range. -/
theorem rangesDiffer_candidates
    (patterns : List (List Step))
    (words : List Word) :
    Candidate.RangesDiffer (candidates patterns words) := by
  intro first firstMember second secondMember sameStart sameStop
  simp only [candidates, candidatesFrom, List.mem_flatMap, List.mem_map] at firstMember secondMember
  obtain ⟨start, _, trail, isTrail, rfl⟩ := firstMember
  obtain ⟨_, _, other, isOther, rfl⟩ := secondMember
  obtain rfl := sameStart
  have sameLength : trail.length = other.length := by
    simpa [Candidate.stop] using sameStop
  have apart :=
    pairwise_eraseDupsBy (fun left right : List Nat => left.length == right.length)
      ((Thread.trails (patterns.map fun steps => ⟨steps, []⟩) (words.drop start)).filter
        (!·.isEmpty))
  by_contra different
  have symmetric :
      Std.Symm fun earlier later : List Nat => (later.length == earlier.length) = false :=
    ⟨fun earlier later differ => by rwa [BEq.comm]⟩
  have notSame :=
    apart.forall isTrail isOther fun isSame => different (by rw [isSame])
  simp [sameLength] at notSame

namespace Candidate

theorem Resolves.append_later
    {left right keptLeft keptRight : List Candidate}
    {count : Nat}
    (ends : ∀ candidate ∈ left, candidate.stop ≤ count)
    (resolvesLeft : Resolves left keptLeft)
    (resolvesRight : Resolves right keptRight) :
    Resolves (left ++ right.map (·.later count)) (keptLeft ++ keptRight.map (·.later count)) where
  subset :=
    List.append_subset.mpr
      ⟨List.subset_append_of_subset_left _ resolvesLeft.subset,
        List.subset_append_of_subset_right _ (List.map_subset _ resolvesRight.subset)⟩
  ordered := by
    rw [List.pairwise_append, List.pairwise_map]
    refine ⟨resolvesLeft.ordered, resolvesRight.ordered.imp fun before => ?_, ?_⟩
    · simpa using before
    · intro first isFirst second isSecond
      obtain ⟨candidate, _, rfl⟩ := List.mem_map.mp isSecond
      have := ends first (resolvesLeft.subset isFirst)
      rw [start_later]
      omega
  settled := by
    intro candidate member leftOut
    obtain ⟨notLeft, notRight⟩ := not_or.mp (mt List.mem_append.mpr leftOut)
    rcases List.mem_append.mp member with inLeft | inRight
    · obtain ⟨other, isKept, shares, outranks⟩ := resolvesLeft.settled candidate inLeft notLeft
      exact ⟨other, List.mem_append_left _ isKept, shares, outranks⟩
    · obtain ⟨origin, isOrigin, rfl⟩ := List.mem_map.mp inRight
      have originLeftOut : origin ∉ keptRight :=
        fun isKept => notRight (List.mem_map_of_mem isKept)
      obtain ⟨other, isKept, ⟨position, inOther, inOrigin⟩, outranks⟩ :=
        resolvesRight.settled origin isOrigin originLeftOut
      refine ⟨other.later count, List.mem_append_right _ (List.mem_map_of_mem isKept), ?_, ?_⟩
      · refine ⟨position + count, ?_, ?_⟩ <;> rw [start_later, stop_later] <;> omega
      · rcases outranks with isLonger | ⟨sameLength, notLater⟩
        · exact .inl isLonger
        · exact .inr ⟨sameLength, by rw [start_later, start_later]; omega⟩

/-- Overlaps are resolved on each side alone if the ranges of one side end before the other. -/
theorem longestFirst_append_later
    {left right : List Candidate}
    {count : Nat}
    (leftNonempty : ∀ candidate ∈ left, candidate.start < candidate.stop)
    (rightNonempty : ∀ candidate ∈ right, candidate.start < candidate.stop)
    (leftDiffer : RangesDiffer left)
    (rightDiffer : RangesDiffer right)
    (ends : ∀ candidate ∈ left, candidate.stop ≤ count) :
    longestFirst (left ++ right.map (·.later count)) =
      longestFirst left ++ (longestFirst right).map (·.later count) := by
  have nonempty :
      ∀ candidate ∈ left ++ right.map (·.later count), candidate.start < candidate.stop := by
    intro candidate member
    rcases List.mem_append.mp member with inLeft | inRight
    · exact leftNonempty candidate inLeft
    · obtain ⟨origin, isOrigin, rfl⟩ := List.mem_map.mp inRight
      have := rightNonempty origin isOrigin
      rw [start_later, stop_later]
      omega
  have differ : RangesDiffer (left ++ right.map (·.later count)) := by
    intro first isFirst second isSecond sameStart sameStop
    rcases List.mem_append.mp isFirst with firstLeft | firstRight <;>
      rcases List.mem_append.mp isSecond with secondLeft | secondRight
    · exact leftDiffer first firstLeft second secondLeft sameStart sameStop
    · obtain ⟨origin, _, rfl⟩ := List.mem_map.mp secondRight
      have := leftNonempty first firstLeft
      have := ends first firstLeft
      rw [start_later] at sameStart
      omega
    · obtain ⟨origin, _, rfl⟩ := List.mem_map.mp firstRight
      have := leftNonempty second secondLeft
      have := ends second secondLeft
      rw [start_later] at sameStart
      omega
    · obtain ⟨origin, isOrigin, rfl⟩ := List.mem_map.mp firstRight
      obtain ⟨other, isOther, rfl⟩ := List.mem_map.mp secondRight
      rw [start_later, start_later] at sameStart
      rw [stop_later, stop_later] at sameStop
      rw [rightDiffer origin isOrigin other isOther (by omega) (by omega)]
  exact (resolves_longestFirst nonempty).eq_of_rangesDiffer nonempty differ
    (.append_later ends (resolves_longestFirst leftNonempty)
      (resolves_longestFirst rightNonempty))

end Candidate

end Ranges

section Covering

variable {tokens : List Token} {separator : Word}

/-- The words that a pattern covers are words of the sentence. -/
theorem Token.Covers.inside
    {words : List Word}
    {index : Int}
    (covers : Token.Covers tokens words index) :
    0 ≤ index ∧ index < words.length := by
  obtain ⟨steps, compiled, candidate, isCandidate, fromStart, toStop⟩ := covers
  have someTokens : tokens ≠ [] := by
    rintro rfl
    exact Token.not_covers_nil words index
      ⟨steps, compiled, candidate, isCandidate, fromStart, toStop⟩
  have stepsLeft := Step.ofTokens_ne_nil someTokens compiled
  obtain ⟨_, inside⟩ := range_of_mem_candidates (by simpa using stepsLeft) isCandidate
  omega

/-- Around a separator a pattern covers what it covers on each side. -/
theorem Token.covers_append_iff
    (noneAdmits : ∀ token ∈ tokens, ¬token.Admits separator)
    (before after : List Word)
    (index : Int) :
    Token.Covers tokens (before ++ separator :: after) index ↔
      Token.Covers tokens before index ∨
        Token.Covers tokens after (index - (before.length + 1)) := by
  by_cases noTokens : tokens = []
  · subst noTokens
    simp only [Token.not_covers_nil, or_false]
  · have around
        (steps : List Step)
        (compiled : Step.ofTokens tokens = .ok steps) :
        candidates [steps] (before ++ separator :: after) =
          candidates [steps] before ++
            (candidates [steps] after).map (·.later (before.length + 1)) := by
      have stepsLeft := Step.ofTokens_ne_nil noTokens compiled
      have noneTakes := Step.noneTakes_of_not_admits compiled noneAdmits
      exact candidates_append_of_noneTakes (by simpa using stepsLeft) (by simpa using noneTakes)
        before after
    constructor
    · rintro ⟨steps, compiled, candidate, isCandidate, fromStart, toStop⟩
      rw [around steps compiled] at isCandidate
      rcases List.mem_append.mp isCandidate with isBefore | isAfter
      · exact .inl ⟨steps, compiled, candidate, isBefore, fromStart, toStop⟩
      · obtain ⟨origin, isOrigin, rfl⟩ := List.mem_map.mp isAfter
        rw [Candidate.start_later] at fromStart
        rw [Candidate.stop_later] at toStop
        exact .inr ⟨steps, compiled, origin, isOrigin, by omega, by omega⟩
    · rintro (⟨steps, compiled, candidate, isBefore, fromStart, toStop⟩ |
        ⟨steps, compiled, origin, isAfter, fromStart, toStop⟩)
      · refine ⟨steps, compiled, candidate, ?_, fromStart, toStop⟩
        rw [around steps compiled]
        exact List.mem_append_left _ isBefore
      · refine ⟨steps, compiled, origin.later (before.length + 1), ?_, ?_, ?_⟩
        · rw [around steps compiled]
          exact List.mem_append_right _ (List.mem_map_of_mem isAfter)
        · rw [Candidate.start_later]
          omega
        · rw [Candidate.stop_later]
          omega

/-- What anti-patterns immunize around a separator is what they immunize on each side. -/
structure ImmunizedApart (left right whole : Sentence) (place : Nat) : Prop where
  before :
    ∀ start stop : Int, stop ≤ place → whole.isImmunized start stop = left.isImmunized start stop
  after :
    ∀ start stop : Int,
      0 ≤ start →
        whole.isImmunized (start + (place + 1)) (stop + (place + 1)) =
          right.isImmunized start stop

theorem immunizedApart
    {antipatterns : List (List Token)}
    (noneAdmits : ∀ tokens ∈ antipatterns, ∀ token ∈ tokens, ¬token.Admits separator)
    {left right whole : Sentence}
    (isWhole : whole.words = left.words ++ separator :: right.words)
    (leftFree : left.immunized = [])
    (rightFree : right.immunized = [])
    (wholeFree : whole.immunized = [])
    {leftImmunized rightImmunized wholeImmunized : Sentence}
    (ofLeft : immunizeByAntipatterns antipatterns left = .ok leftImmunized)
    (ofRight : immunizeByAntipatterns antipatterns right = .ok rightImmunized)
    (ofWhole : immunizeByAntipatterns antipatterns whole = .ok wholeImmunized) :
    ImmunizedApart leftImmunized rightImmunized wholeImmunized left.words.length := by
  have inLeft_iff (index : Int) := @mem_immunized_iff _ _ _ ofLeft index
  have inRight_iff (index : Int) := @mem_immunized_iff _ _ _ ofRight index
  have inWhole_iff
      (index : Int) :
      index ∈ wholeImmunized.immunized ↔
        index ∈ leftImmunized.immunized ∨
          index - (left.words.length + 1) ∈ rightImmunized.immunized := by
    rw [mem_immunized_iff ofWhole, inLeft_iff, inRight_iff, wholeFree, leftFree, rightFree, isWhole]
    simp only [List.not_mem_nil, false_or]
    rw [← exists_or]
    refine exists_congr fun tokens => ?_
    rw [← and_or_left]
    exact and_congr_right fun isAntipattern =>
      Token.covers_append_iff (noneAdmits tokens isAntipattern) _ _ _
  have leftInside :
      ∀ index ∈ leftImmunized.immunized, 0 ≤ index ∧ index < left.words.length := by
    intro index member
    rw [inLeft_iff, leftFree] at member
    obtain isPreset | ⟨_, _, covers⟩ := member
    · cases isPreset
    · exact covers.inside
  have rightInside : ∀ index ∈ rightImmunized.immunized, 0 ≤ index := by
    intro index member
    rw [inRight_iff, rightFree] at member
    obtain isPreset | ⟨_, _, covers⟩ := member
    · cases isPreset
    · exact covers.inside.1
  constructor
  case before =>
    intro start stop isBefore
    rw [← Bool.not_inj_iff, Bool.eq_iff_iff, Bool.not_eq_true', Bool.not_eq_true',
      Sentence.isImmunized_eq_false_iff, Sentence.isImmunized_eq_false_iff]
    constructor
    · intro noneOfWhole index isLeft
      exact noneOfWhole index ((inWhole_iff index).mpr (.inl isLeft))
    · intro noneOfLeft index member inRange
      rcases (inWhole_iff index).mp member with isLeft | isRight
      · exact noneOfLeft index isLeft inRange
      · have := rightInside _ isRight
        omega
  case after =>
    intro start stop isAfter
    rw [← Bool.not_inj_iff, Bool.eq_iff_iff, Bool.not_eq_true', Bool.not_eq_true',
      Sentence.isImmunized_eq_false_iff, Sentence.isImmunized_eq_false_iff]
    constructor
    · intro noneOfWhole index isRight inRange
      refine noneOfWhole (index + (left.words.length + 1)) ((inWhole_iff _).mpr (.inr ?_))
        (by omega)
      rwa [Int.add_sub_cancel]
    · intro noneOfRight index member inRange
      rcases (inWhole_iff index).mp member with isLeft | isRight
      · have := leftInside _ isLeft
        omega
      · exact noneOfRight _ isRight (by omega)

end Covering

namespace Rule

variable {rule : Rule} {tokens : List Token} {sentence : Sentence} {found : List RuleMatch}

/-- No word of the candidate is immunized. -/
def isFree (sentence : Sentence) (candidate : Candidate) : Bool :=
  !sentence.isImmunized candidate.start candidate.stop

/-- What is left after immunization are the candidates without an immunized word. -/
theorem eq_filter_of_withoutImmunized
    {scale : UnitScale}
    {candidates kept : List Candidate}
    (marked :
      ∀ candidate ∈ candidates,
        scale.marked rule.startCorrection rule.endCorrection candidate =
          .ok (candidate.start, candidate.stop))
    (succeeds : rule.withoutImmunized scale sentence candidates = .ok kept) :
    kept = candidates.filter (isFree sentence) := by
  induction candidates generalizing kept with
  | nil =>
      cases succeeds
      rfl
  | cons candidate candidates inductionHypothesis =>
      obtain ⟨isFirst, others⟩ := List.forall_mem_cons.mp marked
      obtain ⟨first, last, isMarked, keptLater, laterSucceeds, isKept⟩ :=
        withoutImmunized_cons_eq_ok_iff.mp succeeds
      cases isFirst.symm.trans isMarked
      rw [List.filter_cons, isFree, ← inductionHypothesis others laterSucceeds]
      obtain ⟨isImmunized, _, rfl⟩ | ⟨notImmunized, rfl⟩ := isKept
      · simp [isImmunized]
      · simp [notImmunized]

theorem marked_without_corrections
    (sameTokens : rule.tokens = tokens)
    (fromStart : rule.startCorrection = 0)
    (fromEnd : rule.endCorrection = 0)
    {steps : List Step}
    (compiled : Step.ofTokens tokens = .ok steps)
    (stepsLeft : steps ≠ [])
    (words : List Word) :
    ∀ candidate ∈ candidates [steps] words,
      (UnitScale.ofRule rule).marked rule.startCorrection rule.endCorrection candidate =
        .ok (candidate.start, candidate.stop) := by
  rw [fromStart, fromEnd]
  exact fun candidate => marked_of_mem_candidates sameTokens compiled stepsLeft

/-- Without references and corrections the flagged words are the ranges that are kept. -/
theorem wordSpans_of_matchTokens
    (sameTokens : rule.tokens = tokens)
    (someTokens : tokens ≠ [])
    (noReference : ∀ token ∈ tokens, token.reference = none)
    (fromStart : rule.startCorrection = 0)
    (fromEnd : rule.endCorrection = 0)
    {steps : List Step}
    (compiled : Step.ofTokens tokens = .ok steps)
    (succeeds : rule.matchTokens tokens sentence = .ok found) :
    found.map (·.wordSpan) =
      (Candidate.longestFirst ((candidates [steps] sentence.words).filter (isFree sentence))).map
        fun candidate => ((candidate.start : Int), (candidate.stop : Int)) := by
  obtain ⟨_, allowed, compiled', stepsLeft, allowedSucceeds, matched⟩ :=
    exists_allowed_of_matchTokens someTokens succeeds
  cases compiled.symm.trans compiled'
  have marked :=
    marked_without_corrections sameTokens fromStart fromEnd compiled stepsLeft sentence.words
  have noneRefused :
      (candidates [steps] sentence.words).filter (referencesHold sentence.words tokens) =
        candidates [steps] sentence.words :=
    List.filter_eq_self.mpr fun candidate _ =>
      referencesHold_of_no_reference noReference sentence.words candidate
  rw [noneRefused] at allowedSucceeds
  obtain rfl := eq_filter_of_withoutImmunized marked allowedSucceeds
  have keptMarked :
      ∀ candidate ∈
          Candidate.longestFirst ((candidates [steps] sentence.words).filter (isFree sentence)),
        (UnitScale.ofRule rule).marked rule.startCorrection rule.endCorrection candidate =
          .ok (candidate.start, candidate.stop) :=
    fun candidate kept =>
      marked candidate (List.mem_filter.mp (Candidate.mem_of_mem_longestFirst kept)).1
  have sameRanges :
      List.Forall₂ Eq
        ((Candidate.longestFirst
            ((candidates [steps] sentence.words).filter (isFree sentence))).map
          fun candidate => ((candidate.start : Int), (candidate.stop : Int)))
        (found.map (·.wordSpan)) := by
    rw [List.forall₂_map_left_iff, List.forall₂_map_right_iff]
    refine ((List.forall₂_and_left _ _).mpr ⟨keptMarked, matched⟩).imp ?_
    rintro candidate ruleMatch ⟨isMarked, ofCandidate⟩
    obtain ⟨first, last, isMarked', wordSpan⟩ := wordSpan_of_matchOfCandidate ofCandidate
    cases isMarked.symm.trans isMarked'
    exact wordSpan.symm
  rw [List.forall₂_eq_eq_eq] at sameRanges
  exact sameRanges.symm

/-- A span of words as many words later. -/
def laterSpan (count : Nat) (span : Int × Int) : Int × Int :=
  (span.1 + count, span.2 + count)

/-- What is not immunized around a separator is what is not immunized on each side. -/
theorem filter_isFree_append
    {left right whole : Sentence}
    {place : Nat}
    (apart : ImmunizedApart left right whole place)
    {before after : List Candidate}
    (ends : ∀ candidate ∈ before, candidate.stop ≤ place) :
    (before ++ after.map (·.later (place + 1))).filter (isFree whole) =
      before.filter (isFree left) ++ (after.filter (isFree right)).map (·.later (place + 1)) := by
  rw [List.filter_append, List.filter_map]
  have sameBefore :
      before.filter (isFree whole) = before.filter (isFree left) := by
    refine List.filter_congr fun candidate member => ?_
    have := ends candidate member
    rw [isFree, isFree, apart.before _ _ (by omega)]
  have sameAfter :
      after.filter (isFree whole ∘ (·.later (place + 1))) = after.filter (isFree right) := by
    refine List.filter_congr fun candidate _ => ?_
    rw [Function.comp_apply, isFree, isFree, ← apart.after _ _ (Int.natCast_nonneg _)]
    simp
  rw [sameBefore, sameAfter]

/-- The ranges that are kept around a separator are those that are kept on each side. -/
theorem longestFirst_isFree_append
    {steps : List Step}
    (stepsLeft : steps ≠ [])
    {separator : Word}
    (noneTakes : Step.NoneTakes steps separator)
    {left right whole : Sentence}
    (isWhole : whole.words = left.words ++ separator :: right.words)
    (apart : ImmunizedApart left right whole left.words.length) :
    Candidate.longestFirst ((candidates [steps] whole.words).filter (isFree whole)) =
      Candidate.longestFirst ((candidates [steps] left.words).filter (isFree left)) ++
        (Candidate.longestFirst ((candidates [steps] right.words).filter (isFree right))).map
          (·.later (left.words.length + 1)) := by
  have patternLeft : ∀ other ∈ [steps], other ≠ [] := by simpa using stepsLeft
  have inside
      (words : List Word) :
      ∀ candidate ∈ candidates [steps] words,
        candidate.start < candidate.stop ∧ candidate.stop ≤ words.length :=
    fun _ => range_of_mem_candidates patternLeft
  have freeNonempty
      (sentence : Sentence) :
      ∀ candidate ∈ (candidates [steps] sentence.words).filter (isFree sentence),
        candidate.start < candidate.stop :=
    fun candidate member => (inside _ candidate (List.mem_filter.mp member).1).1
  have freeDiffer
      (sentence : Sentence) :
      Candidate.RangesDiffer ((candidates [steps] sentence.words).filter (isFree sentence)) :=
    fun first isFirst second isSecond =>
      rangesDiffer_candidates [steps] sentence.words first (List.mem_filter.mp isFirst).1 second
        (List.mem_filter.mp isSecond).1
  rw [isWhole, candidates_append_of_noneTakes patternLeft (by simpa using noneTakes),
    filter_isFree_append apart fun candidate member => (inside _ candidate member).2]
  refine Candidate.longestFirst_append_later (freeNonempty left) (freeNonempty right)
    (freeDiffer left) (freeDiffer right) fun candidate member => ?_
  exact Nat.le_succ_of_le (inside _ candidate (List.mem_filter.mp member).1).2

/--
A word that no token of a pattern and of its anti-patterns admits separates a sentence: the
words flagged in it are those flagged before the separator and those flagged after it.
-/
theorem wordSpans_append_of_separator
    {precede : referencesPrecede tokens}
    (pattern : rule.pattern = .tokens tokens precede)
    (defaultImmunizer : rule.ownImmunizer = none)
    (noReference : ∀ token ∈ tokens, token.reference = none)
    (fromStart : rule.startCorrection = 0)
    (fromEnd : rule.endCorrection = 0)
    {separator : Word}
    (noneAdmits : ∀ token ∈ tokens, ¬token.Admits separator)
    (noAntipatternAdmits :
      ∀ antipattern ∈ rule.antipatterns, ∀ token ∈ antipattern, ¬token.Admits separator)
    {left right whole : Sentence}
    (isWhole : whole.words = left.words ++ separator :: right.words)
    (leftFree : left.immunized = [])
    (rightFree : right.immunized = [])
    (wholeFree : whole.immunized = [])
    {inLeft inRight inWhole : List RuleMatch}
    (leftSucceeds : rule.matchesIn left = .ok inLeft)
    (rightSucceeds : rule.matchesIn right = .ok inRight)
    (wholeSucceeds : rule.matchesIn whole = .ok inWhole) :
    inWhole.map (·.wordSpan) =
      inLeft.map (·.wordSpan) ++
        (inRight.map (·.wordSpan)).map (laterSpan (left.words.length + 1)) := by
  have sameTokens : rule.tokens = tokens := by rw [Rule.tokens, pattern]
  obtain ⟨leftImmunized, ofLeft, leftMatched⟩ := exists_immunized_of_matchesIn pattern leftSucceeds
  obtain ⟨rightImmunized, ofRight, rightMatched⟩ :=
    exists_immunized_of_matchesIn pattern rightSucceeds
  obtain ⟨wholeImmunized, ofWhole, wholeMatched⟩ :=
    exists_immunized_of_matchesIn pattern wholeSucceeds
  have leftWords := words_of_immunizer defaultImmunizer ofLeft
  have rightWords := words_of_immunizer defaultImmunizer ofRight
  have wholeWords := words_of_immunizer defaultImmunizer ofWhole
  by_cases noTokens : tokens = []
  · subst noTokens
    rw [eq_nil_of_matchTokens_nil leftMatched, eq_nil_of_matchTokens_nil rightMatched,
      eq_nil_of_matchTokens_nil wholeMatched]
    rfl
  obtain ⟨steps, _, compiled, stepsLeft, _⟩ := exists_allowed_of_matchTokens noTokens leftMatched
  have noneTakes := Step.noneTakes_of_not_admits compiled noneAdmits
  simp only [immunizer, defaultImmunizer, Option.getD_none] at ofLeft ofRight ofWhole
  have apart :=
    immunizedApart noAntipatternAdmits isWhole leftFree rightFree wholeFree ofLeft ofRight ofWhole
  rw [← leftWords] at apart isWhole ⊢
  rw [← rightWords, ← wholeWords] at isWhole
  have spansIn
      {sentence : Sentence}
      {found : List RuleMatch} :=
    @wordSpans_of_matchTokens rule tokens sentence found sameTokens noTokens noReference fromStart
      fromEnd steps compiled
  rw [spansIn leftMatched, spansIn rightMatched, spansIn wholeMatched,
    longestFirst_isFree_append stepsLeft noneTakes isWhole apart]
  simp [Function.comp_def, laterSpan]

/-- The rule of any day but a fine one. -/
def dayExceptFine : Rule :=
  { withTokens [.literal "day" false false]
      (badReference?_eq_none_iff.mp (by decide)) with
    antipatterns := [[.literal "fine" false false, .literal "day" false false]] }

/-- A sentence of these words. -/
def sentenceOf (texts : List String) : Sentence where
  words := texts.map fun text => { text := text }

theorem exists_matchesIn_dayExceptFine
    {texts : List String}
    {indices : List Int}
    (immunizes :
      dayExceptFine.immunizer (sentenceOf texts) = .ok ((sentenceOf texts).immunize indices)) :
    ∃ found, dayExceptFine.matchesIn (sentenceOf texts) = .ok found := by
  have accepted :
      acceptedCandidates dayExceptFine.tokens ((sentenceOf texts).immunize indices).words = _ :=
    acceptedCandidates_of_compiled (by rfl) _
  have templates : dayExceptFine.HasTemplates :=
    (@exists_buildMatch_iff _ (sentenceOf texts) (0, 0) (0, 0) fun _ => "").mp ⟨_, rfl⟩
  obtain ⟨found, matched⟩ :=
    exists_matchAccepted (Int.le_refl 0) (Int.le_refl 0)
      (fun _ => pairwise_alignment_of_acceptedCandidates accepted) templates fun _ => rfl
  refine ⟨found, matchesIn_of_immunized rfl immunizes ?_⟩
  exact (matchTokens_eq_bind _ _ _).trans (Outcome.bind_eq_ok_iff.mpr ⟨_, accepted, matched⟩)

/-- A comma is no fine day, so what is flagged is decided on each side of it. -/
theorem wordSpans_append_of_comma :
    ∃ inLeft inRight inWhole,
      dayExceptFine.matchesIn (sentenceOf ["day"]) = .ok inLeft ∧
        dayExceptFine.matchesIn (sentenceOf ["fine", "day", "day"]) = .ok inRight ∧
          dayExceptFine.matchesIn (sentenceOf ["day", ",", "fine", "day", "day"]) =
            .ok inWhole ∧
            inWhole.map (·.wordSpan) =
              inLeft.map (·.wordSpan) ++ (inRight.map (·.wordSpan)).map (laterSpan 2) := by
  obtain ⟨inLeft, leftSucceeds⟩ := @exists_matchesIn_dayExceptFine ["day"] [] (by rfl)
  obtain ⟨inRight, rightSucceeds⟩ :=
    @exists_matchesIn_dayExceptFine ["fine", "day", "day"] [0, 1] (by rfl)
  obtain ⟨inWhole, wholeSucceeds⟩ :=
    @exists_matchesIn_dayExceptFine ["day", ",", "fine", "day", "day"] [2, 3] (by rfl)
  have dayRefuses : ¬(Token.literal "day" false false).Admits { text := "," } := by
    rintro ⟨test, prepared, passes⟩
    cases prepared
    revert passes
    decide
  have fineRefuses : ¬(Token.literal "fine" false false).Admits { text := "," } := by
    rintro ⟨test, prepared, passes⟩
    cases prepared
    revert passes
    decide
  exact ⟨inLeft, inRight, inWhole, leftSucceeds, rightSucceeds, wholeSucceeds,
    wordSpans_append_of_separator rfl rfl (by decide) rfl rfl (by simpa using dayRefuses)
      (by simpa [dayExceptFine] using ⟨fineRefuses, dayRefuses⟩) rfl rfl rfl rfl leftSucceeds
      rightSucceeds wholeSucceeds⟩

end Rule

end ProseRules
