import ProseRules.Proofs.Definition.RenderedReferences
import ProseRules.Proofs.Rule.Marks

namespace ProseRules

/-!
# The units of a match have all of its words

A reference in a message shows the words of one unit. Every token lies in one unit and the words
of a candidate are given to the tokens in order, so the units show the words of the candidate
one after the other, each once. A number that belongs to no unit shows nothing.
-/

namespace Candidate

variable {candidate : Candidate}

theorem pairwise_positionsOf
    (candidate : Candidate)
    (token : Nat) :
    (candidate.positionsOf token).Pairwise (· < ·) := by
  have places :
      (candidate.alignment.zipIdx candidate.start).Pairwise fun first second =>
        first.2 < second.2 := by
    rw [← List.pairwise_map, List.zipIdx_map_snd]
    exact List.pairwise_lt_range' 1
  rw [positionsOf, List.pairwise_filterMap]
  refine places.imp fun inOrder position isPosition other isOther => ?_
  simp only [Option.ite_none_right_eq_some, Option.some.injEq] at isPosition isOther
  omega

/-- A word of an earlier token stands before a word of a later one. -/
theorem lt_of_mem_positionsOf
    (alignedInOrder : candidate.alignment.Pairwise (· ≤ ·))
    {token later : Nat}
    (isLater : token < later)
    {position other : Nat}
    (given : position ∈ candidate.positionsOf token)
    (otherGiven : other ∈ candidate.positionsOf later) :
    position < other := by
  obtain ⟨notBefore, atPlace⟩ := mem_positionsOf_iff.mp given
  obtain ⟨otherNotBefore, atOther⟩ := mem_positionsOf_iff.mp otherGiven
  obtain ⟨inside, isToken⟩ := List.getElem?_eq_some_iff.mp atPlace
  obtain ⟨otherInside, isOther⟩ := List.getElem?_eq_some_iff.mp atOther
  by_contra notBeforeOther
  have inOrder :
      candidate.alignment[other - candidate.start] ≤
        candidate.alignment[position - candidate.start] :=
    (List.sortedLE_iff_pairwise.mpr alignedInOrder).getElem_le_getElem_of_le (by omega)
  omega

/-- The words of all tokens, one token after the other, are those of the candidate in order. -/
theorem flatMap_positionsOf_range
    (alignedInOrder : candidate.alignment.Pairwise (· ≤ ·))
    {tokens : Nat}
    (owners : ∀ token ∈ candidate.alignment, token < tokens) :
    (List.range tokens).flatMap candidate.positionsOf =
      List.range' candidate.start candidate.alignment.length := by
  refine List.Pairwise.eq_of_mem_iff ?_ (List.pairwise_lt_range' 1) fun position => ?_
  · rw [List.pairwise_flatMap]
    refine ⟨fun token _ => candidate.pairwise_positionsOf token, ?_⟩
    refine List.pairwise_lt_range.imp fun isLater position given other otherGiven => ?_
    exact lt_of_mem_positionsOf alignedInOrder isLater given otherGiven
  · have allTokens := @positionsBetween_eq candidate tokens 0 tokens (Nat.zero_le _) le_rfl
    rw [Nat.sub_zero, ← List.range_eq_range'] at allTokens
    rw [← allTokens, List.mem_range'_1, Int.ofNat_zero, mem_positionsBetween_all_iff owners, stop]

/-- The words given to the tokens of a unit. -/
def positionsOfUnit (candidate : Candidate) (sizes : List Nat) (unit : Nat) : List Nat :=
  candidate.positionsBetween sizes.sum (sizes.take unit).sum (sizes.take (unit + 1)).sum

theorem mem_positionsOfUnit_iff
    {sizes : List Nat}
    {unit : Nat}
    (unitExists : unit < sizes.length)
    {position : Nat} :
    position ∈ candidate.positionsOfUnit sizes unit ↔
      candidate.LiesInUnits sizes unit (unit + 1) position :=
  mem_positionsBetween_iff_liesInUnits (Nat.le_succ unit) unitExists

/-- The words of the first units are those of the tokens before the next unit. -/
theorem flatMap_positionsOfUnit_range
    (candidate : Candidate)
    (sizes : List Nat)
    {units : Nat}
    (unitsExist : units ≤ sizes.length) :
    (List.range units).flatMap (candidate.positionsOfUnit sizes) =
      (List.range (sizes.take units).sum).flatMap candidate.positionsOf := by
  induction units with
  | zero =>
      rfl
  | succ unit inductionHypothesis =>
      have stopOfUnit :
          (sizes.take (unit + 1)).sum = (sizes.take unit).sum + sizes[unit] := by
        rw [List.take_succ_eq_append_getElem unitsExist, List.sum_append, List.sum_singleton]
      have ofUnit :
          candidate.positionsOfUnit sizes unit =
            (List.range' (sizes.take unit).sum sizes[unit]).flatMap candidate.positionsOf := by
        rw [positionsOfUnit, positionsBetween_eq (by omega) (sum_take_le_sum sizes (unit + 1)),
          stopOfUnit, Nat.add_sub_cancel_left]
      rw [List.range_succ, List.flatMap_append, inductionHypothesis (Nat.le_of_succ_le unitsExist),
        List.flatMap_singleton, ofUnit, ← List.flatMap_append, stopOfUnit, List.range_eq_range',
        List.range_eq_range', ← List.range'_append_1, Nat.zero_add]

end Candidate

section Texts

variable {words : List Word}

/-- The text of a range of words joins the texts of these words. -/
theorem textOfWords_range'
    (words : List Word)
    (start count : Nat) :
    textOfWords words (List.range' start count) =
      String.intercalate " " (((words.drop start).take count).map (·.text)) := by
  refine congrArg (String.intercalate " ") ?_
  induction count generalizing start with
  | zero =>
      rfl
  | succ count inductionHypothesis =>
      rw [List.range'_succ, List.filterMap_cons, inductionHypothesis, ← List.tail_drop,
        ← List.head?_drop]
      cases words.drop start <;> simp

theorem filterMap_text_ne_nil
    {positions : List Nat}
    (inside : ∀ position ∈ positions, position < words.length)
    (somePosition : positions ≠ []) :
    (positions.filterMap fun position => (words[position]?).map (·.text)) ≠ [] := by
  obtain ⟨position, member⟩ := List.exists_mem_of_ne_nil positions somePosition
  intro noText
  have textless := List.filterMap_eq_nil_iff.mp noText position member
  rw [List.getElem?_eq_getElem (inside position member)] at textless
  cases textless

/-- The text of two rows of words has a blank between the texts of the rows. -/
theorem textOfWords_append
    {first second : List Nat}
    (inside : ∀ position ∈ first, position < words.length)
    (someFirst : first ≠ [])
    (laterInside : ∀ position ∈ second, position < words.length)
    (someSecond : second ≠ []) :
    textOfWords words (first ++ second) =
      textOfWords words first ++ " " ++ textOfWords words second := by
  rw [textOfWords, List.filterMap_append]
  exact
    String.intercalate_append_of_ne_nil (filterMap_text_ne_nil inside someFirst)
      (filterMap_text_ne_nil laterInside someSecond)

/-- The texts of rows of words, those of empty rows left out, join to the text of all words. -/
theorem intercalate_texts_of_rows
    (noEmptyWord : ∀ word ∈ words, word.text ≠ "")
    {rows : List (List Nat)}
    (inside : ∀ row ∈ rows, ∀ position ∈ row, position < words.length) :
    String.intercalate " " ((rows.map (textOfWords words)).filter (· ≠ "")) =
      textOfWords words rows.flatten := by
  induction rows with
  | nil =>
      rfl
  | cons row rows inductionHypothesis =>
      obtain ⟨insideRow, insideLater⟩ := List.forall_mem_cons.mp inside
      have later := inductionHypothesis insideLater
      have laterInside : ∀ position ∈ rows.flatten, position < words.length := by
        intro position member
        obtain ⟨other, isRow, inRow⟩ := List.mem_flatten.mp member
        exact insideLater other isRow position inRow
      rw [List.map_cons, List.flatten_cons]
      by_cases emptyRow : row = []
      · subst emptyRow
        rw [List.filter_cons_of_neg (by simp [textOfWords]), later, List.nil_append]
      · have hasText := textOfWords_ne_empty noEmptyWord insideRow emptyRow
        rw [List.filter_cons_of_pos (by simpa using hasText)]
        by_cases noneLater : rows.flatten = []
        · have noTexts : (rows.map (textOfWords words)).filter (· ≠ "") = [] := by
            rw [List.filter_eq_nil_iff]
            intro text member
            obtain ⟨other, isRow, rfl⟩ := List.mem_map.mp member
            rw [List.flatten_eq_nil_iff.mp noneLater other isRow]
            simp [textOfWords]
          rw [noTexts, noneLater, String.intercalate_singleton, List.append_nil]
        · have someTexts : (rows.map (textOfWords words)).filter (· ≠ "") ≠ [] := by
            intro noTexts
            rw [noTexts, String.intercalate_nil] at later
            exact textOfWords_ne_empty noEmptyWord laterInside noneLater later.symm
          rw [← List.singleton_append, String.intercalate_append_of_ne_nil (by simp) someTexts,
            later, String.intercalate_singleton,
            textOfWords_append insideRow emptyRow laterInside noneLater]

end Texts

namespace Rule

/--
The references with the numbers of the units show the words of the candidate in order, each of
them once, and other references show nothing.
-/
structure RendersEachWord (rule : Rule) (words : List Word) (candidate : Candidate) : Prop where
  parted :
    ∃ rows : List (List Nat),
      rows.length = rule.unitSizes.length ∧
        rows.flatten = List.range' candidate.start candidate.alignment.length ∧
          ∀ unit row,
            rows[unit]? = some row →
              rule.rendered words candidate (unit + 1) = textOfWords words row ∧
                ∀ position,
                  position ∈ row ↔ candidate.LiesInUnits rule.unitSizes unit (unit + 1) position
  joined :
    String.intercalate " "
        (((List.range rule.unitSizes.length).map fun unit =>
          rule.rendered words candidate (unit + 1)).filter (· ≠ "")) =
      String.intercalate " "
        ((wordsBetween words candidate.start candidate.stop).map (·.text))
  others :
    ∀ number,
      number = 0 ∨ rule.unitSizes.length < number → rule.rendered words candidate number = ""

variable {rule : Rule} {words : List Word} {candidate : Candidate}

theorem rendered_eq_empty
    {number : Nat}
    (noUnit : number = 0 ∨ rule.unitSizes.length < number) :
    rule.rendered words candidate number = "" := by
  have outOfRange :
      Int.ofNat number - 1 < 0 ∨ Int.ofNat number - 1 ≥ (UnitScale.ofRule rule).count := by
    rw [UnitScale.count_ofRule, Int.ofNat_eq_natCast]
    omega
  rw [rendered, UnitScale.unitText, if_pos outOfRange]

/-- Where the words of a candidate are given to the tokens in order, each of them is shown. -/
theorem rendersEachWord_of_aligned
    (noEmptyWord : ∀ word ∈ words, word.text ≠ "")
    (alignedInOrder : candidate.alignment.Pairwise (· ≤ ·))
    (owners : ∀ token ∈ candidate.alignment, token < rule.tokens.length)
    (inside : candidate.stop ≤ words.length) :
    rule.RendersEachWord words candidate := by
  have allTokens : rule.unitSizes.sum = rule.tokens.length := Token.sum_unitSizes rule.tokens
  have inUnit (unit : Nat) (unitExists : unit < rule.unitSizes.length) :
      rule.rendered words candidate (unit + 1) =
        textOfWords words (candidate.positionsOfUnit rule.unitSizes unit) := by
    rw [rendered_succ_eq unitExists, Candidate.positionsOfUnit, allTokens]
  have together :
      ((List.range rule.unitSizes.length).map
          (candidate.positionsOfUnit rule.unitSizes)).flatten =
        List.range' candidate.start candidate.alignment.length := by
    rw [← List.flatMap_def, Candidate.flatMap_positionsOfUnit_range candidate _ le_rfl,
      List.take_length, allTokens, Candidate.flatMap_positionsOf_range alignedInOrder owners]
  constructor
  case parted =>
    refine ⟨_, by rw [List.length_map, List.length_range], together, fun unit row isRow => ?_⟩
    rw [List.getElem?_map, Option.map_eq_some_iff] at isRow
    obtain ⟨_, isUnit, rfl⟩ := isRow
    obtain ⟨unitExists, rfl⟩ := List.getElem?_eq_some_iff.mp isUnit
    rw [List.length_range] at unitExists
    rw [List.getElem_range]
    exact ⟨inUnit unit unitExists, fun position => Candidate.mem_positionsOfUnit_iff unitExists⟩
  case joined =>
    have shown :
        ((List.range rule.unitSizes.length).map fun unit =>
            rule.rendered words candidate (unit + 1)) =
          ((List.range rule.unitSizes.length).map
            (candidate.positionsOfUnit rule.unitSizes)).map (textOfWords words) := by
      rw [List.map_map]
      exact List.map_congr_left fun unit isUnit => inUnit unit (List.mem_range.mp isUnit)
    have unitsInside :
        ∀ row ∈ (List.range rule.unitSizes.length).map (candidate.positionsOfUnit rule.unitSizes),
          ∀ position ∈ row, position < words.length := by
      intro row isRow position member
      have inRange := List.mem_flatten_of_mem isRow member
      rw [together, List.mem_range'_1] at inRange
      rw [Candidate.stop] at inside
      omega
    rw [shown, intercalate_texts_of_rows noEmptyWord unitsInside, together, textOfWords_range',
      wordsBetween, Candidate.stop, Nat.add_sub_cancel_left]
  case others =>
    exact fun number noUnit => rendered_eq_empty noUnit

/--
The units of a candidate whose words are given to the tokens in order show each of its words
once and in order. Every match of a rule with tokens is built with what is shown of such a
candidate.
-/
theorem rendersEachWord_of_candidates_and_matches
    (rule : Rule) :
    (∀ (words : List Word) (candidate : Candidate),
        (∀ word ∈ words, word.text ≠ "") →
          candidate.alignment.Pairwise (· ≤ ·) →
            (∀ token ∈ candidate.alignment, token < rule.tokens.length) →
              candidate.stop ≤ words.length → rule.RendersEachWord words candidate) ∧
      ∀ (tokens : List Token) (precede : referencesPrecede tokens),
        rule.pattern = .tokens tokens precede →
          ∀ (sentence : Sentence) (found : List RuleMatch),
            rule.matchesIn sentence = .ok found →
              ∃ immunized,
                rule.immunizer sentence = .ok immunized ∧
                  ((∀ word ∈ immunized.words, word.text ≠ "") →
                    ∀ ruleMatch ∈ found,
                      ∃ accepted,
                        acceptedCandidates tokens immunized.words = .ok accepted ∧
                          ∃ candidate ∈ accepted,
                            (∃ span wordSpan,
                                rule.buildMatch immunized span wordSpan
                                    (rule.rendered immunized.words candidate) = .ok ruleMatch) ∧
                              rule.RendersEachWord immunized.words candidate) := by
  refine ⟨fun words candidate => rendersEachWord_of_aligned, ?_⟩
  intro tokens precede pattern sentence found succeeds
  obtain ⟨immunized, immunizes, matched⟩ := exists_immunized_of_matchesIn pattern succeeds
  refine ⟨immunized, immunizes, fun noEmptyWord ruleMatch member => ?_⟩
  obtain ⟨steps, compiled, stepsLeft, candidate, isCandidate, hold, ofCandidate⟩ :=
    exists_candidate_of_mem_matchTokens matched member
  obtain ⟨⟨first, last⟩, _, built⟩ := Outcome.bind_eq_ok_iff.mp ofCandidate
  obtain ⟨_, inside⟩ := range_of_mem_candidates (by simpa using stepsLeft) isCandidate
  have alignedInOrder :=
    Candidate.pairwise_alignment_of_mem_candidates compiled stepsLeft isCandidate
  have owners : ∀ token ∈ candidate.alignment, token < rule.tokens.length := by
    rw [tokens_of_pattern pattern]
    exact fun token owner => Candidate.lt_of_mem_alignment compiled stepsLeft isCandidate owner
  exact
    ⟨_, acceptedCandidates_of_compiled compiled immunized.words, candidate,
      List.mem_filter.mpr ⟨isCandidate, hold⟩, ⟨_, _, built⟩,
      rendersEachWord_of_aligned noEmptyWord alignedInOrder owners inside⟩

/-- A rule for a greeting of two words, a word that may be missing and one or two more words. -/
def greetingAndNames : Rule :=
  withTokens
    ([.placeholder (.text "greeting"), .placeholder (.text "greeting")] ++ atMostTwoWords.take 1 ++
      [oneOrTwoWords])
    (badReference?_eq_none_iff.mp (by decide))

/-- A text with a greeting and two names after another word. -/
def ohGoodMorning : List Word :=
  ["oh", "good", "morning", "dear", "friend"].map fun text => { text := text }

/-- The greeting is shown as one unit, and the unit without words leaves no gap. -/
theorem rendersEachWord_greetingAndNames :
    greetingAndNames.unitSizes = [2, 1, 1] ∧
      greetingAndNames.rendered ohGoodMorning ⟨1, [0, 1, 3, 3]⟩ 1 = "good morning" ∧
        greetingAndNames.rendered ohGoodMorning ⟨1, [0, 1, 3, 3]⟩ 2 = "" ∧
          greetingAndNames.rendered ohGoodMorning ⟨1, [0, 1, 3, 3]⟩ 3 = "dear friend" ∧
            greetingAndNames.RendersEachWord ohGoodMorning ⟨1, [0, 1, 3, 3]⟩ := by
  obtain ⟨ofCandidates, _⟩ := rendersEachWord_of_candidates_and_matches greetingAndNames
  refine ⟨by decide +kernel, by decide +kernel, by decide +kernel, by decide +kernel, ?_⟩
  exact ofCandidates ohGoodMorning ⟨1, [0, 1, 3, 3]⟩ (by decide) (by decide) (by decide) (by decide)

end Rule

end ProseRules
