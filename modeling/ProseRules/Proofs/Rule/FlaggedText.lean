import ProseRules.Proofs.Rule.WordSpans
import ProseRules.Proofs.Sentence.Excerpts
import ProseRules.Proofs.Token.Literal

namespace ProseRules

/-!
# The text that matches flag

A match flags the characters from the start of its first word to the end of its last one.
Its sentence is trimmed at the end, so words of blanks at the end of a sentence can be
flagged although the text of the sentence lacks them.
-/

/-- The characters that are flagged lie in the sentence and are some text. -/
structure RuleMatch.ShowsText (ruleMatch : RuleMatch) (text : String) : Prop where
  notNegative : 0 ≤ ruleMatch.span.1
  someCharacters : ruleMatch.span.1 < ruleMatch.span.2
  inside : ruleMatch.span.2 ≤ ruleMatch.sentence.length
  flaggedText : ruleMatch.flaggedText = text

/-- Words stand before the blanks that are trimmed: text ends them or comes after them. -/
def StandsBeforeBlanks (words : List Word) (first last : Nat) : Prop :=
  ∃ c ∈ (textBetween words first last).toList.getLast?,
    Text.isBlank c = false ∨ HasTextFrom words last

/-- A match flags words from one place up to another: all their text, or all but blanks. -/
structure RuleMatch.FlagsWords
    (words : List Word)
    (ruleMatch : RuleMatch)
    (first last : Nat) :
    Prop where
  wordSpan : ruleMatch.wordSpan = ((first : Int), (last : Int))
  someWords : first < last
  insideWords : last ≤ words.length
  span :
    ruleMatch.span =
      ((offsetOf words first : Int),
        (offsetOf words first : Int) + (textBetween words first last).length)
  beforeText : HasTextFrom words last → ruleMatch.flaggedText = textBetween words first last
  atEnd :
    ¬HasTextFrom words last →
      ruleMatch.flaggedText = Text.trimEnd (textBetween words first last)
  shown : ruleMatch.ShowsText (textBetween words first last) ↔ StandsBeforeBlanks words first last

namespace RuleMatch

/-- The span is that of a text between others. The end of all three may have been trimmed. -/
structure SpansText
    (ruleMatch : RuleMatch)
    (before : List Char)
    (text : String)
    (after : List Char) :
    Prop where
  sentence : ruleMatch.sentence.toList = Text.dropBlanksAtEnd (before ++ text.toList ++ after)
  span : ruleMatch.span = ((before.length : Int), (before.length : Int) + text.length)

namespace SpansText

variable {ruleMatch : RuleMatch} {text : String} {before after : List Char}
  (spans : ruleMatch.SpansText before text after)
include spans

/-- What is flagged of a text is whole if other text follows. -/
theorem flaggedText_of_text_after
    (textAfter : ∃ c ∈ after, Text.isBlank c = false) :
    ruleMatch.flaggedText = text := by
  rw [flaggedText, spans.sentence, spans.span, ← String.length_toList,
    slice_dropBlanksAtEnd_of_text textAfter, String.ofList_toList]

/-- What is flagged of a text lacks the blanks at its end if no other text follows. -/
theorem flaggedText_of_no_text_after
    (noTextAfter : ¬∃ c ∈ after, Text.isBlank c = false) :
    ruleMatch.flaggedText = Text.trimEnd text := by
  rw [flaggedText, spans.sentence, spans.span, ← String.length_toList,
    slice_dropBlanksAtEnd_of_blanks noTextAfter, Text.trimEnd]

/-- Nothing of a text is trimmed if its last character is not blank, or another one after it. -/
theorem exists_sentence_eq
    {c : Char}
    (isLast : text.toList.getLast? = some c)
    (notTrimmed : Text.isBlank c = false ∨ ∃ d ∈ after, Text.isBlank d = false) :
    ∃ rest, ruleMatch.sentence.toList = before ++ text.toList ++ rest := by
  rw [spans.sentence]
  by_cases textAfter : ∃ d ∈ after, Text.isBlank d = false
  · exact ⟨_, Text.dropBlanksAtEnd_append_of_text textAfter⟩
  · refine ⟨[], ?_⟩
    rw [Text.dropBlanksAtEnd_append_of_blanks textAfter, List.append_nil,
      Text.dropBlanksAtEnd_eq_self_iff]
    intro d isLastToo
    rw [List.getLast?_append, isLast, Option.some_or, Option.mem_some_iff] at isLastToo
    rw [← isLastToo]
    exact notTrimmed.resolve_right textAfter

/-- A text that is left as a whole is shown. -/
theorem showsText_of_sentence_eq
    (someCharacters : text.toList ≠ [])
    {rest : List Char}
    (isWhole : ruleMatch.sentence.toList = before ++ text.toList ++ rest) :
    ruleMatch.ShowsText text := by
  have someLength : 0 < text.length := by
    rwa [← String.length_toList, List.length_pos_iff]
  have reaches : before.length + text.length ≤ ruleMatch.sentence.length := by
    rw [← String.length_toList, ← String.length_toList, isWhole, List.length_append,
      List.length_append]
    omega
  constructor
  case notNegative =>
    rw [spans.span]
    exact Int.natCast_nonneg _
  case someCharacters =>
    rw [spans.span]
    simp only
    omega
  case inside =>
    rw [spans.span]
    simp only
    omega
  case flaggedText =>
    rw [RuleMatch.flaggedText, spans.span, ← String.length_toList, slice_of_nonneg, isWhole,
      List.append_assoc, List.drop_left, List.take_left, String.ofList_toList]

/-- A text is shown exactly if it does not reach into the blanks that are trimmed. -/
theorem showsText_iff :
    ruleMatch.ShowsText text ↔
      ∃ c ∈ text.toList.getLast?,
        Text.isBlank c = false ∨ ∃ d ∈ after, Text.isBlank d = false := by
  constructor
  · rintro ⟨_, someCharacters, _, shown⟩
    have nonempty : text.toList ≠ [] := by
      rw [spans.span] at someCharacters
      rw [← List.length_pos_iff, String.length_toList]
      omega
    have isLast := List.getLast?_eq_some_getLast nonempty
    refine ⟨_, isLast, ?_⟩
    by_cases textAfter : ∃ c ∈ after, Text.isBlank c = false
    · exact .inr textAfter
    · rw [spans.flaggedText_of_no_text_after textAfter, ← String.toList_inj, Text.trimEnd,
        String.toList_ofList] at shown
      exact .inl (Text.dropBlanksAtEnd_eq_self_iff.mp shown _ isLast)
  · rintro ⟨c, isLast, notTrimmed⟩
    obtain ⟨rest, isWhole⟩ := spans.exists_sentence_eq isLast notTrimmed
    refine spans.showsText_of_sentence_eq ?_ isWhole
    rintro noCharacters
    rw [noCharacters] at isLast
    cases isLast

end SpansText

end RuleMatch

namespace Rule

/-- Every match of a token pattern flags the text of some words, as far as it is not trimmed. -/
theorem flagsWords_of_mem_matchTokens
    {rule : Rule}
    {tokens : List Token}
    {sentence : Sentence}
    {found : List RuleMatch}
    (succeeds : rule.matchTokens tokens sentence = .ok found)
    {ruleMatch : RuleMatch}
    (member : ruleMatch ∈ found) :
    ∃ first last : Nat, ruleMatch.FlagsWords sentence.words first last := by
  obtain ⟨steps, _, stepsLeft, candidate, isCandidate, _, ofCandidate⟩ :=
    exists_candidate_of_mem_matchTokens succeeds member
  obtain ⟨candidateNonempty, candidateInside⟩ :=
    range_of_mem_candidates (by simpa using stepsLeft) isCandidate
  obtain ⟨first, last, marked, wordSpan, span⟩ := spans_of_matchOfCandidate ofCandidate
  obtain ⟨_, someWords, insideCandidate⟩ := UnitScale.marked_within candidateNonempty marked
  have insideWords : last ≤ sentence.words.length := by omega
  have spanOfText :
      ruleMatch.span =
        ((offsetOf sentence.words first : Int),
          (offsetOf sentence.words first : Int) +
            (textBetween sentence.words first last).length) := by
    have ends := @endOffset_eq_add_length_textBetween sentence.words first last someWords
    rw [span, Prod.mk.injEq]
    exact ⟨rfl, by exact_mod_cast ends⟩
  obtain ⟨⟨_, _⟩, _, built⟩ := Outcome.bind_eq_ok_iff.mp ofCandidate
  obtain ⟨after, division, textAfter⟩ := exists_toList_fullText_eq someWords insideWords
  have spansText :
      ruleMatch.SpansText (fullText (sentence.words.take first)).toList
        (textBetween sentence.words first last) after := by
    constructor
    case sentence =>
      rw [sentence_of_buildMatch built, Sentence.text, Text.trimEnd, String.toList_ofList,
        division]
    case span =>
      rw [spanOfText, String.length_toList, length_fullText_take]
  exact
    ⟨first, last,
      { wordSpan := wordSpan
        someWords := someWords
        insideWords := insideWords
        span := spanOfText
        beforeText := fun hasText =>
          spansText.flaggedText_of_text_after (textAfter.mpr hasText)
        atEnd := fun noText =>
          spansText.flaggedText_of_no_text_after (mt textAfter.mp noText)
        shown := by rw [spansText.showsText_iff, textAfter, StandsBeforeBlanks] }⟩

/--
A match of a token pattern flags the words of its word range, from the first character to the
last one. The flagged characters lie in the sentence and are the text of these words exactly
if a character that is not blank ends this text or stands after it; else the text is flagged
without the blanks at its end.
-/
theorem exists_flagsWords_of_mem_matchesIn
    (rule : Rule)
    (tokens : List Token)
    (precede : referencesPrecede tokens)
    (pattern : rule.pattern = .tokens tokens precede)
    (sentence : Sentence)
    (found : List RuleMatch)
    (succeeds : rule.matchesIn sentence = .ok found) :
    ∃ immunized,
      rule.immunizer sentence = .ok immunized ∧
        (rule.ownImmunizer = none → immunized.words = sentence.words) ∧
          ∀ ruleMatch ∈ found,
            ∃ first last : Nat, ruleMatch.FlagsWords immunized.words first last := by
  obtain ⟨immunized, immunizes, matched⟩ := exists_immunized_of_matchesIn pattern succeeds
  exact
    ⟨immunized, immunizes, fun defaultImmunizer => words_of_immunizer defaultImmunizer immunizes,
      fun ruleMatch member => flagsWords_of_mem_matchTokens matched member⟩

/-- The rule of a certain word and any word after it. -/
def oneAndNext : Rule :=
  withTokens [.literal "one" false false, .placeholder (.text "")]
    (badReference?_eq_none_iff.mp (by decide))

/-- Two words and the end of their line. -/
def twoWordsAndLineEnd : Sentence where
  words :=
    [
      { text := "one" }, { text := "two", spaceAfter := false },
      { text := "\n", spaceAfter := false }]

/-- A word and the end of its line. -/
def wordAndLineEnd : Sentence where
  words := [{ text := "one", spaceAfter := false }, { text := "\n", spaceAfter := false }]

/-- The end of the line stands after what is flagged, so all of the text is shown. -/
theorem flagsWords_twoWordsAndLineEnd :
    ∃ ruleMatch,
      oneAndNext.matchesIn twoWordsAndLineEnd = .ok [ruleMatch] ∧
        ruleMatch.FlagsWords twoWordsAndLineEnd.words 0 2 ∧ ruleMatch.ShowsText "one two" := by
  have evaluated :
      (oneAndNext.matchesIn twoWordsAndLineEnd).toOption.map (·.map (·.wordSpan)) =
        some [(0, 2)] := by
    decide +kernel
  obtain ⟨found, succeeds, spans⟩ := Outcome.exists_eq_ok_of_toOption_map evaluated
  obtain ⟨ruleMatch, rfl, wordSpan⟩ := List.map_eq_singleton_iff.mp spans
  obtain ⟨immunized, _, sameWords, flags⟩ :=
    exists_flagsWords_of_mem_matchesIn oneAndNext _ _ rfl twoWordsAndLineEnd _ succeeds
  obtain ⟨first, last, flagsWords⟩ := flags ruleMatch (List.mem_singleton_self _)
  obtain ⟨rfl, rfl⟩ : first = 0 ∧ last = 2 := by
    have sameSpan := flagsWords.wordSpan
    rw [wordSpan, Prod.mk.injEq] at sameSpan
    omega
  rw [sameWords rfl] at flagsWords
  exact
    ⟨ruleMatch, succeeds, flagsWords,
      flagsWords.shown.mpr ⟨'o', by decide +kernel, .inl (by decide)⟩⟩

/-- The end of the line is flagged beyond the end of the sentence, and its text is not shown. -/
theorem not_showsText_wordAndLineEnd :
    ∃ ruleMatch,
      oneAndNext.matchesIn wordAndLineEnd = .ok [ruleMatch] ∧
        ruleMatch.wordSpan = (0, 2) ∧
          textBetween wordAndLineEnd.words 0 2 = "one\n" ∧
            ruleMatch.span = (0, 4) ∧
              ruleMatch.sentence = "one" ∧
                ruleMatch.flaggedText = "one" ∧
                  ¬ruleMatch.ShowsText (textBetween wordAndLineEnd.words 0 2) := by
  have evaluated :
      (oneAndNext.matchesIn wordAndLineEnd).toOption.map
          (·.map fun ruleMatch =>
            (ruleMatch.wordSpan, ruleMatch.span, ruleMatch.sentence, ruleMatch.flaggedText)) =
        some [((0, 2), (0, 4), "one", "one")] := by
    decide +kernel
  obtain ⟨found, succeeds, shown⟩ := Outcome.exists_eq_ok_of_toOption_map evaluated
  obtain ⟨ruleMatch, rfl, reported⟩ := List.map_eq_singleton_iff.mp shown
  simp only [Prod.mk.injEq] at reported
  obtain ⟨wordSpan, span, sentence, flaggedText⟩ := reported
  refine
    ⟨ruleMatch, succeeds, wordSpan, by decide +kernel, span, sentence, flaggedText,
      fun shows => ?_⟩
  have inside := shows.inside
  rw [span, sentence] at inside
  exact absurd inside (by decide)

end Rule

end ProseRules
