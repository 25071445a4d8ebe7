import Mathlib.Data.List.DropRight
import ProseRules.Proofs.Sentence.Offsets
import ProseRules.Rule.Match

namespace ProseRules

/-!
# Excerpts of a text whose end is trimmed

The text of a sentence is the text of its words without the blanks at its end. An excerpt
that reaches into these blanks loses the blanks at its own end, and no other characters.
-/

namespace Text

section Append

variable {first second : List Char}

/-- Trimming does not go beyond a part with a character that is not blank. -/
theorem dropBlanksAtEnd_append_of_text
    (someText : ∃ c ∈ second, isBlank c = false) :
    dropBlanksAtEnd (first ++ second) = first ++ dropBlanksAtEnd second := by
  have stopsInside : ¬(second.reverse.dropWhile isBlank).isEmpty = true := by
    simpa using someText
  rw [dropBlanksAtEnd, List.reverse_append, List.dropWhile_append, if_neg stopsInside,
    List.reverse_append, List.reverse_reverse, dropBlanksAtEnd]

/-- A part of blanks at the end is trimmed as a whole. -/
theorem dropBlanksAtEnd_append_of_blanks
    (noText : ¬∃ c ∈ second, isBlank c = false) :
    dropBlanksAtEnd (first ++ second) = dropBlanksAtEnd first := by
  have goesOn : (second.reverse.dropWhile isBlank).isEmpty = true := by
    simpa using noText
  rw [dropBlanksAtEnd, List.reverse_append, List.dropWhile_append, if_pos goesOn, dropBlanksAtEnd]

end Append

/-- Nothing is trimmed exactly if the last character is not blank. -/
theorem dropBlanksAtEnd_eq_self_iff
    {characters : List Char} :
    dropBlanksAtEnd characters = characters ↔
      ∀ c ∈ characters.getLast?, isBlank c = false := by
  have keepsAll := List.rdropWhile_eq_self_iff (p := isBlank) (l := characters)
  rw [List.rdropWhile, ← dropBlanksAtEnd] at keepsAll
  rw [keepsAll]
  cases characters with
  | nil =>
      simp
  | cons c rest =>
      simp [List.getLast?_eq_some_getLast]

end Text

/-- Characters that lie in the text or after it are sliced off one after the other. -/
theorem slice_of_nonneg
    (characters : List Char)
    (start count : Nat) :
    slice characters start ((start : Int) + count) = (characters.drop start).take count := by
  have stop : ((start : Int) + count).toNat = start + count := by omega
  simp only [slice, sliceEnd, if_neg (by omega : ¬(start : Int) < 0),
    if_neg (by omega : ¬(start : Int) + count < 0), Int.toNat_natCast, stop]
  rcases Nat.le_total start characters.length with inside | outside
  · rw [Nat.min_eq_left inside, List.take_eq_take_iff, List.length_drop]
    omega
  · rw [Nat.min_eq_right outside, List.drop_length, List.drop_eq_nil_of_le outside, List.take_nil,
      List.take_nil]

section Slices

variable {before part after : List Char}

/-- A part of a trimmed text is whole if a character after it is not blank. -/
theorem slice_dropBlanksAtEnd_of_text
    (textAfter : ∃ c ∈ after, Text.isBlank c = false) :
    slice (Text.dropBlanksAtEnd (before ++ part ++ after)) before.length
        ((before.length : Int) + part.length) =
      part := by
  rw [slice_of_nonneg, Text.dropBlanksAtEnd_append_of_text textAfter, List.append_assoc,
    List.drop_left, List.take_left]

/-- A part of a trimmed text lacks the blanks at its end if there are only blanks after it. -/
theorem slice_dropBlanksAtEnd_of_blanks
    (noTextAfter : ¬∃ c ∈ after, Text.isBlank c = false) :
    slice (Text.dropBlanksAtEnd (before ++ part ++ after)) before.length
        ((before.length : Int) + part.length) =
      Text.dropBlanksAtEnd part := by
  rw [slice_of_nonneg, Text.dropBlanksAtEnd_append_of_blanks noTextAfter]
  by_cases someText : ∃ c ∈ part, Text.isBlank c = false
  · have noLonger : (Text.dropBlanksAtEnd part).length ≤ part.length :=
      (Text.dropBlanksAtEnd_prefix _).length_le
    rw [Text.dropBlanksAtEnd_append_of_text someText, List.drop_left,
      List.take_of_length_le noLonger]
  · have beforeOnly : (Text.dropBlanksAtEnd before).length ≤ before.length :=
      (Text.dropBlanksAtEnd_prefix _).length_le
    have nothingLeft : Text.dropBlanksAtEnd part = [] := by
      simpa [Text.dropBlanksAtEnd] using someText
    rw [Text.dropBlanksAtEnd_append_of_blanks someText, List.drop_eq_nil_of_le beforeOnly,
      List.take_nil, nothingLeft]

end Slices

theorem fullText_append
    (first second : List Word) :
    fullText (first ++ second) = fullText first ++ fullText second := by
  rw [fullText, List.map_append, String.join_append, ← fullText, ← fullText]

/-- The text before a word is as long as the offset of the word says. -/
theorem length_fullText_take
    (words : List Word)
    (index : Nat) :
    (fullText (words.take index)).length = offsetOf words index := by
  induction words generalizing index with
  | nil =>
      rw [List.take_nil]
      rfl
  | cons word rest inductionHypothesis =>
      cases index with
      | zero =>
          rfl
      | succ index =>
          rw [List.take_succ_cons, fullText, List.map_cons, String.join_cons,
            String.length_append, Word.length_textWithSpace, ← fullText, inductionHypothesis,
            offsetOf]

/-- The text of a document from the first character of a word to the last one of another. -/
def textBetween (words : List Word) (first last : Nat) : String :=
  fullText ((words.take (last - 1)).drop first) ++ ((words[last - 1]?).map (·.text)).getD ""

/-- Some character of the words from a place on is not blank. -/
def HasTextFrom (words : List Word) (place : Nat) : Prop :=
  ∃ c ∈ (fullText (words.drop place)).toList, Text.isBlank c = false

/-- The characters before some words, of these words, and after them. -/
theorem exists_toList_fullText_eq
    {words : List Word}
    {first last : Nat}
    (someWords : first < last)
    (inside : last ≤ words.length) :
    ∃ after,
      (fullText words).toList =
          (fullText (words.take first)).toList ++ (textBetween words first last).toList ++ after ∧
        ((∃ c ∈ after, Text.isBlank c = false) ↔ HasTextFrom words last) := by
  obtain ⟨index, rfl⟩ : ∃ index, last = index + 1 := ⟨last - 1, by omega⟩
  have isWord := List.getElem?_eq_getElem inside
  have firstWords : (words.take index).take first = words.take first := by
    rw [List.take_take, Nat.min_eq_left (by omega)]
  have wordWithRest :
      fullText (words.drop index) =
        words[index].textWithSpace ++ fullText (words.drop (index + 1)) := by
    rw [← List.getElem_cons_drop inside, fullText, List.map_cons, String.join_cons, ← fullText]
  refine
    ⟨(if words[index].spaceAfter then [' '] else []) ++
        (fullText (words.drop (index + 1))).toList, ?_, ?_⟩
  · have wordAndBlank :
        words[index].textWithSpace.toList =
          words[index].text.toList ++ if words[index].spaceAfter then [' '] else [] := by
      rw [Word.textWithSpace]
      split
      · exact String.toList_append
      · exact (List.append_nil _).symm
    conv_lhs =>
      rw [← List.take_append_drop index words, ← List.take_append_drop first (words.take index)]
    simp only [fullText_append, firstWords, wordWithRest, textBetween, Nat.add_sub_cancel, isWord,
      Option.map_some, Option.getD_some, String.toList_append, wordAndBlank, List.append_assoc]
  · have blankAfter : Text.isBlank ' ' = true := by decide
    simp [or_and_right, exists_or, blankAfter, HasTextFrom]

/-- The last of some words ends where their text does. -/
theorem endOffset_eq_add_length_textBetween
    {words : List Word}
    {first last : Nat}
    (someWords : first < last) :
    offsetOf words (last - 1) + ((words[last - 1]?).map Word.length).getD 0 =
      offsetOf words first + (textBetween words first last).length := by
  have upToLast :
      fullText (words.take (last - 1)) =
        fullText (words.take first) ++ fullText ((words.take (last - 1)).drop first) := by
    conv_lhs => rw [← List.take_append_drop first (words.take (last - 1))]
    rw [fullText_append, List.take_take, Nat.min_eq_left (by omega)]
  have lastLength :
      (((words[last - 1]?).map (·.text)).getD "").length =
        ((words[last - 1]?).map Word.length).getD 0 := by
    cases words[last - 1]? <;> rfl
  rw [← length_fullText_take, upToLast, String.length_append, length_fullText_take, textBetween,
    String.length_append, lastLength, Nat.add_assoc]

end ProseRules
