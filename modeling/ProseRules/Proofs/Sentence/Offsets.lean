import ProseRules.Sentence.Document

namespace ProseRules

/-!
# Characters and the words they belong to

A word has the characters from its offset on, and the blank after it belongs to no word.
The words touched by a range of characters are those that share one with it.
-/

/-- The character at a place of the text belongs to a word, not to the blank after it. -/
def BelongsTo (words : List Word) (character index : Nat) : Prop :=
  ∃ word,
    words[index]? = some word ∧
      offsetOf words index ≤ character ∧ character < offsetOf words index + word.length

/-- A word has a character in a range. -/
def SharesCharacter (words : List Word) (index : Nat) (span : Int × Int) : Prop :=
  ∃ character : Nat,
    BelongsTo words character index ∧ span.1 ≤ character ∧ (character : Int) < span.2

/-- A word has a character in a range exactly if its own characters overlap with it. -/
theorem sharesCharacter_iff
    {words : List Word}
    {index : Nat}
    {span : Int × Int} :
    SharesCharacter words index span ↔
      ∃ word ∈ words[index]?,
        max span.1 (offsetOf words index) < min span.2 (offsetOf words index + word.length) := by
  constructor
  · rintro ⟨character, ⟨word, isWord, notBefore, beforeEnd⟩, fromStart, toEnd⟩
    exact ⟨word, isWord, by omega⟩
  · rintro ⟨word, isWord, overlap⟩
    exact
      ⟨(max span.1 (offsetOf words index)).toNat, ⟨word, isWord, by omega, by omega⟩, by omega,
        by omega⟩

theorem SharesCharacter.lt_length
    {words : List Word}
    {index : Nat}
    {span : Int × Int}
    (shares : SharesCharacter words index span) :
    index < words.length := by
  obtain ⟨_, ⟨_, isWord, _⟩, _⟩ := shares
  exact (List.getElem?_eq_some_iff.mp isWord).1

instance
    (words : List Word)
    (index : Nat)
    (span : Int × Int) :
    Decidable (SharesCharacter words index span) :=
  decidable_of_iff' _ sharesCharacter_iff

theorem Word.length_textWithSpace
    (word : Word) :
    word.textWithSpace.length = word.width := by
  rw [textWithSpace, width, length]
  cases word.spaceAfter with
  | false =>
      rfl
  | true =>
      exact String.length_append word.text " "

@[simp] theorem offsetOf_zero
    (words : List Word) :
    offsetOf words 0 = 0 := by
  cases words <;> rfl

section Offsets

variable {words : List Word} {index : Nat}

/-- The text ends where a word after the last one would start. -/
theorem length_fullText
    (words : List Word) :
    (fullText words).length = offsetOf words words.length := by
  induction words with
  | nil =>
      rfl
  | cons word rest inductionHypothesis =>
      rw [fullText, List.map_cons, String.join_cons, String.length_append,
        Word.length_textWithSpace, ← fullText, inductionHypothesis, List.length_cons, offsetOf]

theorem offsetOf_mono
    {later : Nat}
    (notBefore : index ≤ later) :
    offsetOf words index ≤ offsetOf words later := by
  induction words generalizing index later with
  | nil =>
      simp [offsetOf]
  | cons first rest inductionHypothesis =>
      cases index with
      | zero =>
          simp
      | succ index =>
          obtain ⟨later, rfl⟩ := Nat.exists_eq_succ_of_ne_zero (by omega : later ≠ 0)
          have := inductionHypothesis (Nat.le_of_succ_le_succ notBefore)
          simp only [offsetOf]
          omega

theorem offsetOf_succ
    {word : Word}
    (isWord : words[index]? = some word) :
    offsetOf words (index + 1) = offsetOf words index + word.width := by
  induction words generalizing index with
  | nil =>
      simp at isWord
  | cons first rest inductionHypothesis =>
      cases index with
      | zero =>
          cases isWord
          simp [offsetOf]
      | succ index =>
          rw [offsetOf, inductionHypothesis isWord, offsetOf, Nat.add_assoc]

/-- A word ends, with the blank after it, before a later one starts. -/
theorem add_width_le_offsetOf
    {word : Word}
    (isWord : words[index]? = some word)
    {later : Nat}
    (isLater : index < later) :
    offsetOf words index + word.width ≤ offsetOf words later := by
  rw [← offsetOf_succ isWord]
  exact offsetOf_mono isLater

/-- A character lies at a word or after it exactly if the word starts no later. -/
theorem le_wordAt_iff
    (inside : index ≤ words.length)
    {character : Nat} :
    index ≤ wordAt words character ↔ offsetOf words index ≤ character := by
  induction words generalizing index character with
  | nil =>
      simp at inside
      simp [inside, offsetOf]
  | cons first rest inductionHypothesis =>
      cases index with
      | zero =>
          simp
      | succ index =>
          have later :=
            @inductionHypothesis index (Nat.le_of_succ_le_succ inside) (character - first.width)
          rw [wordAt, offsetOf]
          split
          · omega
          · rw [Nat.add_le_add_iff_right, later]
            omega

theorem BelongsTo.wordAt_eq
    {character : Nat}
    (belongs : BelongsTo words character index) :
    wordAt words character = index := by
  obtain ⟨word, isWord, notBefore, beforeEnd⟩ := belongs
  have inside := (List.getElem?_eq_some_iff.mp isWord).1
  have nextOffset := add_width_le_offsetOf isWord (Nat.lt_succ_self index)
  have atOrAfter := (le_wordAt_iff (Nat.le_of_lt inside)).mpr notBefore
  have notNext : ¬index + 1 ≤ wordAt words character := by
    rw [le_wordAt_iff inside]
    rw [Word.width] at nextOffset
    omega
  omega

theorem wordAt_mono
    {first last : Nat}
    (notBefore : first ≤ last) :
    wordAt words first ≤ wordAt words last := by
  induction words generalizing first last with
  | nil =>
      simp [wordAt]
  | cons word rest inductionHypothesis =>
      have later := @inductionHypothesis (first - word.width) (last - word.width) (by omega)
      simp only [wordAt]
      split <;> split <;> omega

/-- A word that has a character between the starts and ends of words is one of these. -/
theorem mem_range_of_sharesCharacter
    {first last : Nat}
    {lastWord : Word}
    (isLast : words[last]? = some lastWord)
    (shares :
      SharesCharacter words index
        ((offsetOf words first : Int), (offsetOf words last + lastWord.length : Int))) :
    first ≤ index ∧ index ≤ last := by
  obtain ⟨character, ⟨word, isWord, notBefore, beforeEnd⟩, fromStart, toEnd⟩ := shares
  simp only at fromStart toEnd
  constructor
  · refine Nat.le_of_not_lt fun isBefore => ?_
    have := add_width_le_offsetOf isWord isBefore
    rw [Word.width] at this
    omega
  · refine Nat.le_of_not_lt fun isAfter => ?_
    have := add_width_le_offsetOf isLast isAfter
    rw [Word.width] at this
    omega

/-- A word with a character in a range is touched by the range. -/
theorem mem_wordSpan_of_sharesCharacter
    {start stop : Nat}
    (shares : SharesCharacter words index (start, stop)) :
    (wordSpan words start stop).1 ≤ index ∧ index < (wordSpan words start stop).2 := by
  obtain ⟨character, belongs, fromStart, toStop⟩ := shares
  simp only [Int.ofNat_le, Int.ofNat_lt] at fromStart toStop
  have atWord := belongs.wordAt_eq
  have firstNotAfter := @wordAt_mono words start character fromStart
  have lastNotBefore := @wordAt_mono words character (stop - 1) (by omega)
  obtain ⟨word, isWord, _, beforeEnd⟩ := belongs
  rw [atWord] at firstNotAfter lastNotBefore
  simp only [wordSpan]
  refine ⟨?_, by omega⟩
  split
  · rename_i startsAtEnd
    -- The range starts on the blank after a word, so that word is not the one at hand.
    have notFirst : wordAt words start ≠ index := by
      rintro rfl
      rw [isWord, Option.map_some, Option.getD_some] at startsAtEnd
      omega
    omega
  · exact firstNotAfter

theorem wordSpan_le
    {start stop : Nat}
    (nonempty : start < stop) :
    (wordSpan words start stop).1 ≤ (wordSpan words start stop).2 := by
  have := @wordAt_mono words start (stop - 1) (by omega)
  simp only [wordSpan]
  split <;> omega

/-- The words touched by a range of the text are those that have a character in it. -/
theorem mem_wordSpan_iff_sharesCharacter
    (noEmptyWord : ∀ word ∈ words, word.text ≠ "")
    {start stop : Nat}
    (nonempty : start < stop)
    (inside : stop ≤ (fullText words).length) :
    (wordSpan words start stop).1 ≤ index ∧ index < (wordSpan words start stop).2 ↔
      SharesCharacter words index (start, stop) := by
  refine ⟨?_, mem_wordSpan_of_sharesCharacter⟩
  rw [length_fullText] at inside
  simp only [wordSpan]
  rintro ⟨fromFirst, upToLast⟩
  have lastExists : ¬words.length ≤ wordAt words (stop - 1) := by
    rw [le_wordAt_iff (Nat.le_refl _)]
    omega
  have indexExists : index < words.length := by omega
  have isWord := List.getElem?_eq_getElem indexExists
  have startsInside : offsetOf words index ≤ stop - 1 :=
    (le_wordAt_iff (Nat.le_of_lt indexExists)).mp (by omega)
  have someCharacter : 0 < words[index].length := by
    rw [Word.length, Nat.pos_iff_ne_zero, ne_eq, String.length_eq_zero_iff]
    exact noEmptyWord _ (List.getElem_mem indexExists)
  have startsBeforeEnd : start < offsetOf words index + words[index].length := by
    have firstNotAfter : wordAt words start ≤ index := by
      split at fromFirst <;> omega
    rcases Nat.lt_or_eq_of_le firstNotAfter with laterWord | rfl
    · have notYet : ¬index ≤ wordAt words start := by omega
      rw [le_wordAt_iff (Nat.le_of_lt indexExists)] at notYet
      omega
    · -- A start on the blank after its word would leave the word out.
      have notOnBlank :
          start ≠ offsetOf words (wordAt words start) + words[wordAt words start].length := by
        intro onBlank
        rw [isWord, Option.map_some, Option.getD_some, if_pos onBlank] at fromFirst
        omega
      have beforeNext : ¬wordAt words start + 1 ≤ wordAt words start := by omega
      rw [le_wordAt_iff indexExists] at beforeNext
      rw [offsetOf_succ isWord, Word.width] at beforeNext
      have atMostOneBlank := Bool.toNat_le words[wordAt words start].spaceAfter
      omega
  refine
    ⟨max start (offsetOf words index), ⟨words[index], isWord, Nat.le_max_right _ _, ?_⟩, ?_, ?_⟩
  · omega
  · simp only
    omega
  · simp only
    omega

end Offsets

end ProseRules
