import ProseRules.Proofs.Sentence.Excerpts
import ProseRules.Proofs.Token.Partition

namespace ProseRules

/-!
# The sentences of a document

A document is divided into sentences that hold all of its words in order. A sentence starts at
the first word and at every later word that is marked as a start. The text of a sentence lacks
the blanks at its end, but each of its characters stands in the text of the document after the
characters of the sentences before it.
-/

/-- A text is what is left of it after trimming, and the blanks that were trimmed. -/
theorem Text.exists_blanks_append
    (characters : List Char) :
    ∃ blanks,
      characters = dropBlanksAtEnd characters ++ blanks ∧
        ∀ c ∈ blanks, isBlank c = true := by
  refine ⟨characters.rtakeWhile isBlank, ?_, fun c => List.mem_rtakeWhile_imp⟩
  exact List.rdropWhile_append_rtakeWhile.symm

section Characters

variable {sentences : List Sentence} {number : Nat}

/-- How many characters the sentences before one have, with the blanks at their ends. -/
def charactersBefore (sentences : List Sentence) (number : Nat) : Nat :=
  ((sentences.take number).map fun sentence => (fullText sentence.words).length).sum

/-- A sentence starts at a word if the sentences before it hold the words before this word. -/
def StartsAt (sentences : List Sentence) (place : Nat) : Prop :=
  ∃ number < sentences.length, ((sentences.take number).flatMap (·.words)).length = place

/-- Where the characters of a sentence stand in the text of its document. -/
structure StandsIn (sentence : Sentence) (text : List Char) (before : Nat) : Prop where
  characters :
    ∀ (place : Nat) (c : Char),
      sentence.text.toList[place]? = some c → text[before + place]? = some c
  spans :
    ∀ start stop : Nat,
      start ≤ stop →
        stop ≤ sentence.text.length →
          slice text (before + start : Nat) (before + stop : Nat) =
            slice sentence.text.toList start stop
  /-- Only blanks follow up to the end of the last word. -/
  blanks :
    ∃ blanks,
      (fullText sentence.words).toList = sentence.text.toList ++ blanks ∧
        ∀ c ∈ blanks, Text.isBlank c = true

theorem length_fullText_flatMap
    (sentences : List Sentence) :
    (fullText (sentences.flatMap (·.words))).length =
      (sentences.map fun sentence => (fullText sentence.words).length).sum := by
  induction sentences with
  | nil =>
      rfl
  | cons sentence sentences inductionHypothesis =>
      rw [List.flatMap_cons, fullText_append, String.length_append, inductionHypothesis,
        List.map_cons, List.sum_cons]

/-- The text of some sentences is that of the ones before one, its own, and of those after it. -/
theorem exists_after_of_getElem?
    {sentence : Sentence}
    (isSentence : sentences[number]? = some sentence) :
    ∃ before after,
      (fullText (sentences.flatMap (·.words))).toList =
          before ++ (fullText sentence.words).toList ++ after ∧
        before.length = charactersBefore sentences number := by
  obtain ⟨_, isAtPlace⟩ := List.getElem?_eq_some_iff.mp isSentence
  have parting : sentences = sentences.take number ++ sentence :: sentences.drop (number + 1) := by
    rw [← isAtPlace, List.getElem_cons_drop, List.take_append_drop]
  refine
    ⟨(fullText ((sentences.take number).flatMap (·.words))).toList,
      (fullText ((sentences.drop (number + 1)).flatMap (·.words))).toList, ?_, ?_⟩
  · conv_lhs => rw [parting]
    simp only [List.flatMap_append, List.flatMap_cons, fullText_append, String.toList_append,
      List.append_assoc]
  · rw [String.length_toList, length_fullText_flatMap, charactersBefore]

/-- A sentence stands where the sentences before it end. -/
theorem standsIn_of_getElem?
    {sentence : Sentence}
    (isSentence : sentences[number]? = some sentence) :
    StandsIn sentence (fullText (sentences.flatMap (·.words))).toList
      (charactersBefore sentences number) := by
  obtain ⟨before, after, isText, isBefore⟩ := exists_after_of_getElem? isSentence
  obtain ⟨blanks, isSplit, areBlank⟩ := Text.exists_blanks_append (fullText sentence.words).toList
  have ownText : sentence.text.toList = Text.dropBlanksAtEnd (fullText sentence.words).toList := by
    rw [Sentence.text, Text.trimEnd, String.toList_ofList]
  rw [← ownText] at isSplit
  have isWhole :
      (fullText (sentences.flatMap (·.words))).toList =
        before ++ (sentence.text.toList ++ (blanks ++ after)) := by
    rw [isText, isSplit, List.append_assoc, List.append_assoc]
  rw [isWhole, ← isBefore]
  constructor
  case characters =>
    intro place c isCharacter
    obtain ⟨inside, _⟩ := List.getElem?_eq_some_iff.mp isCharacter
    rw [List.getElem?_append_right (Nat.le_add_right _ _), Nat.add_sub_cancel_left,
      List.getElem?_append_left inside]
    exact isCharacter
  case spans =>
    intro start stop inOrder inside
    obtain ⟨count, rfl⟩ := Nat.exists_eq_add_of_le inOrder
    rw [← String.length_toList] at inside
    have ownPart : count ≤ (sentence.text.toList.drop start).length := by
      rw [List.length_drop]
      omega
    rw [← Nat.add_assoc, Int.natCast_add (before.length + start), Int.natCast_add start,
      slice_of_nonneg, slice_of_nonneg, List.drop_length_add_append,
      List.drop_append_of_le_length (Nat.le_of_add_right_le inside),
      List.take_append_of_le_length ownPart]
  case blanks =>
    exact ⟨blanks, isSplit, areBlank⟩

end Characters

namespace Document

variable {words : List Word}

/-- Without marks no word after the first starts a sentence, so nothing is cut. -/
theorem parts_of_no_marks
    (noMarks : hasSentenceMarks words = false) :
    parts words = [words] := by
  rw [hasSentenceMarks, Bool.or_eq_false_iff, decide_eq_false_iff_not] at noMarks
  obtain ⟨severalWords, noLaterMark⟩ := noMarks
  refine List.splitBy_of_isChain ?_ ?_
  · rintro rfl
    simp at severalWords
  · rw [List.isChain_iff_getElem]
    intro place inside
    have isLater : words[place + 1] ∈ words.drop 1 := by
      rw [List.mem_drop_iff_getElem]
      exact ⟨place, by omega, by simp [Nat.add_comm]⟩
    have unmarked := List.any_eq_false.mp noLaterMark _ isLater
    rw [Bool.not_eq_true, Option.isSome_eq_false_iff, Option.isNone_iff_eq_none] at unmarked
    simp [unmarked]

/-- The sentences are the parts of the words, numbered from 0. -/
theorem sentences_eq
    (words : List Word) :
    sentences words =
      (parts words).zipIdx.map fun (part, index) => { words := part, index := index } := by
  unfold sentences
  cases marks : hasSentenceMarks words with
  | true =>
      rfl
  | false =>
      rw [parts_of_no_marks marks]
      rfl

theorem map_words_sentences
    (words : List Word) :
    (sentences words).map (·.words) = parts words := by
  rw [sentences_eq, List.map_map]
  exact List.zipIdx_map_fst 0 _

/-- The sentences hold the words of the document in order. -/
theorem flatMap_words_sentences
    (words : List Word) :
    (sentences words).flatMap (·.words) = words := by
  rw [List.flatMap_def, map_words_sentences, parts, List.flatten_splitBy]

/-- The sentences of a document hold no other words than the document. -/
theorem words_subset_of_mem_sentences
    {sentence : Sentence}
    (member : sentence ∈ sentences words) :
    sentence.words ⊆ words := by
  intro word inSentence
  rw [← flatMap_words_sentences words]
  exact List.mem_flatMap.mpr ⟨sentence, member, inSentence⟩

theorem length_flatMap_take_sentences
    (words : List Word)
    (number : Nat) :
    (((sentences words).take number).flatMap (·.words)).length =
      (((parts words).map List.length).take number).sum := by
  rw [List.length_flatMap, ← map_words_sentences, List.map_map, ← List.map_take]
  rfl

/-- After the first word a sentence starts exactly at each word that is marked as a start. -/
theorem startsAt_succ_iff
    {place : Nat}
    {word : Word}
    (isWord : words[place + 1]? = some word) :
    StartsAt (sentences words) (place + 1) ↔ word.startsSentence = some true := by
  have inside := (List.getElem?_eq_some_iff.mp isWord).1
  obtain ⟨before, isBefore⟩ : ∃ before, words[place]? = some before :=
    ⟨_, List.getElem?_eq_getElem (Nat.lt_of_succ_lt inside)⟩
  have allWords : (parts words).flatten = words := List.flatten_splitBy _ _
  have total : ((parts words).map List.length).sum = words.length := by
    rw [← List.length_flatten, allWords]
  have positive : ∀ size ∈ (parts words).map List.length, 0 < size := by
    intro size member
    obtain ⟨part, isPart, rfl⟩ := List.mem_map.mp member
    exact List.length_pos_iff.mpr (List.ne_nil_of_mem_splitBy isPart)
  -- A part starts at a word exactly if the word before it lies in another part.
  have startsPart :
      StartsAt (sentences words) (place + 1) ↔
        unitHolding ((parts words).map List.length) place ≠
          unitHolding ((parts words).map List.length) (place + 1) := by
    rw [← exists_sum_take_eq_succ_iff positive (by rwa [total])]
    refine exists_congr fun number => ?_
    rw [length_flatMap_take_sentences, ← map_words_sentences, List.length_map, List.length_map]
  have samePart :
      unitHolding ((parts words).map List.length) place =
          unitHolding ((parts words).map List.length) (place + 1) ↔
        decide (word.startsSentence ≠ some true) = true := by
    rw [← allWords] at isBefore isWord
    exact
      unitHolding_lengths_eq_iff (fun _ => List.ne_nil_of_mem_splitBy)
        (fun _ => List.isChain_of_mem_splitBy) (List.isChain_getLast_head_splitBy _ words)
        isBefore isWord
  rw [startsPart, ne_eq, samePart, decide_eq_true_eq, not_not]

end Document

/-- How a document is divided into sentences. -/
structure DividesInto (words : List Word) (sentences : List Sentence) : Prop where
  /-- The sentences are numbered from 0. -/
  indices :
    ∀ (number : Nat) (sentence : Sentence),
      sentences[number]? = some sentence → sentence.index = number
  nonempty : ∀ sentence ∈ sentences, sentence.words ≠ []
  /-- The words with their base forms and blanks are those of the document. -/
  hasWords : sentences.flatMap (·.words) = words
  starts :
    ∀ (place : Nat) (word : Word),
      words[place + 1]? = some word →
        (StartsAt sentences (place + 1) ↔ word.startsSentence = some true)
  places :
    ∀ (number : Nat) (sentence : Sentence),
      sentences[number]? = some sentence →
        StandsIn sentence (fullText words).toList (charactersBefore sentences number)

/--
The sentences of a document hold its words in order, start at its marks, and have a place in its
text for each of their characters.
-/
theorem dividesInto_sentences
    (words : List Word) :
    DividesInto words (Document.sentences words) := by
  constructor
  case indices =>
    intro number sentence isSentence
    rw [Document.sentences_eq, List.getElem?_map, List.getElem?_zipIdx, Option.map_map,
      Nat.zero_add] at isSentence
    obtain ⟨part, _, rfl⟩ := Option.map_eq_some_iff.mp isSentence
    rfl
  case nonempty =>
    intro sentence member
    have isPart : sentence.words ∈ Document.parts words := by
      rw [← Document.map_words_sentences]
      exact List.mem_map_of_mem member
    exact List.ne_nil_of_mem_splitBy isPart
  case hasWords =>
    exact Document.flatMap_words_sentences words
  case starts =>
    intro place word isWord
    exact Document.startsAt_succ_iff isWord
  case places =>
    intro number sentence isSentence
    have stands := standsIn_of_getElem? isSentence
    rwa [Document.flatMap_words_sentences] at stands

end ProseRules
