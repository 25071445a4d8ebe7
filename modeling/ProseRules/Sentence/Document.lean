import ProseRules.Text.Case

namespace ProseRules

/-!
# Documents and sentences

A document is a text already cut into words. A sentence is a document of its own
with its place in the text and the words that no match may touch. Characters are
counted from the start of a sentence, words from 0.
-/

/-- A word of a document. -/
structure Word where
  text : String
  /-- A blank follows the word. -/
  spaceAfter : Bool := true
  /-- The base form of the word; an empty one is unknown. -/
  baseForm : String := ""
  /-- The word starts a sentence, does not, or nothing is known. -/
  startsSentence : Option Bool := none
  deriving Repr, DecidableEq

namespace Word

/-- The characters of a word without the blank after it. -/
def length (word : Word) : Nat :=
  word.text.length

/-- The characters of a word with the blank after it. -/
def width (word : Word) : Nat :=
  word.length + word.spaceAfter.toNat

/-- The text of a word with the blank after it. -/
def textWithSpace (word : Word) : String :=
  if word.spaceAfter then word.text ++ " " else word.text

end Word

/-- The text of words with all their blanks. -/
def fullText (words : List Word) : String :=
  String.join (words.map Word.textWithSpace)

/-- The character at which a word starts. -/
def offsetOf : (words : List Word) → (index : Nat) → Nat
  | [], _ => 0
  | _, 0 => 0
  | word :: rest, index + 1 => word.width + offsetOf rest index

/-- A character is a blank after a word or belongs to the word itself: the word's number. -/
def wordAt (words : List Word) (character : Nat) : Nat :=
  match words with
  | [] => 0
  | word :: rest =>
      if character < word.width then 0 else wordAt rest (character - word.width) + 1

/--
The words touched by the characters from `start` up to `stop`; a start on the blank
after a word belongs to the next word.
-/
def wordSpan (words : List Word) (start stop : Nat) : Nat × Nat :=
  let first := wordAt words start
  let last := wordAt words (stop - 1)
  let endOfFirst := offsetOf words first + ((words[first]?).map Word.length).getD 0
  (if start = endOfFirst then first + 1 else first, last + 1)

/-- The words of a sentence in small letters, each once. -/
structure Vocabulary where
  surfaces : List String
  lemmas : List String
  deriving Repr, DecidableEq

/-- A sentence of a text. -/
structure Sentence where
  words : List Word
  /-- The place of the sentence in its text. -/
  index : Int := 0
  /-- The words that no match may touch, in the order in which they were given. -/
  immunized : List Int := []
  deriving Repr, DecidableEq

namespace Sentence

/-- The text of a sentence without the blanks at its end. -/
def text (sentence : Sentence) : String :=
  Text.trimEnd (fullText sentence.words)

/-- The words of a sentence in small letters, and their known base forms likewise. -/
def vocabulary (sentence : Sentence) : Vocabulary where
  surfaces := (sentence.words.map fun word => Text.lower word.text).eraseDups
  lemmas :=
    ((sentence.words.filter (·.baseForm ≠ "")).map fun word => Text.lower word.baseForm).eraseDups

/-- The sentence with more words that no match may touch. -/
def immunize (sentence : Sentence) (indices : List Int) : Sentence :=
  { sentence with immunized := sentence.immunized ++ indices }

/-- Some word from `start` up to `stop` may not be touched. -/
def isImmunized (sentence : Sentence) (start stop : Int) : Bool :=
  sentence.immunized.any fun index => start ≤ index && index < stop

end Sentence

namespace Document

/-- It is known of some word after the first whether it starts a sentence. -/
def hasSentenceMarks (words : List Word) : Bool :=
  words.length ≤ 1 || (words.drop 1).any (·.startsSentence.isSome)

/-- The words cut before every word after the first that starts a sentence. -/
def parts (words : List Word) : List (List Word) :=
  words.splitBy fun _ word => word.startsSentence ≠ some true

/-- The sentences of a document; without marks the whole document is one. -/
def sentences (words : List Word) : List Sentence :=
  let parts := if hasSentenceMarks words then parts words else [words]
  parts.zipIdx.map fun (part, index) => { words := part, index := index }

end Document

end ProseRules
