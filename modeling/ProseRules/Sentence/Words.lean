import ProseRules.Sentence.Document
import ProseRules.Text.Blank

namespace ProseRules

/-!
# Words of a text

A text is cut into words at its blanks. This plain cut knows neither lemmas nor
the ends of sentences; a language model that does gives its words directly.
-/

namespace Document

/-- The parts of a text between blanks, and the part before the first of them. -/
def partsBetweenBlanks : List Char → List Char × List (List Char)
  | [] => ([], [])
  | c :: rest =>
      let (first, others) := partsBetweenBlanks rest
      if Text.isBlank c then ([], first :: others) else (c :: first, others)

/-- The words of a text, each followed by a blank but the last one. -/
def wordsOf (text : String) : List Word :=
  let (first, others) := partsBetweenBlanks text.toList
  let parts := (first :: others).filter (!·.isEmpty)
  parts.zipIdx.map fun (part, index) =>
    { text := String.ofList part, spaceAfter := decide (index + 1 < parts.length) }

end Document

end ProseRules
