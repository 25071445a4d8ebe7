import ProseRules.Failure
import ProseRules.Yaml.Character

namespace ProseRules.Yaml

/-!
# Places in a document

A place is what follows in the document together with the number of characters
before it, of lines before it, and of characters before it on its line.
-/

/-- Why a document cannot be read. -/
inductive ReadFlaw where
  /-- The text is no document of the format. -/
  | malformed
  /-- A scalar of the document has no value. -/
  | failed (failure : Failure)

/-- A place in a document. -/
structure Place where
  rest : List Char
  index : Nat := 0
  line : Nat := 0
  column : Nat := 0
  deriving Repr, DecidableEq

namespace Place

/-- The next character, or the null character at the end. -/
def peek (place : Place) : Char :=
  place.rest.headD '\x00'

/-- The character after `distance` others, or the null character behind the end. -/
def peekAt (place : Place) (distance : Nat) : Char :=
  place.rest.getD distance '\x00'

/-- The place after the next character. A mark of byte order takes no column. -/
def next (place : Place) : Place :=
  match place.rest with
  | [] => place
  | c :: rest =>
      if isBreak c || (c = '\r' && rest.head? ≠ some '\n') then
        ⟨rest, place.index + 1, place.line + 1, 0⟩
      else if c = '\ufeff' then
        ⟨rest, place.index + 1, place.line, place.column⟩
      else
        ⟨rest, place.index + 1, place.line, place.column + 1⟩

/-- The place after a number of characters. -/
def skip (place : Place) : Nat → Place
  | 0 => place
  | count + 1 => place.next.skip count

/-- The characters of a class that come next, and the place after them. -/
def takeWhile (place : Place) (inClass : Char → Bool) : List Char × Place :=
  let found := place.rest.takeWhile inClass
  (found, place.skip found.length)

/-- The place after the characters of a class that come next. -/
def dropWhile (place : Place) (inClass : Char → Bool) : Place :=
  (place.takeWhile inClass).2

/-- A line break that comes next as it counts in a scalar, and the place after it. -/
def lineBreak (place : Place) : List Char × Place :=
  match place.rest with
  | '\r' :: '\n' :: _ => (['\n'], place.skip 2)
  | c :: _ =>
      if c = '\r' || c = '\n' || c = '\u0085' then (['\n'], place.next)
      else if c = '\u2028' || c = '\u2029' then ([c], place.next)
      else ([], place)
  | [] => ([], place)

/-- The rest of a line that may hold only blanks and a comment. -/
def endOfLine (place : Place) : Except ReadFlaw Place :=
  let place := place.dropWhile (· = ' ')
  let place := if place.peek = '#' then place.dropWhile (!endsLine ·) else place
  if endsLineOrDocument place.peek then .ok place.lineBreak.2 else .error .malformed

/-- Three given characters that are followed by spacing come next. -/
def hasMark (place : Place) (mark : Char) : Bool :=
  place.rest.take 3 = [mark, mark, mark] && isSpacing (place.peekAt 3)

/-- The mark of the start or the end of a document comes next. -/
def hasDocumentMark (place : Place) : Bool :=
  place.hasMark '-' || place.hasMark '.'

end Place

end ProseRules.Yaml
