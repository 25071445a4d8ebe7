import ProseRules.Regex.Expression
import ProseRules.Text.Case

namespace ProseRules.Regex

/-!
# Matching and searching

A tree denotes a `Matcher`: from a cursor in a text it tries to go on, and hands
each cursor it reaches to the rest of the match, in the order of preference. The
first success of the rest is the answer, so failure of the rest leads back to
the next cursor. Captures made on a way that failed are forgotten.
-/

/-- A place in a text with the captures of the groups, latest first. -/
structure Cursor where
  /-- The characters before the place, nearest first. -/
  before : List Char
  /-- The characters after the place. -/
  after : List Char
  captures : List (Nat × Nat × Nat) := []
  /-- The number of characters before the place. -/
  position : Nat
  position_eq : position = before.length := by rfl
  deriving Repr, DecidableEq

namespace Cursor

/-- The cursor at the start of a text. -/
def atStart (text : List Char) : Cursor where
  before := []
  after := text
  position := 0

/-- The cursor moved over a character, with what follows it. -/
def advance (cursor : Cursor) (c : Char) (after : List Char) : Cursor where
  before := c :: cursor.before
  after := after
  captures := cursor.captures
  position := cursor.position + 1
  position_eq := by simp [cursor.position_eq]

/-- The start and end of the latest capture of a group. -/
def captured? (cursor : Cursor) (group : Nat) : Option (Nat × Nat) :=
  cursor.captures.lookup group

/-- The cursor with a group captured from a place up to here. -/
def capture (cursor : Cursor) (group start : Nat) : Cursor :=
  { cursor with captures := (group, start, cursor.position) :: cursor.captures }

/-- The cursor moved back by a number of characters, if there are as many. -/
def back? (cursor : Cursor) (count : Nat) : Option Cursor :=
  if count ≤ cursor.position then
    some
      { before := cursor.before.drop count
        after := (cursor.before.take count).reverse ++ cursor.after
        captures := cursor.captures
        position := cursor.position - count
        position_eq := by simp [cursor.position_eq] }
  else
    none

/-- The text on both sides of a cursor. -/
def text (cursor : Cursor) : List Char :=
  cursor.before.reverse ++ cursor.after

/--
The characters of the text between two places. A group that was captured in a
look ahead, or is read in a look behind, lies after the cursor.
-/
def textBetween (cursor : Cursor) (start stop : Nat) : List Char :=
  (cursor.text.drop start).take (stop - start)

end Cursor

namespace CharacterClass

/-- A character belongs to the class over the plain alphabet or over all scripts. -/
def holds (plain : Bool) : CharacterClass → Char → Bool
  | digit, c => if plain then Text.isPlainDigit c else Text.isDigit c
  | blank, c => if plain then Text.isPlainBlank c else Text.isBlank c
  | word, c => if plain then Text.isPlainWordCharacter c else Text.isWordCharacter c

end CharacterClass

namespace Comparison

/-- The characters that a character of the text may stand for. -/
def standsFor (comparison : Comparison) (c : Char) : List Char :=
  if comparison.ignoreCase then
    if comparison.plain then Text.plainVariants c else Text.variants c
  else
    [c]

/-- The small form in which captured texts are compared. -/
def folded (comparison : Comparison) (c : Char) : Char :=
  if comparison.ignoreCase then
    if comparison.plain then Text.lowerPlainChar c else Text.lowerChar c
  else
    c

end Comparison

namespace Member

/--
A character is a member. Without regard to case a single character beyond the
first 65536 has to be the small form of the character of the text.
-/
def holds (comparison : Comparison) (c : Char) : Member → Bool
  | single code =>
      if comparison.ignoreCase && 65536 ≤ code then
        (comparison.folded c).toNat = code
      else
        (comparison.standsFor c).any (·.toNat = code)
  | range first last =>
      (comparison.standsFor c).any fun form => first ≤ form.toNat && form.toNat ≤ last
  | kind characterClass negated => characterClass.holds comparison.plain c != negated

end Member

namespace CharacterTest

/-- A character of the text passes the test. -/
def holds (comparison : Comparison) (c : Char) : CharacterTest → Bool
  | anything => true
  | notLineFeed => c ≠ '\n'
  | single code negated => (comparison.standsFor c).any (·.toNat = code) != negated
  | oneOf members negated => members.any (·.holds comparison c) != negated

end CharacterTest

namespace Anchor

/-- A place lies between characters of different kinds, one of a word and one not. -/
def isWordBoundary (plain : Bool) (before after : List Char) : Bool :=
  let isWord := CharacterClass.word.holds plain
  (before.head?.map isWord).getD false != (after.head?.map isWord).getD false

/-- The condition holds between two parts of a text; the first one is reversed. -/
def holds (before after : List Char) : Anchor → Bool
  | textStart => before.isEmpty
  | lineStart => before.isEmpty || before.head? = some '\n'
  | textEnd => after.isEmpty
  | lastLineEnd => after.isEmpty || after = ['\n']
  | lineEnd => after.isEmpty || after.head? = some '\n'
  | wordBoundary plain negated =>
      !(before.isEmpty && after.isEmpty) && (isWordBoundary plain before after != negated)

end Anchor

/-- A way to go on in a text. -/
abbrev Matcher : Type :=
  Cursor → (Cursor → Option Cursor) → Option Cursor

namespace Matcher

/-- Go on over a given text. -/
def literally (comparison : Comparison) : List Char → Matcher
  | [], cursor, onward => onward cursor
  | expected :: rest, cursor, onward =>
      match cursor.after with
      | [] => none
      | c :: after =>
          if comparison.folded c = comparison.folded expected then
            literally comparison rest (cursor.advance c after) onward
          else
            none

/-- More rounds are allowed and the last round moved. -/
def mayGoOn (most : Option Nat) (count : Nat) (last : Option Nat) (cursor : Cursor) : Bool :=
  most.all (count < ·) && last ≠ some cursor.position

/--
Rounds of a body, as many as possible first. `count` rounds were made and `last`
is the place where the last optional one began.
-/
def greedily (body : Matcher) (least : Nat) (most : Option Nat) :
    (limit count : Nat) → (last : Option Nat) → Matcher
  | 0, _, _, cursor, onward => onward cursor
  | limit + 1, count, last, cursor, onward =>
      if count < least then
        body cursor fun reached =>
          greedily body least most limit (count + 1) last reached onward
      else if mayGoOn most count last cursor then
        (body cursor fun reached =>
          greedily body least most limit (count + 1) (some cursor.position) reached onward).or
          (onward cursor)
      else
        onward cursor

/-- Rounds of a body, as few as possible first. -/
def lazily (body : Matcher) (least : Nat) (most : Option Nat) :
    (limit count : Nat) → (last : Option Nat) → Matcher
  | 0, _, _, cursor, onward => onward cursor
  | limit + 1, count, last, cursor, onward =>
      if count < least then
        body cursor fun reached =>
          lazily body least most limit (count + 1) last reached onward
      else
        (onward cursor).or
          (if mayGoOn most count last cursor then
            body cursor fun reached =>
              lazily body least most limit (count + 1) (some cursor.position) reached onward
          else
            none)

/-- Where rounds of a body end if each is made whenever it can be. -/
def exhaust (body : Matcher) (least : Nat) (most : Option Nat) :
    (limit count : Nat) → (last : Option Nat) → Cursor → Option Cursor
  | 0, _, _, cursor => some cursor
  | limit + 1, count, last, cursor =>
      if count < least then
        match body cursor some with
        | none => none
        | some reached => exhaust body least most limit (count + 1) last reached
      else if mayGoOn most count last cursor then
        match body cursor some with
        | none => some cursor
        | some reached =>
            exhaust body least most limit (count + 1) (some cursor.position) reached
      else
        some cursor

end Matcher

namespace Tree

/-- The matcher that a tree denotes. -/
def matcher : Tree → Matcher
  | empty, cursor, onward => onward cursor
  | character comparison test, cursor, onward =>
      match cursor.after with
      | [] => none
      | c :: after =>
          if test.holds comparison c then
            onward (cursor.advance c after)
          else
            none
  | place anchor, cursor, onward =>
      if anchor.holds cursor.before cursor.after then onward cursor else none
  | sequence first second, cursor, onward =>
      matcher first cursor fun reached => matcher second reached onward
  | choice first second, cursor, onward =>
      (matcher first cursor onward).or (matcher second cursor onward)
  | loop least most eagerness body, cursor, onward =>
      let limit := least + cursor.after.length + 2
      match eagerness with
      | .greedy => Matcher.greedily (matcher body) least most limit 0 none cursor onward
      | .lazy => Matcher.lazily (matcher body) least most limit 0 none cursor onward
      | .possessive =>
          (Matcher.exhaust (matcher body) least most limit 0 none cursor).bind onward
  | group number body, cursor, onward =>
      matcher body cursor fun reached => onward (reached.capture number cursor.position)
  | backReference comparison number, cursor, onward =>
      match cursor.captured? number with
      | none => none
      | some (start, stop) =>
          Matcher.literally comparison (cursor.textBetween start stop) cursor onward
  | ifGroup number matched unmatched, cursor, onward =>
      if (cursor.captured? number).isSome then
        matcher matched cursor onward
      else
        matcher unmatched cursor onward
  | look direction negated body, cursor, onward =>
      let origin :=
        match direction with
        | .ahead => some cursor
        | .behind width => cursor.back? width.least
      match origin.bind fun origin => matcher body origin some with
      | some reached =>
          if negated then none else onward { cursor with captures := reached.captures }
      | none => if negated then onward cursor else none
  | atomic body, cursor, onward => (matcher body cursor some).bind onward

end Tree

/-- Where an expression matched and what its groups captured. -/
structure Occurrence where
  start : Nat
  stop : Nat
  captures : List (Nat × Nat × Nat)
  deriving Repr, DecidableEq

namespace Occurrence

/-- The start and end of a group; group 0 is the whole occurrence. -/
def span? (occurrence : Occurrence) (group : Nat) : Option (Nat × Nat) :=
  if group = 0 then
    some (occurrence.start, occurrence.stop)
  else
    occurrence.captures.lookup group

end Occurrence

namespace Tree

/-- Match from a place; `mustMove` refuses an empty match. -/
def matchAt (tree : Tree) (mustMove : Bool) (origin : Cursor) : Option Cursor :=
  tree.matcher origin fun reached =>
    if mustMove && reached.position = origin.position then none else some reached

/-- The first match from a place on, with the place where it starts. -/
def searchFrom (tree : Tree) (mustMove : Bool) (origin : Cursor) : Option (Nat × Cursor) :=
  search mustMove origin origin.after
where
  search (mustMove : Bool) (origin : Cursor) : List Char → Option (Nat × Cursor)
    | [] => (tree.matchAt mustMove origin).map fun reached => (origin.position, reached)
    | c :: after =>
        match tree.matchAt mustMove origin with
        | some reached => some (origin.position, reached)
        | none => search false (origin.advance c after) after

/--
The matches from a place on, each starting no earlier than the one before it
ends; after an empty match the next one at its place has to be longer.
-/
def occurrencesFrom (tree : Tree) :
    (limit : Nat) → (mustMove : Bool) → (origin : Cursor) → List Occurrence
  | 0, _, _ => []
  | limit + 1, mustMove, origin =>
      match tree.searchFrom mustMove origin with
      | none => []
      | some (start, reached) =>
          ⟨start, reached.position, reached.captures⟩ ::
            occurrencesFrom tree limit (reached.position = start) { reached with captures := [] }

end Tree

namespace Expression

/-- The expression matches somewhere in a text. -/
def isFoundIn (expression : Expression) (text : String) : Bool :=
  (expression.tree.searchFrom false (.atStart text.toList)).isSome

/-- The matches of the expression in a text from left to right. -/
def occurrences (expression : Expression) (text : List Char) : List Occurrence :=
  expression.tree.occurrencesFrom (2 * text.length + 2) false (.atStart text)

end Expression

end ProseRules.Regex
