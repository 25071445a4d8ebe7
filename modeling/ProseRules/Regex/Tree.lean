import ProseRules.Regex.Flags

namespace ProseRules.Regex

/-!
# Trees of regular expressions

A tree has the flags resolved: each leaf says itself whether case counts and
which alphabet its classes take.
-/

/-- How the characters of a text are compared with those of an expression. -/
structure Comparison where
  ignoreCase : Bool := false
  plain : Bool := false
  deriving Repr, DecidableEq

/-- A class of characters. -/
inductive CharacterClass where
  | digit
  | blank
  | word
  deriving Repr, DecidableEq

/-- A member of a character set. Characters are given by their code points. -/
inductive Member where
  | single (code : Nat)
  | range (first last : Nat)
  | kind (characterClass : CharacterClass) (negated : Bool)
  deriving Repr, DecidableEq

/-- What one character of the text has to satisfy. -/
inductive CharacterTest where
  | anything
  | notLineFeed
  | single (code : Nat) (negated : Bool)
  | oneOf (members : List Member) (negated : Bool)
  deriving Repr, DecidableEq

/-- A condition on a place between characters. -/
inductive Anchor where
  | textStart
  | lineStart
  | textEnd
  /-- The end of the text or the place before a line feed that ends it. -/
  | lastLineEnd
  | lineEnd
  | wordBoundary (plain negated : Bool)
  deriving Repr, DecidableEq

/-- In which order a repetition tries its rounds. -/
inductive Eagerness where
  | greedy
  | lazy
  /-- As many rounds as possible, none of them given back. -/
  | possessive
  deriving Repr, DecidableEq

/-- Bounds on the number of characters that a tree consumes. -/
structure Width where
  least : Nat
  most : Nat
  deriving Repr, DecidableEq

/-- Whether a look around the place goes ahead or back by the width of its body. -/
inductive Direction where
  | ahead
  | behind (width : Width)
  deriving Repr, DecidableEq

/-- A regular expression without its source. -/
inductive Tree where
  | empty
  | character (comparison : Comparison) (test : CharacterTest)
  | place (anchor : Anchor)
  | sequence (first second : Tree)
  | choice (first second : Tree)
  | loop (least : Nat) (most : Option Nat) (eagerness : Eagerness) (body : Tree)
  | group (number : Nat) (body : Tree)
  | backReference (comparison : Comparison) (number : Nat)
  | ifGroup (number : Nat) (matched unmatched : Tree)
  | look (direction : Direction) (negated : Bool) (body : Tree)
  | atomic (body : Tree)
  deriving Repr, DecidableEq

namespace Tree

/-- The trees one after another. -/
def all : List Tree → Tree
  | [] => empty
  | [tree] => tree
  | tree :: rest => sequence tree (all rest)

end Tree

namespace Width

/-- Widths are not told apart from here on. -/
def ceiling : Nat :=
  Nat.pow 2 64

/-- The width of nothing. -/
def zero : Width :=
  ⟨0, 0⟩

/-- The width of one character. -/
def one : Width :=
  ⟨1, 1⟩

/-- The width of two parts in a row. -/
def add (first second : Width) : Width :=
  ⟨first.least + second.least, first.most + second.most⟩

/-- The width of one of two parts. -/
def either (first second : Width) : Width :=
  ⟨min first.least second.least, max first.most second.most⟩

/-- The width of a repeated part. -/
def times (body : Width) (least : Nat) (most : Option Nat) : Width :=
  ⟨body.least * least,
    match most with
    | some most => body.most * most
    | none => if body.most = 0 then 0 else ceiling⟩

/-- The width cut at the ceiling. -/
def capped (width : Width) : Width :=
  ⟨min width.least ceiling, min width.most ceiling⟩

end Width

end ProseRules.Regex
