import ProseRules.Token.Basic

namespace ProseRules

/-!
# Logical units of a pattern

Neighbouring tokens of one phrase count as a single unit when a match is marked
or a message refers to a part of it; any other token is a unit of its own. Units
are given by their sizes, and a unit starts where the sizes before it add up to.
-/

/-- The sums of the beginnings of a list, from the empty one to the whole. -/
def runningTotals {α : Type} [Add α] (start : α) : List α → List α
  | [] => [start]
  | size :: sizes => start :: runningTotals (start + size) sizes

namespace Token

/-- Two neighbouring tokens belong to one phrase. -/
def sharePhrase (first second : Token) : Bool :=
  first.isPartOfPhrase && second.isPartOfPhrase && first.phrase.equals second.phrase

/-- The tokens cut into units. -/
def units (tokens : List Token) : List (List Token) :=
  tokens.splitBy sharePhrase

/-- The sizes of the units of a pattern. -/
def unitSizes (tokens : List Token) : List Nat :=
  (units tokens).map List.length

/-- Some token belongs to a phrase. -/
def usesGrouping (tokens : List Token) : Bool :=
  tokens.any isPartOfPhrase

end Token

/-- The place where each unit starts, and the number of tokens at the end. -/
def unitOffsets (sizes : List Nat) : List Nat :=
  runningTotals 0 sizes

/-- The number of the unit that holds a token, counted from 0. -/
def unitOf (offsets : List Nat) (token : Nat) : Nat :=
  (offsets.dropLast.filter (· ≤ token)).length - 1

end ProseRules
