import ProseRules.Definition.Token

namespace ProseRules

/-!
# Expansion of phrases

A phrase has one or more alternatives, and a pattern that refers to phrases stands
for one pattern for each way to choose an alternative of every one of them. The
last choice varies fastest.
-/

/-- The ways to choose one element of each list, the last list varying fastest. -/
def combinations {α : Type} : List (List α) → List (List α)
  | [] => [[]]
  | choices :: rest =>
      choices.flatMap fun choice => (combinations rest).map (choice :: ·)

/-- The definition of a token with the phrase that it belongs to. -/
structure PlacedToken where
  entries : TokenEntries
  phrase : Value

/-- The phrases of a document by their names. -/
abbrev PhraseTable : Type :=
  List (Value × Value)

namespace PhraseTable

/-- The alternatives of a phrase; a name that cannot be a key is refused. -/
def alternatives (phrases : PhraseTable) (place : DefinitionPlace) (name : Value) :
    Except Failure Value := do
  if !name.isKey then
    throw .wrongKind
  match Value.lookup? name phrases with
  | some alternatives => return alternatives
  | none =>
      throw (place.refusal [name] fun source id => .unknownPhrase source id name.display)

/-- One alternative of a phrase as placed tokens. -/
def placedAlternative (place : DefinitionPlace) (name alternative : Value) :
    Except Failure (List PlacedToken) := do
  let parts ← alternative.elements
  parts.mapM fun part => do
    return ⟨← TokenEntries.ofValue place part, name⟩

/-- The alternatives that an element of a pattern stands for. -/
def choicesOf (phrases : PhraseTable) (place : DefinitionPlace) (element : Value) :
    Except Failure (List (List PlacedToken)) := do
  let entries ← TokenEntries.ofValue place element
  match Value.field? "phraseref" entries with
  | none => return [[⟨entries, entries.ownPhrase⟩]]
  | some name =>
      let alternatives ← phrases.alternatives place name
      let parts ← alternatives.elements
      parts.mapM (placedAlternative place name)

end PhraseTable

/-- Where the logical units of placed tokens start. -/
def placedOffsets (placed : List PlacedToken) : List Nat :=
  unitOffsets (Token.unitSizes (placed.map fun token => Token.placeholder token.phrase))

/-- The tokens of one expanded pattern. -/
def tokensOf (place : DefinitionPlace) (placed : List PlacedToken) : Except Failure (List Token) :=
  placed.mapM fun token => token.entries.token place token.phrase (some (placedOffsets placed))

/-- The patterns that a pattern definition stands for. -/
def expand (phrases : PhraseTable) (place : DefinitionPlace) (pattern : Value) :
    Except Failure (List (List Token)) := do
  let elements ← pattern.elements
  let choices ← elements.mapM (phrases.choicesOf place)
  (combinations choices).mapM fun combination => tokensOf place combination.flatten

end ProseRules
