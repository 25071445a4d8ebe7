import ProseRules.Token.Grouping
import ProseRules.Value.Conversion

namespace ProseRules

/-!
# Token definitions

A token is defined by its text alone or by a mapping. A reference in a mapping
counts logical units from 1, and an upper bound may be given as a star.
-/

/-- Where a definition stands, for what is said about its flaws. -/
structure DefinitionPlace where
  source : String
  id : Value

namespace DefinitionPlace

/-- The refusal of a definition in words that name its rule and some values. -/
def refusal (place : DefinitionPlace) (named : List Value)
    (flaw : (source id : String) → DefinitionFlaw) : Failure :=
  .refusing (place.id :: named) (flaw place.source place.id.display)

/--
Refuse keys that are none of the known names. The id of the rule is written before
the keys are put in order.
-/
def requireKnown (place : DefinitionPlace) (known : List String)
    (flaw : (source id : String) → List Value → DefinitionFlaw) (entries : List (Value × Value)) :
    Except Failure Unit := do
  let unknown := Value.unknownKeys known entries
  if !unknown.isEmpty then
    let _ ← place.id.shown
    let keys ← Value.sorted unknown
    throw (place.refusal keys fun source id => flaw source id keys)

end DefinitionPlace

/-- The entries of the mapping that defines a token. -/
abbrev TokenEntries : Type :=
  List (Value × Value)

namespace TokenEntries

/-- The keys that the definition of a token may have. -/
def knownKeys : List String :=
  ["string", "negation", "regex", "inflected", "case_sensitive", "min", "max", "phrase",
    "reference", "phraseref"]

/-- The entries that a definition of a token stands for. -/
def ofValue (place : DefinitionPlace) : Value → Except Failure TokenEntries
  | .text s => .ok [(.text "string", .text s)]
  | .mapping entries => do
      place.requireKnown knownKeys .unknownTokenKeys entries
      return entries
  | value => .error (place.refusal [value] fun source id => .badToken source id value)

/-- The value of a flag of a token. -/
def flag (name : String) (entries : TokenEntries) : Bool :=
  (Value.fieldOr name (.bool false) entries).isTruthy

/--
The place of the token that a reference goes to, if there is one. `offsets` holds
where the logical units start; without them no reference is accepted.
-/
def reference (place : DefinitionPlace) (offsets : Option (List Nat)) (entries : TokenEntries) :
    Except Failure (Option Int) :=
  let given := Value.fieldOr "reference" .null entries
  let refused := place.refusal [given] fun source id => .badTokenReference source id given
  match given, offsets with
  | .null, _ => .ok none
  | _, none => .error refused
  | _, some offsets => do
      let number ← given.toInteger
      if 1 ≤ number ∧ number < offsets.length then
        return some (Int.ofNat (offsets.getD (number.toNat - 1) 0))
      else
        throw refused

/-- The upper bound in the absence of one: 1, or a greater lower bound. -/
def usualMost (entries : TokenEntries) : Except Failure Value := do
  let least := Value.fieldOr "min" (.int 1) entries
  match least.quantity? with
  | none => throw .wrongKind
  | some quantity =>
      match quantity.compare? (.whole 1) with
      | some .lt | some .eq => return .int 1
      | _ => return least

/-- An upper bound as a number, -1 if there is none. -/
def mostOf : Value → Except Failure Int
  | .null | .text "*" => .ok (-1)
  | value => value.toInteger

/-- A failure on a flawed value is one of the definition. -/
def atToken {α : Type} (place : DefinitionPlace) : Except Failure α → Except Failure α
  | .error (.badValue flaw) =>
      .error (place.refusal [] fun source id => .tokenFlaw source id flaw)
  | result => result

/-- The token that its entries define as a part of a phrase. -/
def token (place : DefinitionPlace) (phrase : Value) (offsets : Option (List Nat))
    (entries : TokenEntries) : Except Failure Token := do
  let reference ← reference place offsets entries
  let usual ← usualMost entries
  let most := Value.fieldOr "max" usual entries
  atToken place do
    let text ← (Value.fieldOr "string" (.text "") entries).shown
    let least ← (Value.fieldOr "min" (.int 1) entries).toInteger
    let most ← mostOf most
    (Token.ofParts
      { text := text
        negated := flag "negation" entries
        isExpression := flag "regex" entries
        inflected := flag "inflected" entries
        caseSensitive := flag "case_sensitive" entries
        least := least
        most := most
        phrase := phrase
        reference := reference }).mapError Failure.badValue

/-- The phrase that a token definition names itself. -/
def ownPhrase (entries : TokenEntries) : Value :=
  Value.fieldOr "phrase" (.text "") entries

end TokenEntries

/-- The tokens of an anti-pattern, which may hold no reference. -/
def antipatternOf (place : DefinitionPlace) (definition : Value) : Except Failure (List Token) := do
  let parts ← definition.elements
  let defined ← parts.mapM (TokenEntries.ofValue place)
  defined.mapM fun entries => entries.token place entries.ownPhrase none

end ProseRules
