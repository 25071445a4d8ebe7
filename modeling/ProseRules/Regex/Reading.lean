import ProseRules.Text.Letter
import ProseRules.Regex.Defect
import ProseRules.Regex.Lexeme
import ProseRules.Regex.Tree

namespace ProseRules.Regex

/-!
# State of reading an expression

Reading goes over the lexemes of the source and keeps what later lexemes can
refer to. A place is remembered as the number of characters that follow it, so
no step depends on how long the part before it is.
-/

/-- A reason to stop reading. -/
inductive Flaw where
  /-- A defect before the last `remaining` characters of the source. -/
  | defect (defect : Defect) (remaining : Nat)
  | boundTooLarge
  | boundTooLong (digits : Nat)
  deriving Repr, DecidableEq

/-- What is known in the middle of a source. -/
structure Reading where
  /-- The lexemes that follow. -/
  rest : List Lexeme
  /-- The flags of the whole expression. -/
  flags : Flags
  /-- The named groups, latest first. -/
  names : List (String × Nat) := []
  /-- The widths of the groups from the first on; an open group has none. -/
  widths : List (Option Width) := []
  /-- The number of the first group opened inside the outermost look behind. -/
  lookbehindGroups : Option Nat := none
  /-- Groups on which a condition hangs, with the characters that follow the first one. -/
  awaited : List (Nat × Nat) := []
  deriving Repr, DecidableEq

namespace Reading

/-- The number that the next group would get. -/
def groupCount (reading : Reading) : Nat :=
  reading.widths.length + 1

/-- The number of characters that follow. -/
def remaining (reading : Reading) : Nat :=
  Lexeme.totalLength reading.rest

/-- The width of a closed group. -/
def closedWidth? (reading : Reading) (group : Nat) : Option Width :=
  if group = 0 then none else (reading.widths[group - 1]?).join

end Reading

/-- A step of reading. -/
abbrev Parser (α : Type) : Type :=
  StateT Reading (Except Flaw) α

namespace Parser

/-- Stop at a defect that lies `back` characters before the next lexeme. -/
def fail {α : Type} (defect : Defect) (back : Nat := 0) : Parser α := do
  let reading ← get
  throw (.defect defect (reading.remaining + back))

/-- Stop at a defect before the last `remaining` characters. -/
def failBefore {α : Type} (defect : Defect) (remaining : Nat) : Parser α :=
  throw (.defect defect remaining)

/-- The number of characters that follow. -/
def remaining : Parser Nat := do
  return (← get).remaining

/-- The next lexeme, left in place. -/
def peek : Parser (Option Lexeme) := do
  return (← get).rest.head?

/-- The next lexeme, taken. A backslash that ends the source is refused as soon as it comes next. -/
def take : Parser (Option Lexeme) := do
  let reading ← get
  match reading.rest with
  | [] => return none
  | [_, .dangling] => throw (.defect .danglingBackslash 1)
  | lexeme :: rest =>
      set { reading with rest := rest }
      return some lexeme

/-- Take the next lexeme if it is the given character. -/
def accept (character : Char) : Parser Bool := do
  if (← peek) = some (.plain character) then
    let _ ← take
    return true
  else
    return false

/-- Take at most `limit` characters of a class. -/
def takeClass (inClass : Char → Bool) : (limit : Nat) → Parser (List Char)
  | 0 => return []
  | limit + 1 => do
      match ← peek with
      | some (.plain character) =>
          if inClass character then
            let _ ← take
            return character :: (← takeClass inClass limit)
          else
            return []
      | _ => return []

/-- Take all characters of a class that come next. -/
def takeWhole (inClass : Char → Bool) : Parser (List Char) := do
  takeClass inClass (← get).rest.length

/-- Take lexemes until a character that ends a name; `found` holds the name so far. -/
def takeNameFrom (terminator : Char) (what : String) (found : List Char) :
    (limit : Nat) → Parser (List Char)
  | 0 => fail (.missingName what)
  | limit + 1 => do
      match ← take with
      | none =>
          if found.isEmpty then
            fail (.missingName what)
          else
            fail (.unterminatedName terminator) found.length
      | some lexeme =>
          if lexeme = .plain terminator then
            if found.isEmpty then fail (.missingName what) 1 else return found
          else
            takeNameFrom terminator what (found ++ lexeme.characters) limit

/-- Take a name and the character that ends it. -/
def takeName (terminator : Char) (what : String) : Parser (List Char) := do
  takeNameFrom terminator what [] ((← get).rest.length + 1)

/-- Refuse a text that is no name. -/
def requireName (name : List Char) : Parser Unit := do
  unless Text.isName name do
    fail (.badGroupName (String.ofList name)) (name.length + 1)

/-- The number of a named group. -/
def groupNamed? (name : List Char) : Parser (Option Nat) := do
  return (← get).names.lookup (String.ofList name)

/-- Refuse a reference from inside a look behind to a group that is open or opened there. -/
def requireBeforeLookbehind (group : Nat) : Parser Unit := do
  let reading ← get
  match reading.lookbehindGroups with
  | none => return
  | some first => do
      if (reading.closedWidth? group).isNone then
        fail .openGroupReference
      if group ≥ first then
        fail .lookbehindGroupReference

end Parser

end ProseRules.Regex
