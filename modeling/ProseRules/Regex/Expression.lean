import ProseRules.Regex.Parser

namespace ProseRules.Regex

/-!
# Regular expressions

An expression is a source that was read as a tree. `Expression.ofSource` refuses
a source with the first flaw that reading from left to right meets; flaws that
concern the tree as a whole are looked for afterwards.
-/

namespace Tree

/-- The mark of a repetition in the words for a refused one. -/
def loopName : Eagerness → String
  | .greedy => "MAX_REPEAT"
  | .lazy => "MIN_REPEAT"
  | .possessive => "POSSESSIVE_REPEAT"

/--
The first look behind of variable or huge width, or the first repetition where none
is allowed.
-/
def defect? (template : Bool) : Tree → Option Defect
  | empty | character .. | place .. | backReference .. => none
  | sequence first second | choice first second | ifGroup _ first second =>
      (defect? template first).or (defect? template second)
  | loop _ _ eagerness body =>
      if template then some (.templateRepeat (loopName eagerness)) else defect? template body
  | group _ body | atomic body | look .ahead _ body => defect? template body
  | look (.behind width) _ body =>
      if width.least ≥ Parser.boundCeiling + 1 then some .farLookbehind
      else if width.least ≠ width.most then some .variableLookbehind
      else defect? template body

end Tree

/-- A regular expression that can be matched. -/
structure Expression where
  source : String
  flags : Flags
  /-- The number of groups. -/
  groups : Nat
  tree : Tree
  deriving Repr, DecidableEq

namespace Expression

/-- The first group a condition waits for that does not exist. -/
def missingGroup? (reading : Reading) : Option (Nat × Nat) :=
  reading.awaited.find? fun (group, _) => group ≥ reading.groupCount

/-- The flags of a whole expression after reading: all scripts unless plain ones are asked for. -/
def settledFlags (flags : Flags) : Option Flags :=
  if flags.plain then
    if flags.allScripts then none else some flags
  else
    some { flags with allScripts := true }

/-- The refusal for a flaw of a source. -/
def refusal (source : List Char) : Flaw → Refusal
  | .defect defect remaining => .malformed defect (some (source.length - remaining))
  | .boundTooLarge => .boundTooLarge
  | .boundTooLong digits => .boundTooLong digits

/-- Read a source under flags that hold from its start on. -/
def ofSource (source : String) (flags : Flags := {}) : Except Refusal Expression := do
  let characters := source.toList
  let lexemes := Lexeme.ofSource characters
  if lexemes = [.dangling] then
    throw (.malformed .danglingBackslash (some (characters.length - 1)))
  let start : Reading := ⟨lexemes, flags, [], [], none, []⟩
  match Parser.choice true flags (4 * lexemes.length + 4) |>.run start with
  | .error flaw => throw (refusal characters flaw)
  | .ok ((tree, _), reading) =>
      match settledFlags reading.flags with
      | none => throw .clashingAlphabets
      | some flags =>
          unless reading.rest.isEmpty do
            throw (refusal characters (.defect .unbalancedParenthesis reading.remaining))
          if let some (group, remaining) := missingGroup? reading then
            throw (refusal characters (.defect (.invalidGroupReference group) remaining))
          if let some defect := tree.defect? flags.template then
            throw (.malformed defect none)
          return ⟨source, flags, reading.widths.length, tree⟩

end Expression

end ProseRules.Regex
