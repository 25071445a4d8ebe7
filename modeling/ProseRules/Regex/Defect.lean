import ProseRules.Text.Quoted

namespace ProseRules.Regex

/-!
# Defects of a regular expression

A defect is a cause for which an expression cannot be read. Most defects have a
place in the expression; a flaw that concerns the expression as a whole has none.
-/

/-- Why the source of an expression is not well formed. -/
inductive Defect where
  | danglingBackslash
  | incompleteEscape (escape : String)
  | badEscape (escape : String)
  | octalTooLarge (escape : String)
  | missingBrace
  | undefinedCharacterName (name : String)
  | missingName (what : String)
  | unterminatedName (terminator : Char)
  | badGroupName (name : String)
  | unknownGroupName (name : String)
  | redefinedGroup (name : String) (group earlier : Nat)
  | openGroupReference
  | lookbehindGroupReference
  | invalidGroupReference (group : Nat)
  | badGroupNumber
  | manyConditionalBranches
  | unterminatedSet
  | badRange (first last : String)
  | crossedBounds
  | nothingToRepeat
  | multipleRepeat
  | unexpectedEnd
  | unknownExtension (text : String)
  | unterminatedComment
  | unterminatedGroup
  | unbalancedParenthesis
  | lateGlobalFlags
  | localeFlag
  | clashingAlphabetFlags
  | unknownFlag
  | missingAfterFlags
  | missingFlag
  | missingColon
  | alphabetFlagOff
  | globalFlagOn
  | globalFlagOff
  | flagOnAndOff
  | variableLookbehind
  | farLookbehind
  | templateRepeat (operator : String)
  deriving Repr, DecidableEq

namespace Defect

/-- The words for a defect, without its place. -/
def message : Defect → String
  | danglingBackslash => "bad escape (end of pattern)"
  | incompleteEscape escape => "incomplete escape " ++ escape
  | badEscape escape => "bad escape " ++ escape
  | octalTooLarge escape => "octal escape value " ++ escape ++ " outside of range 0-0o377"
  | missingBrace => "missing \x7b"
  | undefinedCharacterName name => "undefined character name " ++ Text.quoted name
  | missingName what => "missing " ++ what
  | unterminatedName terminator =>
      "missing " ++ terminator.toString ++ ", unterminated name"
  | badGroupName name => "bad character in group name " ++ Text.quoted name
  | unknownGroupName name => "unknown group name " ++ Text.quoted name
  | redefinedGroup name group earlier =>
      "redefinition of group name " ++ Text.quoted name ++ " as group " ++ toString group
        ++ "; was group " ++ toString earlier
  | openGroupReference => "cannot refer to an open group"
  | lookbehindGroupReference =>
      "cannot refer to group defined in the same lookbehind subpattern"
  | invalidGroupReference group => "invalid group reference " ++ toString group
  | badGroupNumber => "bad group number"
  | manyConditionalBranches => "conditional backref with more than two branches"
  | unterminatedSet => "unterminated character set"
  | badRange first last => "bad character range " ++ first ++ "-" ++ last
  | crossedBounds => "min repeat greater than max repeat"
  | nothingToRepeat => "nothing to repeat"
  | multipleRepeat => "multiple repeat"
  | unexpectedEnd => "unexpected end of pattern"
  | unknownExtension text => "unknown extension ?" ++ text
  | unterminatedComment => "missing ), unterminated comment"
  | unterminatedGroup => "missing ), unterminated subpattern"
  | unbalancedParenthesis => "unbalanced parenthesis"
  | lateGlobalFlags => "global flags not at the start of the expression"
  | localeFlag => "bad inline flags: cannot use 'L' flag with a str pattern"
  | clashingAlphabetFlags => "bad inline flags: flags 'a', 'u' and 'L' are incompatible"
  | unknownFlag => "unknown flag"
  | missingAfterFlags => "missing -, : or )"
  | missingFlag => "missing flag"
  | missingColon => "missing :"
  | alphabetFlagOff => "bad inline flags: cannot turn off flags 'a', 'u' and 'L'"
  | globalFlagOn => "bad inline flags: cannot turn on global flag"
  | globalFlagOff => "bad inline flags: cannot turn off global flag"
  | flagOnAndOff => "bad inline flags: flag turned on and off"
  | variableLookbehind => "look-behind requires fixed-width pattern"
  | farLookbehind => "looks too much behind"
  | templateRepeat operator => "internal: unsupported template operator " ++ operator

end Defect

/-- Why an expression is refused. -/
inductive Refusal where
  /-- The source is not well formed; the place counts characters from the start. -/
  | malformed (defect : Defect) (place : Option Nat)
  /-- A bound of a repetition does not fit into a machine word. -/
  | boundTooLarge
  /-- A bound of a repetition has too many digits to be read. -/
  | boundTooLong (digits : Nat)
  /-- The flags ask for plain letters and for all scripts at once. -/
  | clashingAlphabets
  deriving Repr, DecidableEq

/-- The line, counted from 1, and the column of a place in a source. -/
def lineAndColumn (source : List Char) (place : Nat) : Nat × Nat :=
  let before := source.take place
  ((before.filter (· = '\n')).length + 1,
    (before.reverse.takeWhile (· ≠ '\n')).length + 1)

/-- The words for a defect of a source, with its place if it has one. -/
def describe (source : List Char) (defect : Defect) : Option Nat → String
  | none => defect.message
  | some place =>
      let text := defect.message ++ " at position " ++ toString place
      if source.contains '\n' then
        let (line, column) := lineAndColumn source place
        text ++ " (line " ++ toString line ++ ", column " ++ toString column ++ ")"
      else
        text

end ProseRules.Regex
