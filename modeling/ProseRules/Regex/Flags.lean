namespace ProseRules.Regex

/-!
# Flags of a regular expression

Flags hold for the whole expression or for the inside of one group.
-/

/-- The flags in force at a place of an expression. -/
structure Flags where
  /-- Letters match without regard to case. -/
  ignoreCase : Bool := false
  /-- Line ends count as ends of the text. -/
  multiline : Bool := false
  /-- The dot matches a line feed too. -/
  dotAll : Bool := false
  /-- Blanks and comments in the source are skipped. -/
  verbose : Bool := false
  /-- Character classes hold plain characters only. -/
  plain : Bool := false
  /-- Character classes reach over all scripts. -/
  allScripts : Bool := false
  /-- Repetitions are refused. -/
  template : Bool := false
  deriving Repr, DecidableEq

/-- One flag that a source can name. -/
inductive Flag where
  | ignoreCase
  | multiline
  | dotAll
  | verbose
  | plain
  | allScripts
  | template
  | locale
  deriving Repr, DecidableEq

namespace Flag

/-- The flag of a letter in a source. -/
def ofLetter? : Char → Option Flag
  | 'i' => some ignoreCase
  | 'm' => some multiline
  | 's' => some dotAll
  | 'x' => some verbose
  | 'a' => some plain
  | 'u' => some allScripts
  | 't' => some template
  | 'L' => some locale
  | _ => none

/-- The flag chooses the alphabet. -/
def choosesAlphabet : Flag → Bool
  | plain | allScripts | locale => true
  | _ => false

end Flag

namespace Flags

/-- The flags with one more set. -/
def set (flags : Flags) : Flag → Flags
  | .ignoreCase => { flags with ignoreCase := true }
  | .multiline => { flags with multiline := true }
  | .dotAll => { flags with dotAll := true }
  | .verbose => { flags with verbose := true }
  | .plain => { flags with plain := true }
  | .allScripts => { flags with allScripts := true }
  | .template => { flags with template := true }
  | .locale => flags

/-- The flags of both. -/
def union (flags more : Flags) : Flags where
  ignoreCase := flags.ignoreCase || more.ignoreCase
  multiline := flags.multiline || more.multiline
  dotAll := flags.dotAll || more.dotAll
  verbose := flags.verbose || more.verbose
  plain := flags.plain || more.plain
  allScripts := flags.allScripts || more.allScripts
  template := flags.template || more.template

/-- Flags of a group that turns some on and some off; naming an alphabet replaces it. -/
def inGroup (flags turnedOn turnedOff : Flags) : Flags :=
  let replacesAlphabet := turnedOn.plain || turnedOn.allScripts
  { ignoreCase := (flags.ignoreCase || turnedOn.ignoreCase) && !turnedOff.ignoreCase
    multiline := (flags.multiline || turnedOn.multiline) && !turnedOff.multiline
    dotAll := (flags.dotAll || turnedOn.dotAll) && !turnedOff.dotAll
    verbose := (flags.verbose || turnedOn.verbose) && !turnedOff.verbose
    plain := turnedOn.plain || (flags.plain && !replacesAlphabet)
    allScripts := turnedOn.allScripts || (flags.allScripts && !replacesAlphabet)
    template := flags.template }

/-- Some flag is set in both. -/
def overlaps (flags others : Flags) : Bool :=
  (flags.ignoreCase && others.ignoreCase) || (flags.multiline && others.multiline)
    || (flags.dotAll && others.dotAll) || (flags.verbose && others.verbose)

end Flags

end ProseRules.Regex
