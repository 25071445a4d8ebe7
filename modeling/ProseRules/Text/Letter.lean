import ProseRules.Text.Blank
import ProseRules.Text.LetterTable

namespace ProseRules.Text

/-!
# Letters, digits and word characters

Classes of characters over all scripts. The first 128 code points are decided
without the tables.
-/

/-- An unaccented Latin letter. -/
def isPlainLetter (c : Char) : Bool :=
  ('a' ≤ c && c ≤ 'z') || ('A' ≤ c && c ≤ 'Z')

/-- A European decimal digit. -/
def isPlainDigit (c : Char) : Bool :=
  '0' ≤ c && c ≤ '9'

/-- An unaccented Latin letter, a European digit or the low line. -/
def isPlainWordCharacter (c : Char) : Bool :=
  isPlainLetter c || isPlainDigit c || c = '_'

/-- A letter of some script. -/
def isLetter (c : Char) : Bool :=
  if c.toNat < 128 then isPlainLetter c else inRanges letterRanges c.toNat

/-- The value of a decimal digit of some script. -/
def digitValue? (c : Char) : Option Nat :=
  if c.toNat < 128 then
    if isPlainDigit c then some (c.toNat - '0'.toNat) else none
  else
    (digitRanges.find? fun range => range.1 ≤ c.toNat && c.toNat ≤ range.2).map
      fun range => (c.toNat - range.1) % 10

/-- A decimal digit of some script. -/
def isDigit (c : Char) : Bool :=
  (digitValue? c).isSome

/-- A letter, a digit, another numeral, or the low line. -/
def isWordCharacter (c : Char) : Bool :=
  if c.toNat < 128 then
    isPlainWordCharacter c
  else
    inRanges letterRanges c.toNat
      || inRanges digitRanges c.toNat
      || inRanges numeralRanges c.toNat

/-- A character that may begin a name: a letter, or what counts as one there. -/
def beginsName (c : Char) : Bool :=
  if c.toNat < 128 then
    isPlainLetter c || c = '_'
  else
    inRanges namingSignRanges c.toNat
      || (inRanges letterRanges c.toNat && !inRanges unnamingLetterRanges c.toNat)

/-- A character that may go on with a name: such a one, a digit or a mark. -/
def goesOnWithName (c : Char) : Bool :=
  beginsName c || isDigit c || inRanges nameMarkRanges c.toNat

/-- A name of one of the characters that begin it and others that go on with it. -/
def isName : List Char → Bool
  | [] => false
  | first :: rest => beginsName first && rest.all goesOnWithName

/-- Value of a character as a digit to the base of 16. -/
def hexValue? (c : Char) : Option Nat :=
  if isPlainDigit c then some (c.toNat - '0'.toNat)
  else if 'a' ≤ c && c ≤ 'f' then some (c.toNat - 'a'.toNat + 10)
  else if 'A' ≤ c && c ≤ 'F' then some (c.toNat - 'A'.toNat + 10)
  else none

/-- The number written by digits of a base, most significant first. -/
def positional (base : Nat) (digits : List Nat) : Nat :=
  digits.foldl (fun value digit => base * value + digit) 0

end ProseRules.Text
