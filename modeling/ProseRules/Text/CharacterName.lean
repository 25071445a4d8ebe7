import ProseRules.Text.Letter
import ProseRules.Text.NameTable.Aliases
import ProseRules.Text.NameTable.Alphabets
import ProseRules.Text.NameTable.Supplement
import ProseRules.Text.NameTable.Symbols

namespace ProseRules.Text

/-!
# Characters by name

Syllables and ideographs have names by a rule. The other names are listed in runs
of characters with successive code points. The names of a run are packed as one text,
cut into lines: the first name stands in full, and every other one is a letter for the
number of characters that it shares with the start of the name before it, and the rest
of the name.
-/

/-- The number that a letter between names stands for: `a` to `z`, then `α` to `ω`. -/
def sharedLength? (c : Char) : Option Nat :=
  if 'a' ≤ c && c ≤ 'z' then some (c.toNat - 'a'.toNat)
  else if 'α' ≤ c && c ≤ 'ω' then some (c.toNat - 'α'.toNat + 26)
  else none

/--
The code point of a name in what follows of a run. `reversed` is the start of the
name of the character with the code point `code`, last character first.
-/
def codeInRun? (sought reversed : List Char) (code : Nat) : List Char → Option Nat
  | [] => if reversed = sought then some code else none
  | c :: rest =>
      match sharedLength? c with
      | none => codeInRun? sought (c :: reversed) code rest
      | some shared =>
          if reversed = sought then
            some code
          else
            codeInRun? sought (reversed.drop (reversed.length - shared)) (code + 1) rest

/-- The capital of an unaccented Latin letter; other characters stay. -/
def plainCapital (c : Char) : Char :=
  if 'a' ≤ c && c ≤ 'z' then Char.ofNat (c.toNat - 32) else c

/-- The code point of a listed name, without regard to the case of plain letters. -/
def listedCode? (name : List Char) : Option Nat :=
  let sought := (name.map plainCapital).reverse
  [alphabetNames, symbolNames, supplementNames, aliasNames].findSome? fun runs =>
    runs.findSome? fun run => codeInRun? sought [] run.1 (run.2.flatMap String.toList)

/-- The names of the leading consonants of a syllable in their order. -/
def leadingNames : List String :=
  ["G", "GG", "N", "D", "DD", "R", "M", "B", "BB", "S", "SS", "", "J", "JJ", "C", "K", "T", "P",
    "H"]

/-- The names of the vowels of a syllable in their order. -/
def vowelNames : List String :=
  ["A", "AE", "YA", "YAE", "EO", "E", "YEO", "YE", "O", "WA", "WAE", "OE", "YO", "U", "WEO", "WE",
    "WI", "YU", "EU", "YI", "I"]

/-- The names of the trailing consonants of a syllable in their order. -/
def trailingNames : List String :=
  ["", "G", "GG", "GS", "N", "NJ", "NH", "D", "L", "LG", "LM", "LB", "LS", "LT", "LP", "LH", "M",
    "B", "BS", "S", "SS", "NG", "J", "C", "K", "T", "P", "H"]

/-- The place of a syllable, named by its parts, among all syllables. -/
def syllablePlace? (name : List Char) : Option Nat :=
  leadingNames.zipIdx.findSome? fun (leading, i) =>
    vowelNames.zipIdx.findSome? fun (vowel, j) =>
      trailingNames.zipIdx.findSome? fun (trailing, k) =>
        if (leading ++ vowel ++ trailing).toList = name then
          some ((i * vowelNames.length + j) * trailingNames.length + k)
        else
          none

/-- Code points of unified ideographs. -/
def ideographRanges : List (Nat × Nat) :=
  [
    (0x3400, 0x4DBF), (0x4E00, 0x9FFF), (0x20000, 0x2A6DF), (0x2A700, 0x2B738), (0x2B740, 0x2B81D),
    (0x2B820, 0x2CEA1), (0x2CEB0, 0x2EBE0), (0x30000, 0x3134A)
  ]

/-- A digit to the base of 16 in capitals. -/
def isCapitalHexDigit (c : Char) : Bool :=
  isPlainDigit c || ('A' ≤ c && c ≤ 'F')

/-- The unified ideograph with a code point of four or five digits. -/
def ideographCode? (digits : List Char) : Option Nat :=
  let code := positional 16 (digits.filterMap hexValue?)
  if (digits.length = 4 || digits.length = 5) && digits.all isCapitalHexDigit
      && inRanges ideographRanges code then
    some code
  else
    none

/-- The code point of the character with a name. -/
def codeNamed? (name : List Char) : Option Nat :=
  match "HANGUL SYLLABLE ".toList.isPrefixOf? name with
  | some parts => (syllablePlace? parts).map (0xAC00 + ·)
  | none =>
      match "CJK UNIFIED IDEOGRAPH-".toList.isPrefixOf? name with
      | some digits => ideographCode? digits
      | none => listedCode? name

end ProseRules.Text
