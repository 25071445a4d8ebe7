import ProseRules.Text.Letter

namespace ProseRules.Yaml

/-!
# Characters of the format

The null character never occurs in a document; it stands for the end.
-/

/-- A line break in a scalar. -/
def isBreak (c : Char) : Bool :=
  c = '\n' || c = '\u0085' || c = '\u2028' || c = '\u2029'

/-- A character that ends a line of a document. -/
def endsLine (c : Char) : Bool :=
  c = '\r' || isBreak c

/-- The end of a line or of the document. -/
def endsLineOrDocument (c : Char) : Bool :=
  c = '\x00' || endsLine c

/-- A blank, a tab, or the end of a line or of the document. -/
def isSpacing (c : Char) : Bool :=
  c = ' ' || c = '\t' || endsLineOrDocument c

/-- A blank, or the end of a line or of the document. -/
def isGap (c : Char) : Bool :=
  c = ' ' || endsLineOrDocument c

/-- A character of the name of an anchor, a directive or a tag. -/
def isNameCharacter (c : Char) : Bool :=
  Text.isPlainLetter c || Text.isPlainDigit c || c = '-' || c = '_'

/-- A character of the address of a tag. -/
def isAddressCharacter (c : Char) : Bool :=
  Text.isPlainLetter c || Text.isPlainDigit c || "-;/?:@&=+$,_.!~*'()[]%".toList.contains c

/-- A character that a document may hold. -/
def isAllowed (c : Char) : Bool :=
  c = '\t' || c = '\n' || c = '\r' || c = '\u0085'
    || (0x20 ≤ c.toNat && c.toNat ≤ 0x7E) || (0xA0 ≤ c.toNat && c.toNat ≤ 0xFFFD)
    || (0x10000 ≤ c.toNat && c.toNat ≤ 0x10FFFF)

end ProseRules.Yaml
