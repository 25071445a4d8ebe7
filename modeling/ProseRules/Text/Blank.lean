namespace ProseRules.Text

/-!
# Blank characters

The blanks are the characters that trimming removes and that a white-space
class of an expression accepts: the control blanks, the four information
separators, the next-line control and every space or line separator.
-/

/-- A code point lies in one of the closed ranges. -/
def inRanges (ranges : List (Nat × Nat)) (code : Nat) : Bool :=
  ranges.any fun range => range.1 ≤ code && code ≤ range.2

/-- Closed ranges of the code points of blank characters. -/
def blankRanges : List (Nat × Nat) :=
  [
    (9, 13), (28, 32), (133, 133), (160, 160), (5760, 5760), (8192, 8202), (8232, 8233),
    (8239, 8239), (8287, 8287), (12288, 12288)]

/-- The character is blank. -/
def isBlank (c : Char) : Bool :=
  inRanges blankRanges c.toNat

/-- The blanks among the first 128 characters that separate words in any script. -/
def isPlainBlank (c : Char) : Bool :=
  c = ' ' || (9 ≤ c.toNat && c.toNat ≤ 13)

/-- The characters without the blanks at their end. -/
def dropBlanksAtEnd (cs : List Char) : List Char :=
  (cs.reverse.dropWhile isBlank).reverse

/-- The characters without the blanks at both ends. -/
def dropBlanksAround (cs : List Char) : List Char :=
  dropBlanksAtEnd (cs.dropWhile isBlank)

/-- The text without the blanks at its end. -/
def trimEnd (s : String) : String :=
  String.ofList (dropBlanksAtEnd s.toList)

/-- The text without the blanks at both ends. -/
def trim (s : String) : String :=
  String.ofList (dropBlanksAround s.toList)

/-- Trimming the end keeps a beginning of the characters. -/
theorem dropBlanksAtEnd_prefix (cs : List Char) :
    dropBlanksAtEnd cs <+: cs := by
  unfold dropBlanksAtEnd
  have suffix := List.dropWhile_suffix (l := cs.reverse) isBlank
  simpa using List.reverse_prefix.mpr suffix

end ProseRules.Text
