namespace ProseRules.Regex

/-!
# Escaping a literal text

Every character that can have a meaning in an expression, and every blank of the
plain alphabet, gets a backslash before it.
-/

/-- Characters that a literal text escapes. -/
def specialCharacters : List Char :=
  "()[]\x7b\x7d?*+-|^$\\.&~# \t\n\r\x0b\x0c".toList

/-- One character of a literal text. -/
def escapeChar (c : Char) : List Char :=
  if specialCharacters.contains c then ['\\', c] else [c]

/-- The source of an expression that matches the text. -/
def escape (text : String) : String :=
  String.ofList (text.toList.flatMap escapeChar)

end ProseRules.Regex
