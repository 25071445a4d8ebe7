namespace ProseRules.Regex

/-!
# Lexemes of an expression

The source of an expression is read lexeme by lexeme: a character, a backslash
with the character after it, or a backslash that ends the source.
-/

/-- One lexeme of a source. -/
inductive Lexeme where
  | plain (character : Char)
  | escaped (character : Char)
  | dangling
  deriving Repr, DecidableEq

namespace Lexeme

/-- The characters of a lexeme. -/
def characters : Lexeme → List Char
  | plain character => [character]
  | escaped character => ['\\', character]
  | dangling => ['\\']

/-- The number of characters of a lexeme. -/
def length (lexeme : Lexeme) : Nat :=
  lexeme.characters.length

/-- The text of a lexeme. -/
def text (lexeme : Lexeme) : String :=
  String.ofList lexeme.characters

/-- The lexemes of a source. -/
def ofSource : List Char → List Lexeme
  | [] => []
  | '\\' :: character :: rest => escaped character :: ofSource rest
  | ['\\'] => [dangling]
  | character :: rest => plain character :: ofSource rest

/-- The number of characters of several lexemes. -/
def totalLength : List Lexeme → Nat
  | [] => 0
  | lexeme :: rest => lexeme.length + totalLength rest

end Lexeme

/-- The lexemes of a source hold its characters in order. -/
theorem Lexeme.flatMap_characters_ofSource (source : List Char) :
    (Lexeme.ofSource source).flatMap Lexeme.characters = source := by
  fun_induction Lexeme.ofSource source with
  | case1 => rfl
  | case2 character rest inductionHypothesis =>
      simp [Lexeme.characters, inductionHypothesis]
  | case3 => rfl
  | case4 character rest _ _ inductionHypothesis =>
      simp [Lexeme.characters, inductionHypothesis]

end ProseRules.Regex
