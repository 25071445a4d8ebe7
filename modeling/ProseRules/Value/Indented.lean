import ProseRules.Failure

namespace ProseRules.Value

/-!
# Indented text of a value

A plain value is written with one element or entry a line, each level two blanks
further in. Texts stand between double quotes, and only quotes, backslashes and
control characters are escaped in them. A whole number with too many digits ends
the writing, and what was written before it stays.
-/

/-- What is written, and what ended the writing if it did not come to its end. -/
structure Written where
  text : String
  failure : Option Failure := none

namespace Written

/-- A text that is written as it is. -/
def whole (text : String) : Written :=
  ⟨text, none⟩

/-- One writing after another; the second one is not begun if the first one fails. -/
def andThen (first second : Written) : Written :=
  match first.failure with
  | some failure => ⟨first.text, some failure⟩
  | none => ⟨first.text ++ second.text, second.failure⟩

end Written

/-- A character inside of double quotes. -/
def escapedCharacter (c : Char) : List Char :=
  if c = '"' then "\\\"".toList
  else if c = '\\' then "\\\\".toList
  else if c = '\n' then "\\n".toList
  else if c = '\r' then "\\r".toList
  else if c = '\t' then "\\t".toList
  else if c = '\x08' then "\\b".toList
  else if c = '\x0c' then "\\f".toList
  else if c.toNat < 32 then "\\u".toList ++ Text.hexDigits 4 c.toNat
  else [c]

/-- A text between double quotes. -/
def escapedText (s : String) : String :=
  String.ofList ('"' :: s.toList.flatMap escapedCharacter ++ ['"'])

/-- The text of a number. -/
def numeral (x : Real64) : String :=
  match x.decode with
  | .undefined => "NaN"
  | .infinite isNegative => if isNegative then "-Infinity" else "Infinity"
  | _ => x.render

/-- A whole number after what leads to it. One with too many digits takes the lead with it. -/
def wholeNumber (lead : String) (n : Int) : Written :=
  if n.natAbs < Text.digitBound then
    .whole (lead ++ toString n)
  else
    ⟨"", some (.badValue (.integer .tooLongToWrite))⟩

/-- The start of a line at a depth. -/
def lineStart (depth : Nat) : String :=
  "\n" ++ String.ofList (List.replicate (2 * depth) ' ')

/-- What stands between two parts of a value, each on a line at a depth. -/
def separator (depth : Nat) : String :=
  "," ++ lineStart depth

mutual

/-- What is written for a value at a depth, after what leads to it. -/
def writtenAt (depth : Nat) (lead : String) : Value → Written
  | null => .whole (lead ++ "null")
  | bool b => .whole (lead ++ if b then "true" else "false")
  | int n => wholeNumber lead n
  | real x => .whole (lead ++ numeral x)
  | list [] | tuple [] | set [] => .whole (lead ++ "[]")
  | list elements | tuple elements | set elements =>
      (Written.whole lead).andThen
        ((writtenElements (depth + 1) ("[" ++ lineStart (depth + 1)) elements).andThen
          (.whole (lineStart depth ++ "]")))
  | mapping [] => .whole (lead ++ "\x7b\x7d")
  | mapping entries =>
      (Written.whole lead).andThen
        ((writtenEntries (depth + 1) ("\x7b" ++ lineStart (depth + 1)) entries).andThen
          (.whole (lineStart depth ++ "\x7d")))
  | text s => .whole (lead ++ escapedText s)
  | bytes content => .whole (lead ++ escapedText (display (bytes content)))
  | date day => .whole (lead ++ escapedText (display (date day)))
  | moment time => .whole (lead ++ escapedText (display (moment time)))

/-- What is written for several values, the first one after what leads to it. -/
def writtenElements (depth : Nat) (lead : String) : List Value → Written
  | [] => .whole ""
  | first :: rest =>
      (writtenAt depth lead first).andThen (writtenElements depth (separator depth) rest)

/-- What is written for several entries, the first one after what leads to it. -/
def writtenEntries (depth : Nat) (lead : String) : List (Value × Value) → Written
  | [] => .whole ""
  | (key, value) :: rest =>
      (Written.whole (lead ++ escapedText key.display ++ ": ")).andThen
        ((writtenAt depth "" value).andThen (writtenEntries depth (separator depth) rest))

end

/-- What is written for a value. -/
def written (value : Value) : Written :=
  value.writtenAt 0 ""

end ProseRules.Value
