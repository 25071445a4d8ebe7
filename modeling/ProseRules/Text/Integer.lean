import ProseRules.Text.Letter
import ProseRules.Text.Quoted

namespace ProseRules.Text

/-!
# Whole numbers in a text

A whole number is written with decimal digits of any script. Single low lines may
stand between digits, a sign before them and blanks around the whole. A number of
more than 4300 digits is refused, be it read or written.
-/

/-- Why a text is not read as a whole number, or a number not written as a text. -/
inductive IntegerFlaw where
  | notANumber (text : String)
  | tooManyDigits (digits : Nat)
  /-- The number has too many digits to be written. -/
  | tooLongToWrite
  deriving Repr, DecidableEq

/-- The most digits of a number that is read or written. -/
def digitLimit : Nat :=
  4300

/-- The least number with more digits than are read or written. -/
def digitBound : Nat :=
  Nat.pow 10 digitLimit

theorem two_lt_digitBound :
    2 < digitBound := by
  decide +kernel

namespace IntegerFlaw

/-- The words for a flaw; a long text is cut. -/
def message : IntegerFlaw → String
  | notANumber text =>
      "invalid literal for int() with base 10: "
        ++ String.ofList ((quoted text).toList.take 200)
  | tooManyDigits digits =>
      "Exceeds the limit (" ++ toString digitLimit
        ++ " digits) for integer string conversion: value has " ++ toString digits
        ++ " digits; use sys.set_int_max_str_digits() to increase the limit"
  | tooLongToWrite =>
      "Exceeds the limit (" ++ toString digitLimit
        ++ " digits) for integer string conversion; "
        ++ "use sys.set_int_max_str_digits() to increase the limit"

end IntegerFlaw

/-- A blank around a number; the information separators are none. -/
def isBlankAroundNumber (c : Char) : Bool :=
  if c.toNat < 128 then isPlainBlank c else isBlank c

/--
The digits at the start of a text and what follows them. `separated` says that a
low line is the last character before; two in a row or one at the end are refused.
-/
def digitRun (separated : Bool) : List Char → Option (List Nat × List Char)
  | [] => if separated then none else some ([], [])
  | c :: rest =>
      if c = '_' then
        if separated then none else digitRun true rest
      else
        match digitValue? c with
        | some digit =>
            (digitRun false rest).map fun (digits, after) => (digit :: digits, after)
        | none => if separated then none else some ([], c :: rest)

/-- The sign of a number and what follows it. -/
def takeSign : List Char → Bool × List Char
  | '-' :: rest => (true, rest)
  | '+' :: rest => (false, rest)
  | rest => (false, rest)

/-- The whole number that the characters write. -/
def readInteger (cs : List Char) : Except IntegerFlaw Int :=
  let refused : Except IntegerFlaw Int := .error (.notANumber (String.ofList cs))
  let (isNegative, unsigned) := takeSign (cs.dropWhile isBlankAroundNumber)
  match digitRun true unsigned with
  | none => refused
  | some (digits, after) =>
      if digits.length > digitLimit then
        .error (.tooManyDigits digits.length)
      else if digits.isEmpty || !after.all isBlankAroundNumber then
        refused
      else
        let magnitude := Int.ofNat (positional 10 digits)
        .ok (if isNegative then -magnitude else magnitude)

end ProseRules.Text
