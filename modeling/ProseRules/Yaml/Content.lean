import ProseRules.Failure
import ProseRules.Text.Base64
import ProseRules.Yaml.Place
import ProseRules.Yaml.Tag

namespace ProseRules.Yaml

/-!
# Values of scalars

A scalar has the form that its tag asks for, or no value. Low lines in numbers do
not count, and numbers with colons are read to the base of 60.
-/

/-- A failure for a refused value. -/
def refuse {α : Type} (flaw : ValueFlaw) : Except ReadFlaw α :=
  .error (.failed (.badValue flaw))

/-- A sign and the characters after it; no characters at all have no sign to look at. -/
def signed (cs : List Char) : Except ReadFlaw (Bool × List Char) :=
  match cs with
  | [] => .error (.failed .outOfRange)
  | '-' :: rest => .ok (true, rest)
  | '+' :: rest => .ok (false, rest)
  | rest => .ok (false, rest)

/-- The digits of a number without the mark of its base. -/
def withoutBaseMark (base : Nat) (cs : List Char) : List Char :=
  let marks := if base = 2 then ['b', 'B'] else if base = 8 then ['o', 'O'] else ['x', 'X']
  match cs with
  | '0' :: mark :: rest => if marks.contains mark then rest else cs
  | _ => cs

/-- The whole number written with digits to a base, perhaps with a sign and the mark of the base. -/
def basedNumber (base : Nat) (cs : List Char) : Except ReadFlaw Int :=
  let (isNegative, unsigned) := Text.takeSign (Text.dropBlanksAround cs)
  let body := withoutBaseMark base unsigned
  let digits := body.filterMap Text.hexValue?
  if body.isEmpty || digits.length ≠ body.length || digits.any (· ≥ base) then
    refuse (.based base (String.ofList cs))
  else
    .ok (Real64.signed isNegative (Text.positional base digits))

/-- The whole number written in the usual way. -/
def usualNumber (cs : List Char) : Except ReadFlaw Int :=
  match Text.readInteger cs with
  | .ok value => .ok value
  | .error flaw => refuse (.integer flaw)

/-- The number whose digits to the base of 60 are given. -/
def sixtieths (digits : List Int) : Int :=
  digits.foldl (fun value digit => value * 60 + digit) 0

/-- The magnitude of a whole number. -/
def intMagnitude (cs : List Char) : Except ReadFlaw Int :=
  match cs with
  | [] => .error (.failed .outOfRange)
  | ['0'] => .ok 0
  | '0' :: 'b' :: rest => basedNumber 2 rest
  | '0' :: 'x' :: rest => basedNumber 16 rest
  | '0' :: _ => basedNumber 8 cs
  | _ =>
      if cs.contains ':' then
        ((cutAtColons cs).mapM usualNumber).map sixtieths
      else
        usualNumber cs

/-- The whole number of a scalar. -/
def intOf (content : String) : Except ReadFlaw Int := do
  let (isNegative, rest) ← signed (content.toList.filter (· ≠ '_'))
  let magnitude ← intMagnitude rest
  return if isNegative then -magnitude else magnitude

/-- Digits, a point, digits and an exponent, where the point or the exponent may be missing. -/
def decimalOf? (cs : List Char) : Option Real64 :=
  let (isNegative, body) := Text.takeSign cs
  let value := fun (cs : List Char) => Text.positional 10 (cs.filterMap Text.digitValue?)
  let whole := body.takeWhile Text.isDigit
  let rest := body.dropWhile Text.isDigit
  let (fraction, rest) :=
    match rest with
    | '.' :: rest => (rest.takeWhile Text.isDigit, rest.dropWhile Text.isDigit)
    | _ => ([], rest)
  let exponent : Option Int :=
    match rest with
    | [] => some 0
    | e :: rest =>
        let (isNegative, digits) := Text.takeSign rest
        if (e = 'e' || e = 'E') && isSomeOf Text.isDigit digits then
          some (Real64.signed isNegative (value digits))
        else
          none
  if whole.isEmpty && fraction.isEmpty then
    none
  else
    exponent.map fun exponent =>
      Real64.ofDecimal isNegative (value (whole ++ fraction)) (exponent - fraction.length)

/-- The number with a point that a text without capitals writes. -/
def realText (cs : List Char) : Except ReadFlaw Real64 :=
  let trimmed := Text.dropBlanksAround cs
  let (isNegative, body) := Text.takeSign trimmed
  match String.ofList body with
  | "inf" | "infinity" => .ok (Real64.infinity isNegative)
  | "nan" => .ok Real64.undefined
  | _ =>
      match decimalOf? trimmed with
      | some x => .ok x
      | none => refuse (.realText (String.ofList cs))

/-- The sum of digits times powers of 60, from the last digit on. -/
def realSixtieths (digits : List Real64) : Real64 :=
  (digits.reverse.foldl
    (fun (state : Real64 × Int) digit =>
      (state.1.add (digit.mul (Real64.ofInt state.2)), state.2 * 60))
    (Real64.zero, 1)).1

/-- The number with a point of a scalar. -/
def realOf (content : String) : Except ReadFlaw Real64 := do
  let cs := (Text.lower content).toList.filter (· ≠ '_')
  let (isNegative, rest) ← signed cs
  let magnitude ←
    match String.ofList rest with
    | ".inf" => pure (Real64.infinity false)
    | ".nan" => pure Real64.undefined
    | _ =>
        if rest.contains ':' then ((cutAtColons rest).mapM realText).map realSixtieths
        else realText rest
  return if isNegative then magnitude.negate else magnitude

/-- The truth value of a scalar. -/
def boolOf (content : String) : Except ReadFlaw Bool :=
  match Text.lower content with
  | "yes" | "true" | "on" => .ok true
  | "no" | "false" | "off" => .ok false
  | _ => .error (.failed .noKey)

/-- The bytes of a scalar. -/
def bytesOf (content : String) : Except ReadFlaw (List UInt8) :=
  let cs := content.toList
  if cs.all (·.toNat < 128) then
    match Text.decodeBase64 cs with
    | some bytes => .ok bytes
    | none => .error .malformed
  else
    .error .malformed

/-- A failure for numbers that make no point of time. -/
def onCalendar {α : Type} : Except CalendarFlaw α → Except ReadFlaw α
  | .ok value => .ok value
  | .error flaw => refuse (.calendar flaw)

/-- The number of decimal digits; no digits make zero. -/
def digitsValue (digits : List Char) : Nat :=
  Text.positional 10 (digits.filterMap Text.digitValue?)

/-- The seconds that a time zone is ahead of universal time. -/
def zoneOffset : ZoneParts → Except ReadFlaw (Option Int)
  | .unknown => .ok none
  | .universal => .ok (some 0)
  | .distance isNegative hours minutes =>
      let seconds := Real64.signed isNegative (digitsValue hours * 3600 + digitsValue minutes * 60)
      if seconds.natAbs ≥ 86400 then refuse (.calendar (.offset seconds)) else .ok (some seconds)

/-- The millionths of a second of a fraction; further digits are cut off. -/
def microseconds (fraction : List Char) : Nat :=
  let digits := fraction.take 6
  digitsValue (digits ++ List.replicate (6 - digits.length) '0')

/-- The point of time of a scalar. -/
def timeOf (content : String) : Except ReadFlaw Value :=
  match timeParts content.toList with
  | none => .error (.failed .noMember)
  | some parts => do
      let date := Date.ofParts (digitsValue parts.year) (digitsValue parts.month)
        (digitsValue parts.day)
      match parts.clock with
      | none => return .date (← onCalendar date)
      | some clock => do
          let offset ← zoneOffset clock.zone
          let date ← onCalendar date
          let moment ← onCalendar (Moment.ofParts date (digitsValue clock.hour)
            (digitsValue clock.minute) (digitsValue clock.second) (microseconds clock.fraction)
            offset)
          return .moment moment

end ProseRules.Yaml
