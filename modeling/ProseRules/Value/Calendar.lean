import ProseRules.Number.Shortest

namespace ProseRules

/-!
# Dates and moments

A date has a year, a month and a day; a moment adds a time of day and, where it
is known, the distance to universal time.
-/

/-- A day of the calendar. -/
structure Date where
  year : Nat
  month : Nat
  day : Nat
  deriving Repr, DecidableEq

/-- A point of time. -/
structure Moment where
  date : Date
  hour : Nat
  minute : Nat
  second : Nat
  microsecond : Nat
  /-- Seconds ahead of universal time, if known. -/
  offset : Option Int
  deriving Repr, DecidableEq

/-- Why numbers make no date or moment. -/
inductive CalendarFlaw where
  | year (given : Nat)
  | month
  | day
  | hour
  | minute
  | second
  /-- The distance to universal time, in seconds, is a day or more. -/
  | offset (seconds : Int)
  deriving Repr, DecidableEq

/-- A whole number in decimal digits with zeros on the left. -/
def padded (width value : Nat) : String :=
  String.ofList (Decimal.paddedDigits width value)

/-- The literal of a span of time in seconds: days and the seconds of the last day. -/
def durationLiteral (seconds : Int) : String :=
  let days := Int.fdiv seconds 86400
  let rest := Int.fmod seconds 86400
  let parts :=
    (if days = 0 then [] else ["days=" ++ toString days])
      ++ (if rest = 0 then [] else ["seconds=" ++ toString rest])
  "datetime.timedelta(" ++ (if parts.isEmpty then "0" else String.intercalate ", " parts) ++ ")"

namespace CalendarFlaw

/-- The words for a flaw. -/
def message : CalendarFlaw → String
  | year given => "year " ++ toString given ++ " is out of range"
  | month => "month must be in 1..12"
  | day => "day is out of range for month"
  | hour => "hour must be in 0..23"
  | minute => "minute must be in 0..59"
  | second => "second must be in 0..59"
  | offset seconds =>
      "offset must be a timedelta strictly between -timedelta(hours=24) and "
        ++ "timedelta(hours=24), not " ++ durationLiteral seconds ++ "."

end CalendarFlaw

namespace Date

/-- The year has a 29th of February. -/
def isLeapYear (year : Nat) : Bool :=
  year % 4 = 0 && (year % 100 ≠ 0 || year % 400 = 0)

/-- The number of days of a month. -/
def daysInMonth (year month : Nat) : Nat :=
  if month = 2 then (if isLeapYear year then 29 else 28)
  else if [4, 6, 9, 11].contains month then 30
  else 31

/-- The date with the given numbers. -/
def ofParts (year month day : Nat) : Except CalendarFlaw Date :=
  if year = 0 || year > 9999 then .error (.year year)
  else if month = 0 || month > 12 then .error .month
  else if day = 0 || day > daysInMonth year month then .error .day
  else .ok ⟨year, month, day⟩

/-- A date as year, month and day between hyphens. -/
def text (date : Date) : String :=
  padded 4 date.year ++ "-" ++ padded 2 date.month ++ "-" ++ padded 2 date.day

/-- The literal of a date. -/
def literal (date : Date) : String :=
  "datetime.date(" ++ toString date.year ++ ", " ++ toString date.month ++ ", "
    ++ toString date.day ++ ")"

/-- An earlier date has a smaller key. -/
def key (date : Date) : List Int :=
  [date.year, date.month, date.day]

end Date

namespace Moment

/-- The moment with the given date and numbers; the distance is in seconds. -/
def ofParts (date : Date) (hour minute second microsecond : Nat) (offset : Option Int) :
    Except CalendarFlaw Moment :=
  if hour > 23 then .error .hour
  else if minute > 59 then .error .minute
  else if second > 59 then .error .second
  else .ok ⟨date, hour, minute, second, microsecond, offset⟩

/-- The distance to universal time as hours and minutes. -/
def offsetText (offset : Int) : String :=
  let minutes := offset.natAbs / 60
  (if offset < 0 then "-" else "+") ++ padded 2 (minutes / 60) ++ ":" ++ padded 2 (minutes % 60)

/-- A moment as date and time with a blank between them. -/
def text (moment : Moment) : String :=
  moment.date.text ++ " " ++ padded 2 moment.hour ++ ":" ++ padded 2 moment.minute ++ ":"
    ++ padded 2 moment.second
    ++ (if moment.microsecond = 0 then "" else "." ++ padded 6 moment.microsecond)
    ++ (moment.offset.map offsetText).getD ""

/-- The literal of a distance to universal time. -/
def offsetLiteral (offset : Int) : String :=
  if offset = 0 then "datetime.timezone.utc"
  else "datetime.timezone(" ++ durationLiteral offset ++ ")"

/-- The literal of a moment; seconds and their fraction are left out where they are zero. -/
def literal (moment : Moment) : String :=
  let tail :=
    if moment.microsecond ≠ 0 then [moment.second, moment.microsecond]
    else if moment.second ≠ 0 then [moment.second]
    else []
  let numbers :=
    [moment.date.year, moment.date.month, moment.date.day, moment.hour, moment.minute] ++ tail
  let zone := (moment.offset.map fun offset => ", tzinfo=" ++ offsetLiteral offset).getD ""
  "datetime.datetime(" ++ String.intercalate ", " (numbers.map toString) ++ zone ++ ")"

/-- An earlier moment of the same zone has a smaller key. -/
def key (moment : Moment) : List Int :=
  moment.date.key
    ++ [moment.hour, moment.minute, moment.second, moment.microsecond].map Int.ofNat
    ++ [-(moment.offset.getD 0)]

end Moment

end ProseRules
