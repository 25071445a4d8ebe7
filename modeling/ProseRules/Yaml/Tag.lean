import ProseRules.Text.Letter

namespace ProseRules.Yaml

/-!
# Tags

Every node of a document has a tag that says what it stands for. A plain scalar
without a tag gets one by its form: the forms of truth values, numbers, points of
time, null and the two special keys are told from ordinary texts here.
-/

/-- What a node stands for. -/
inductive Tag where
  | null
  | bool
  | int
  | float
  | binary
  | timestamp
  | orderedMap
  | pairs
  | set
  | text
  | sequence
  | mapping
  /-- The key whose value is merged into a mapping. -/
  | merge
  /-- The key of the default value of a mapping. -/
  | value
  | other (name : String)
  deriving Repr, DecidableEq

namespace Tag

/-- What the names of the known tags begin with. -/
def namespaceName : String :=
  "tag:yaml.org,2002:"

/-- The known tags by the ends of their names. -/
def known : List (String × Tag) :=
  [("null", null), ("bool", bool), ("int", int), ("float", float), ("binary", binary),
    ("timestamp", timestamp), ("omap", orderedMap), ("pairs", pairs), ("set", set), ("str", text),
    ("seq", sequence), ("map", mapping), ("merge", merge), ("value", value)]

/-- The tag with a name. -/
def ofName (name : String) : Tag :=
  ((known.find? fun entry => namespaceName ++ entry.1 = name).map (·.2)).getD (other name)

end Tag

/-! ## Forms of plain scalars -/

/-- A digit or a low line. -/
def isSpacedDigit (c : Char) : Bool :=
  Text.isPlainDigit c || c = '_'

/-- The characters after a sign, if there is one. -/
def afterSign : List Char → List Char
  | '-' :: rest => rest
  | '+' :: rest => rest
  | rest => rest

/-- The characters consist of at least one of a class. -/
def isSomeOf (inClass : Char → Bool) (cs : List Char) : Bool :=
  !cs.isEmpty && cs.all inClass

/-- The characters cut at each colon. -/
def cutAtColons (cs : List Char) : List (List Char) :=
  cs.splitOn ':'

/-- Minutes or seconds: one digit, or two up to 59. -/
def isSixtieth : List Char → Bool
  | [c] => Text.isPlainDigit c
  | [c, d] => '0' ≤ c && c ≤ '5' && Text.isPlainDigit d
  | _ => false

/-- A digit, then digits and low lines. -/
def isSpacedNumber : List Char → Bool
  | [] => false
  | c :: rest => Text.isPlainDigit c && rest.all isSpacedDigit

/-- A number that does not begin with zero. -/
def isLeadingNumber (cs : List Char) : Bool :=
  cs.head? ≠ some '0' && isSpacedNumber cs

/-- The form of a whole number: to the base of 2, 8, 10, 16 or 60. -/
def isIntForm (cs : List Char) : Bool :=
  let body := afterSign cs
  match body with
  | ['0'] => true
  | '0' :: 'b' :: rest => isSomeOf (fun c => c = '0' || c = '1' || c = '_') rest
  | '0' :: 'x' :: rest => isSomeOf (fun c => (Text.hexValue? c).isSome || c = '_') rest
  | '0' :: rest => isSomeOf (fun c => ('0' ≤ c && c ≤ '7') || c = '_') rest
  | _ =>
      match cutAtColons body with
      | [] => false
      | first :: rest => isLeadingNumber first && rest.all isSixtieth

/-- An exponent with its sign, or nothing. -/
def isExponentOrNothing : List Char → Bool
  | [] => true
  | [_] => false
  | e :: sign :: digits =>
      (e = 'e' || e = 'E') && (sign = '-' || sign = '+') && isSomeOf Text.isPlainDigit digits

/-- The form of a number with a point or to the base of 60 with a point. -/
def isFloatForm (cs : List Char) : Bool :=
  let body := afterSign cs
  let whole := body.takeWhile (· ≠ '.')
  match body.dropWhile (· ≠ '.') with
  | [] => false
  | _ :: fraction =>
      let decimals := fraction.takeWhile isSpacedDigit
      let exponent := fraction.dropWhile isSpacedDigit
      if whole.isEmpty then
        let word := String.ofList fraction
        (["inf", "Inf", "INF"].contains word)
          || (body = cs
            && ((["nan", "NaN", "NAN"].contains word)
              || (isSpacedNumber decimals && isExponentOrNothing exponent)))
      else
        match cutAtColons whole with
        | [number] => isSpacedNumber number && isExponentOrNothing exponent
        | number :: sixtieths =>
            isSpacedNumber number && sixtieths.all isSixtieth && exponent.isEmpty
        | [] => false

/-- At least `least` and at most two digits at the start, and what follows. -/
def oneOrTwoDigits (least : Nat) (cs : List Char) : Option (List Char × List Char) :=
  let digits := (cs.take 2).takeWhile Text.isPlainDigit
  if digits.length < least then none else some (digits, cs.drop digits.length)

/-- Exactly `count` digits at the start, and what follows. -/
def exactDigits (count : Nat) (cs : List Char) : Option (List Char × List Char) :=
  let digits := (cs.take count).takeWhile Text.isPlainDigit
  if digits.length = count then some (digits, cs.drop count) else none

/-- A given character at the start, and what follows. -/
def afterChar (c : Char) : List Char → Option (List Char)
  | d :: rest => if c = d then some rest else none
  | [] => none

/-- A blank or tab. -/
def isBlankOrTab (c : Char) : Bool :=
  c = ' ' || c = '\t'

/-- The parts of a time zone. -/
inductive ZoneParts where
  | unknown
  | universal
  | distance (negative : Bool) (hours minutes : List Char)
  deriving Repr, DecidableEq

/-- The digits of a time of day. -/
structure ClockParts where
  hour : List Char
  minute : List Char
  second : List Char
  fraction : List Char
  zone : ZoneParts
  deriving Repr, DecidableEq

/-- The digits of a point of time. -/
structure TimeParts where
  year : List Char
  month : List Char
  day : List Char
  clock : Option ClockParts
  deriving Repr, DecidableEq

/-- The time zone that ends a point of time. -/
def zoneParts (cs : List Char) : Option ZoneParts :=
  match cs.dropWhile isBlankOrTab with
  | [] => if cs.isEmpty then some .unknown else none
  | ['Z'] => some .universal
  | sign :: rest => do
      if sign ≠ '-' && sign ≠ '+' then none
      let (hours, rest) ← oneOrTwoDigits 1 rest
      match rest with
      | [] => return .distance (sign = '-') hours []
      | _ =>
          let (minutes, rest) ← (afterChar ':' rest).bind (exactDigits 2)
          if rest.isEmpty then return .distance (sign = '-') hours minutes else none

/-- The time of day that follows a date. -/
def clockParts (cs : List Char) : Option ClockParts := do
  let rest ←
    match cs with
    | 'T' :: rest => some rest
    | 't' :: rest => some rest
    | c :: rest => if isBlankOrTab c then some (rest.dropWhile isBlankOrTab) else none
    | [] => none
  let (hour, rest) ← oneOrTwoDigits 1 rest
  let (minute, rest) ← (afterChar ':' rest).bind (exactDigits 2)
  let (second, rest) ← (afterChar ':' rest).bind (exactDigits 2)
  let (fraction, rest) :=
    match rest with
    | '.' :: rest => (rest.takeWhile Text.isPlainDigit, rest.dropWhile Text.isPlainDigit)
    | _ => ([], rest)
  let zone ← zoneParts rest
  return ⟨hour, minute, second, fraction, zone⟩

/-- The parts of a point of time: a date, alone or with a time of day. -/
def timeParts (cs : List Char) : Option TimeParts := do
  let (year, rest) ← exactDigits 4 cs
  let (month, rest) ← (afterChar '-' rest).bind (oneOrTwoDigits 1)
  let (day, rest) ← (afterChar '-' rest).bind (oneOrTwoDigits 1)
  if rest.isEmpty then
    return ⟨year, month, day, none⟩
  else
    return ⟨year, month, day, some (← clockParts rest)⟩

/-- The form of a point of time; a date alone has two digits for month and day. -/
def isTimestampForm (cs : List Char) : Bool :=
  match timeParts cs with
  | none => false
  | some parts => parts.clock.isSome || (parts.month.length = 2 && parts.day.length = 2)

/-- The words for truth values. -/
def boolWords : List String :=
  ["yes", "Yes", "YES", "no", "No", "NO", "true", "True", "TRUE", "false", "False", "FALSE",
    "on", "On", "ON", "off", "Off", "OFF"]

/-- The tag of a plain scalar by its form. -/
def Tag.ofPlain (content : String) : Tag :=
  let cs := content.toList
  if boolWords.contains content then .bool
  else if isFloatForm cs then .float
  else if isIntForm cs then .int
  else if content = "<<" then .merge
  else if ["", "~", "null", "Null", "NULL"].contains content then .null
  else if isTimestampForm cs then .timestamp
  else if content = "=" then .value
  else if ["!", "&", "*"].contains content then .ofName (Tag.namespaceName ++ "yaml")
  else .text

end ProseRules.Yaml
