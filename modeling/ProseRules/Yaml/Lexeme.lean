import ProseRules.Yaml.Place

namespace ProseRules.Yaml

/-!
# Lexemes of a document

Marks, names and scalars are read here, each from the place where it begins to the
place after it.
-/

/-- A line that says how the document is to be read. -/
inductive Directive where
  | version (major minor : Nat)
  | tagHandle (handle address : String)
  | other
  deriving Repr, DecidableEq

/-- A lexeme of a document. -/
inductive Lexeme where
  | directive (directive : Directive)
  | documentStart
  | documentEnd
  | streamEnd
  | blockSequenceStart
  | blockMappingStart
  | blockEnd
  | flowSequenceStart
  | flowSequenceEnd
  | flowMappingStart
  | flowMappingEnd
  | blockEntry
  | flowEntry
  | key
  | value
  | reference (name : String)
  | anchor (name : String)
  | tag (handle : Option String) (address : String)
  /-- A scalar; a plain one is written without quotes. -/
  | scalar (content : String) (plain : Bool)
  deriving Repr, DecidableEq

/-! ## Names and addresses -/

/-- The name of an anchor or reference after its sign. -/
def readName (place : Place) : Except ReadFlaw (String × Place) :=
  let (name, after) := place.next.takeWhile isNameCharacter
  if name.isEmpty || !(isSpacing after.peek || "?:,]\x7d%@\u0060".toList.contains after.peek) then
    .error .malformed
  else
    .ok (String.ofList name, after)

/-- The bytes of percent signs with two hexadecimal digits each. -/
def readEscapedBytes (place : Place) : (limit : Nat) → Except ReadFlaw ((List UInt8) × Place)
  | 0 => .ok ([], place)
  | limit + 1 =>
      if place.peek = '%' then
        match Text.hexValue? (place.peekAt 1), Text.hexValue? (place.peekAt 2) with
        | some high, some low => do
            let (bytes, after) ← readEscapedBytes (place.skip 3) limit
            return (UInt8.ofNat (16 * high + low) :: bytes, after)
        | _, _ => .error .malformed
      else
        .ok ([], place)

/-- The text that bytes encode. -/
def decodeBytes (bytes : List UInt8) : Except ReadFlaw (List Char) :=
  match String.fromUTF8? (ByteArray.mk bytes.toArray) with
  | some text => .ok text.toList
  | none => .error .malformed

/-- The characters of an address. -/
def readAddressFrom (place : Place) : (limit : Nat) → Except ReadFlaw ((List Char) × Place)
  | 0 => .ok ([], place)
  | limit + 1 =>
      if place.peek = '%' then do
        let (bytes, after) ← readEscapedBytes place place.rest.length
        let decoded ← decodeBytes bytes
        let (more, after) ← readAddressFrom after limit
        return (decoded ++ more, after)
      else if isAddressCharacter place.peek then do
        let (more, after) ← readAddressFrom place.next limit
        return (place.peek :: more, after)
      else
        .ok ([], place)

/-- An address of at least one character. -/
def readAddress (place : Place) : Except ReadFlaw (String × Place) := do
  if !isAddressCharacter place.peek then
    throw .malformed
  let (address, after) ← readAddressFrom place place.rest.length
  return (String.ofList address, after)

/-- The handle of a tag: an exclamation mark, alone or with a name and another one. -/
def readHandle (place : Place) : Except ReadFlaw (String × Place) :=
  if place.peek ≠ '!' then
    .error .malformed
  else if place.peekAt 1 = ' ' then
    .ok ("!", place.next)
  else
    let (name, after) := place.next.takeWhile isNameCharacter
    if after.peek = '!' then
      .ok (String.ofList ('!' :: name ++ ['!']), after.next)
    else
      .error .malformed

/-- A tag names its handle: another exclamation mark comes before a gap. -/
def tagHasHandle (place : Place) : Bool :=
  (place.rest.drop 1).takeWhile (!isGap ·) |>.contains '!'

/-- A tag. -/
def readTag (place : Place) : Except ReadFlaw (Lexeme × Place) := do
  let (tag, after) ←
    if place.peekAt 1 = '<' then do
      let (address, after) ← readAddress (place.skip 2)
      if after.peek ≠ '>' then
        throw .malformed
      pure (Lexeme.tag none address, after.next)
    else if isSpacing (place.peekAt 1) then
      pure (Lexeme.tag none "!", place.next)
    else if tagHasHandle place then do
      let (handle, after) ← readHandle place
      let (address, after) ← readAddress after
      pure (Lexeme.tag (some handle) address, after)
    else do
      let (address, after) ← readAddress place.next
      pure (Lexeme.tag (some "!") address, after)
  if isGap after.peek then return (tag, after) else throw .malformed

/-! ## Directives -/

/-- A number of a directive. -/
def readNumber (place : Place) : Except ReadFlaw (Nat × Place) :=
  let (digits, after) := place.takeWhile Text.isPlainDigit
  if digits.isEmpty then .error .malformed
  else .ok (Text.positional 10 (digits.filterMap Text.digitValue?), after)

/-- The version after the name of its directive. -/
def readVersion (place : Place) : Except ReadFlaw (Directive × Place) := do
  let (major, after) ← readNumber (place.dropWhile (· = ' '))
  if after.peek ≠ '.' then
    throw .malformed
  let (minor, after) ← readNumber after.next
  if isGap after.peek then return (.version major minor, after) else throw .malformed

/-- The handle and address after the name of their directive. -/
def readTagHandle (place : Place) : Except ReadFlaw (Directive × Place) := do
  let (handle, after) ← readHandle (place.dropWhile (· = ' '))
  if after.peek ≠ ' ' then
    throw .malformed
  let (address, after) ← readAddress (after.dropWhile (· = ' '))
  if isGap after.peek then return (.tagHandle handle address, after) else throw .malformed

/-- A directive with the rest of its line. -/
def readDirective (place : Place) : Except ReadFlaw (Lexeme × Place) := do
  let (name, after) := place.next.takeWhile isNameCharacter
  if name.isEmpty || !isGap after.peek then
    throw .malformed
  let (directive, after) ←
    match String.ofList name with
    | "YAML" => readVersion after
    | "TAG" => readTagHandle after
    | _ => pure (.other, after.dropWhile (!endsLine ·))
  let after ← after.endOfLine
  return (.directive directive, after)

/-! ## Scalars in quotes -/

/-- The characters of escape letters between double quotes. -/
def escapedCharacters : List (Char × Char) :=
  [('0', '\x00'), ('a', '\x07'), ('b', '\x08'), ('t', '\t'), ('\t', '\t'), ('n', '\n'),
    ('v', '\x0b'), ('f', '\x0c'), ('r', '\r'), ('e', '\x1b'), (' ', ' '), ('"', '"'),
    ('\\', '\\'), ('/', '/'), ('N', '\u0085'), ('_', '\u00a0'), ('L', '\u2028'),
    ('P', '\u2029')]

/-- The number of digits of an escape by code. -/
def codeDigits? : Char → Option Nat
  | 'x' => some 2
  | 'u' => some 4
  | 'U' => some 8
  | _ => none

/-- The character of a code, which has to be one. -/
def characterOf (code : Nat) : Except ReadFlaw Char :=
  if code > 0x7FFFFFFF then .error (.failed .tooLarge)
  else if code > 0x10FFFF then .error (.failed (.badValue .codePoint))
  else if 0xD800 ≤ code && code ≤ 0xDFFF then .error (.failed .surrogate)
  else .ok (Char.ofNat code)

/-- Breaks inside a quoted scalar; the mark of a document may not stand there. -/
def readQuotedBreaks (place : Place) : (limit : Nat) → Except ReadFlaw ((List Char) × Place)
  | 0 => .ok ([], place)
  | limit + 1 =>
      if place.hasDocumentMark then
        .error .malformed
      else
        let place := place.dropWhile fun c => c = ' ' || c = '\t'
        if endsLine place.peek then do
          let (lineBreak, after) := place.lineBreak
          let (more, after) ← readQuotedBreaks after limit
          return (lineBreak ++ more, after)
        else
          .ok ([], place)

/-- Blanks and breaks inside a quoted scalar: a single break counts as a blank. -/
def readQuotedSpaces (place : Place) : Except ReadFlaw ((List Char) × Place) :=
  let (blanks, after) := place.takeWhile fun c => c = ' ' || c = '\t'
  if after.rest.isEmpty then
    .error .malformed
  else if endsLine after.peek then do
    let (lineBreak, after) := after.lineBreak
    let (breaks, after) ← readQuotedBreaks after after.rest.length
    if lineBreak ≠ ['\n'] then return (lineBreak ++ breaks, after)
    else if breaks.isEmpty then return ([' '], after)
    else return (breaks, after)
  else
    .ok (blanks, after)

/-- An escape between double quotes, after the backslash. -/
def readEscape (place : Place) : Except ReadFlaw ((List Char) × Place) :=
  let c := place.peek
  match (if place.rest.isEmpty then none else escapedCharacters.lookup c), codeDigits? c with
  | some escaped, _ => .ok ([escaped], place.next)
  | none, some count =>
      let digits := (place.rest.drop 1).take count
      if digits.length = count && digits.all fun d => (Text.hexValue? d).isSome then do
        let escaped ← characterOf (Text.positional 16 (digits.filterMap Text.hexValue?))
        return ([escaped], place.skip (count + 1))
      else
        .error .malformed
  | none, none =>
      if endsLine c then
        let (_, after) := place.lineBreak
        readQuotedBreaks after after.rest.length
      else
        .error .malformed

/-- The content of a quoted scalar up to its closing quote. -/
def readQuotedFrom (double : Bool) (place : Place) :
    (limit : Nat) → Except ReadFlaw ((List Char) × Place)
  | 0 => .error .malformed
  | limit + 1 =>
      let c := place.peek
      if place.rest.isEmpty then
        .error .malformed
      else if !double && c = '\'' && place.peekAt 1 = '\'' then do
        let (more, after) ← readQuotedFrom double (place.skip 2) limit
        return ('\'' :: more, after)
      else if c = (if double then '"' else '\'') then
        .ok ([], place.next)
      else if double && c = '\\' then do
        let (escaped, after) ← readEscape place.next
        let (more, after) ← readQuotedFrom double after limit
        return (escaped ++ more, after)
      else if isSpacing c then do
        let (spaces, after) ← readQuotedSpaces place
        let (more, after) ← readQuotedFrom double after limit
        return (spaces ++ more, after)
      else do
        let (more, after) ← readQuotedFrom double place.next limit
        return (c :: more, after)

/-- A quoted scalar from its opening quote on. -/
def readQuoted (double : Bool) (place : Place) : Except ReadFlaw (Lexeme × Place) := do
  let (content, after) ← readQuotedFrom double place.next (place.rest.length + 1)
  return (.scalar (String.ofList content) false, after)

/-! ## Scalars of a block -/

/-- What happens to the breaks at the end of a block scalar. -/
inductive Chomping where
  | clip
  | strip
  | keep
  deriving Repr, DecidableEq

/-- The sign of chomping at a place, if there is one. -/
def chomping? : Char → Option Chomping
  | '+' => some .keep
  | '-' => some .strip
  | _ => none

/-- An indentation given by a digit, which may not be zero. -/
def readIncrement (place : Place) : Except ReadFlaw ((Option Nat) × Place) :=
  match (if Text.isPlainDigit place.peek then Text.digitValue? place.peek else none) with
  | none => .ok (none, place)
  | some 0 => .error .malformed
  | some increment => .ok (some increment, place.next)

/-- The signs after the indicator of a block scalar. -/
def readBlockHeader (place : Place) : Except ReadFlaw ((Chomping × Option Nat) × Place) := do
  let (chomping, increment, after) ←
    match chomping? place.peek with
    | some chomping => do
        let (increment, after) ← readIncrement place.next
        pure (chomping, increment, after)
    | none => do
        let (increment, after) ← readIncrement place
        match increment.bind fun _ => chomping? after.peek with
        | some chomping => pure (chomping, increment, after.next)
        | none => pure (Chomping.clip, increment, after)
  if isGap after.peek then
    let after ← after.endOfLine
    return ((chomping, increment), after)
  else
    throw .malformed

/-- Leading empty lines of a block scalar, and the widest indent among them. -/
def readIndentation (place : Place) (widest : Nat) (breaks : List Char) :
    (limit : Nat) → List Char × Nat × Place
  | 0 => (breaks, widest, place)
  | limit + 1 =>
      if endsLine place.peek then
        let (lineBreak, after) := place.lineBreak
        readIndentation after widest (breaks ++ lineBreak) limit
      else if place.peek = ' ' then
        readIndentation place.next (max widest place.next.column) breaks limit
      else
        (breaks, widest, place)

/-- The place after the indent of a line, as far as it goes. -/
def skipIndent (indent : Nat) (place : Place) : Place :=
  place.skip ((place.rest.take (indent - place.column)).takeWhile (· = ' ')).length

/-- Empty lines of a block scalar and the indent of the line after them. -/
def readBlockBreaks (indent : Nat) (place : Place) : (limit : Nat) → List Char × Place
  | 0 => ([], place)
  | limit + 1 =>
      let place := skipIndent indent place
      if endsLine place.peek then
        let (lineBreak, after) := place.lineBreak
        let (more, after) := readBlockBreaks indent after limit
        (lineBreak ++ more, after)
      else
        ([], place)

/-- The next line still belongs to a block scalar. -/
def goesOn (indent : Nat) (place : Place) : Bool :=
  place.column = indent && !place.rest.isEmpty

/--
The lines of a block scalar. `breaks` are the empty lines before the current one;
the answer ends with the last line break and the empty lines after it.
-/
def readBlockLines (folded : Bool) (indent : Nat) (breaks : List Char) (place : Place) :
    (limit : Nat) → List Char × List Char × List Char × Place
  | 0 => ([], [], breaks, place)
  | limit + 1 =>
      let isBlankOrTab := fun (c : Char) => c = ' ' || c = '\t'
      let startsWithText := !isBlankOrTab place.peek
      let (line, after) := place.takeWhile (!endsLine ·)
      let (lineBreak, after) := after.lineBreak
      let (nextBreaks, after) := readBlockBreaks indent after after.rest.length
      if goesOn indent after then
        let joint :=
          if folded && lineBreak = ['\n'] && startsWithText && !isBlankOrTab after.peek then
            if nextBreaks.isEmpty then [' '] else []
          else
            lineBreak
        let (more, lastBreak, lastBreaks, after) :=
          readBlockLines folded indent nextBreaks after limit
        (breaks ++ line ++ joint ++ more, lastBreak, lastBreaks, after)
      else
        (breaks ++ line, lineBreak, nextBreaks, after)

/-- A block scalar from its indicator on; `outer` is the indent of what it stands in. -/
def readBlock (folded : Bool) (outer : Int) (place : Place) :
    Except ReadFlaw (Lexeme × Place) := do
  let ((chomping, increment), after) ← readBlockHeader place.next
  let least := (max (outer + 1) 1).toNat
  let (breaks, indent, after) :=
    match increment with
    | none =>
        let (breaks, widest, after) := readIndentation after 0 [] after.rest.length
        (breaks, max least widest, after)
    | some increment =>
        let indent := least + increment - 1
        let (breaks, after) := readBlockBreaks indent after after.rest.length
        (breaks, indent, after)
  let (content, lastBreak, lastBreaks, after) :=
    if goesOn indent after then readBlockLines folded indent breaks after (after.rest.length + 1)
    else ([], [], breaks, after)
  let ending :=
    match chomping with
    | .strip => []
    | .clip => lastBreak
    | .keep => lastBreak ++ lastBreaks
  return (.scalar (String.ofList (content ++ ending)) false, after)

/-! ## Plain scalars -/

/-- The characters that end a plain scalar inside of brackets. -/
def flowIndicators : List Char :=
  ",?[]\x7b\x7d".toList

/-- A plain scalar ends before a character that is followed by another one. -/
def endsPlain (inFlow : Bool) (c next : Char) : Bool :=
  isSpacing c
    || (c = ':' && (isSpacing next || (inFlow && ",[]\x7b\x7d".toList.contains next)))
    || (inFlow && flowIndicators.contains c)

/-- The characters of a plain scalar up to spacing or its end. -/
def plainWord (inFlow : Bool) : List Char → List Char
  | [] => []
  | c :: rest => if endsPlain inFlow c (rest.headD '\x00') then [] else c :: plainWord inFlow rest

/-- Empty lines inside a plain scalar; none if the mark of a document stands there. -/
def readPlainBreaks (place : Place) : (limit : Nat) → Option (List Char) × Place
  | 0 => (some [], place)
  | limit + 1 =>
      if place.peek = ' ' then
        readPlainBreaks place.next limit
      else if endsLine place.peek then
        let (lineBreak, after) := place.lineBreak
        if after.hasDocumentMark then
          (none, after)
        else
          let (more, after) := readPlainBreaks after limit
          (more.map (lineBreak ++ ·), after)
      else
        (some [], place)

/--
The spaces after a word of a plain scalar as they count between two words, and
whether a line ended. Nothing counts where the scalar cannot go on.
-/
def readPlainSpaces (place : Place) : List Char × Bool × Place :=
  let (blanks, after) := place.takeWhile (· = ' ')
  if endsLine after.peek then
    let (lineBreak, after) := after.lineBreak
    if after.hasDocumentMark then
      ([], true, after)
    else
      match readPlainBreaks after after.rest.length with
      | (none, after) => ([], true, after)
      | (some breaks, after) =>
          if lineBreak ≠ ['\n'] then (lineBreak ++ breaks, true, after)
          else if breaks.isEmpty then ([' '], true, after)
          else (breaks, true, after)
  else
    (blanks, false, after)

/--
The words of a plain scalar. `lineEnded` says whether a line ended after the last
word.
-/
def readPlainFrom (inFlow : Bool) (indent : Int) (spaces : List Char) (lineEnded : Bool)
    (place : Place) : (limit : Nat) → List Char × Bool × Place
  | 0 => ([], lineEnded, place)
  | limit + 1 =>
      let word := if place.peek = '#' then [] else plainWord inFlow place.rest
      if word.isEmpty then
        ([], lineEnded, place)
      else
        let (nextSpaces, ended, after) := readPlainSpaces (place.skip word.length)
        if nextSpaces.isEmpty || after.peek = '#' || (!inFlow && after.column < indent) then
          (spaces ++ word, ended, after)
        else
          let (more, ended, after) :=
            readPlainFrom inFlow indent nextSpaces ended after limit
          (spaces ++ word ++ more, ended, after)

/-- A plain scalar, and whether a line ended after it. -/
def readPlain (inFlow : Bool) (outer : Int) (place : Place) : Lexeme × Bool × Place :=
  let (content, lineEnded, after) :=
    readPlainFrom inFlow (outer + 1) [] false place (place.rest.length + 1)
  (.scalar (String.ofList content) true, lineEnded, after)

end ProseRules.Yaml
