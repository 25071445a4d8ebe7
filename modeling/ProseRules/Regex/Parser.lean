import ProseRules.Regex.Reading
import ProseRules.Text.CharacterName
import ProseRules.Text.Integer

namespace ProseRules.Regex

/-!
# From the source of an expression to its tree

The grammar is read from left to right by recursive descent. The steps that
nest take a bound on their depth, which `Expression.ofSource` computes from the
length of the source.
-/

/-- What an escape stands for. -/
inductive Escape where
  | single (code : Nat)
  | kind (characterClass : CharacterClass) (negated : Bool)
  | wordBoundary (negated : Bool)
  | textStart
  | textEnd
  | reference (group : Nat)
  deriving Repr, DecidableEq

/-- What a part of a sequence is, as far as a repetition after it cares. -/
inductive Role where
  | anchor
  | loop
  | other
  deriving Repr, DecidableEq

/-- One part of a sequence with its width. -/
structure Piece where
  tree : Tree
  width : Width
  role : Role := .other
  deriving Repr, DecidableEq

namespace Parser

/-- The largest group number is below this bound. -/
def groupCeiling : Nat :=
  1073741823

/-- A bound of a repetition is below this number. -/
def boundCeiling : Nat :=
  4294967295

/-- The largest code point. -/
def lastCode : Nat :=
  0x10FFFF

/-- A digit to the base of 8. -/
def isOctalDigit (c : Char) : Bool :=
  '0' ≤ c && c ≤ '7'

/-- A digit to the base of 16. -/
def isHexDigit (c : Char) : Bool :=
  (Text.hexValue? c).isSome

/-- The number written by digits to a base. -/
def numeral (base : Nat) (digits : List Char) : Nat :=
  Text.positional base (digits.map fun c => (Text.hexValue? c).getD 0)

/-- The control character of an escape letter. -/
def controlCode? : Char → Option Nat
  | 'a' => some 7
  | 'f' => some 12
  | 'n' => some 10
  | 'r' => some 13
  | 't' => some 9
  | 'v' => some 11
  | '\\' => some 92
  | _ => none

/-- The class of an escape letter, negated for a capital. -/
def kind? : Char → Option (CharacterClass × Bool)
  | 'd' => some (.digit, false)
  | 'D' => some (.digit, true)
  | 's' => some (.blank, false)
  | 'S' => some (.blank, true)
  | 'w' => some (.word, false)
  | 'W' => some (.word, true)
  | _ => none

/-- Refuse an escape whose characters were just taken. -/
def failEscape {α : Type} (defect : String → Defect) (characters : List Char) : Parser α :=
  fail (defect (String.ofList characters)) characters.length

/-- An escape with exactly `count` hexadecimal digits. -/
def hexEscape (letter : Char) (count : Nat) : Parser Escape := do
  let digits ← takeClass isHexDigit count
  let characters := '\\' :: letter :: digits
  if digits.length < count then
    failEscape .incompleteEscape characters
  else if numeral 16 digits > lastCode then
    failEscape .badEscape characters
  else
    return .single (numeral 16 digits)

/-- An escape by the name of a character. -/
def nameEscape : Parser Escape := do
  unless ← accept '\x7b' do
    fail .missingBrace
  let name ← takeName '\x7d' "character name"
  match Text.codeNamed? name with
  | some code => return .single code
  | none => fail (.undefinedCharacterName (String.ofList name)) (name.length + 4)

/-- An escape by digits to the base of 8, the first of which was taken. -/
def octalEscape (first : Char) : Parser Escape := do
  let digits := first :: (← takeClass isOctalDigit 2)
  if numeral 8 digits > 0o377 then
    failEscape .octalTooLarge ('\\' :: digits)
  else
    return .single (numeral 8 digits)

/-- An escape that reads the same inside and outside of a set. -/
def commonEscape (letter : Char) : Parser Escape :=
  match letter with
  | 'x' => hexEscape 'x' 2
  | 'u' => hexEscape 'u' 4
  | 'U' => hexEscape 'U' 8
  | 'N' => nameEscape
  | _ =>
      if Text.isPlainLetter letter || Text.isPlainDigit letter then
        failEscape .badEscape ['\\', letter]
      else
        return .single letter.toNat

/-- An escape inside of a set. -/
def setEscape (letter : Char) : Parser Escape :=
  if letter = 'b' then
    return .single 8
  else match controlCode? letter, kind? letter with
  | some code, _ => return .single code
  | none, some (characterClass, negated) => return .kind characterClass negated
  | none, none =>
      if isOctalDigit letter then octalEscape letter else commonEscape letter

/-- Refer to a group by number, written in `length` characters. -/
def referenceTo (group length : Nat) : Parser Escape := do
  let reading ← get
  if group < reading.groupCount then
    if (reading.closedWidth? group).isNone then
      fail .openGroupReference length
    requireBeforeLookbehind group
    return .reference group
  else
    fail (.invalidGroupReference group) (length - 1)

/-- A number after a backslash: three octal digits, or one or two digits of a group. -/
def numberEscape (first : Char) : Parser Escape := do
  match ← takeClass Text.isPlainDigit 1 with
  | [second] => do
      if isOctalDigit first && isOctalDigit second then
        match ← takeClass isOctalDigit 1 with
        | [third] =>
            let digits := [first, second, third]
            if numeral 8 digits > 0o377 then
              failEscape .octalTooLarge ('\\' :: digits)
            else
              return .single (numeral 8 digits)
        | _ => referenceTo (numeral 10 [first, second]) 3
      else
        referenceTo (numeral 10 [first, second]) 3
  | _ => referenceTo (numeral 10 [first]) 2

/-- An escape outside of a set. -/
def escape (letter : Char) : Parser Escape :=
  match letter with
  | 'A' => return .textStart
  | 'Z' => return .textEnd
  | 'b' => return .wordBoundary false
  | 'B' => return .wordBoundary true
  | '0' => do
      let digits ← takeClass isOctalDigit 2
      return .single (numeral 8 ('0' :: digits))
  | _ =>
      match controlCode? letter, kind? letter with
      | some code, _ => return .single code
      | none, some (characterClass, negated) => return .kind characterClass negated
      | none, none =>
          if Text.isPlainDigit letter then numberEscape letter else commonEscape letter

/-- The comparison under some flags. -/
def comparison (flags : Flags) : Comparison :=
  ⟨flags.ignoreCase, flags.plain⟩

/-- A piece that consumes one character. -/
def characterPiece (flags : Flags) (test : CharacterTest) : Piece :=
  ⟨.character (comparison flags) test, .one, .other⟩

/-- A piece that consumes nothing and cannot be repeated. -/
def anchorPiece (anchor : Anchor) : Piece :=
  ⟨.place anchor, .zero, .anchor⟩

/-- A piece that refers to a closed group. -/
def referencePiece (flags : Flags) (group : Nat) : Parser Piece := do
  let width := ((← get).closedWidth? group).getD .zero
  return ⟨.backReference (comparison flags) group, width, .other⟩

/-- The piece of an escape outside of a set. -/
def escapePiece (flags : Flags) (letter : Char) : Parser Piece := do
  match ← escape letter with
  | .single code => return characterPiece flags (.single code false)
  | .kind characterClass negated =>
      return characterPiece flags (.oneOf [.kind characterClass negated] false)
  | .wordBoundary negated => return anchorPiece (.wordBoundary flags.plain negated)
  | .textStart => return anchorPiece .textStart
  | .textEnd => return anchorPiece .textEnd
  | .reference group => referencePiece flags group

/-- A member of a set from a lexeme. -/
def setMember : Lexeme → Parser Member
  | .escaped letter => do
      match ← setEscape letter with
      | .kind characterClass negated => return .kind characterClass negated
      | .single code => return .single code
      | _ => return .single letter.toNat
  | .plain character => return .single character.toNat
  | .dangling => return .single 92

/-- The members of a set up to its end; `start` characters followed the opening bracket. -/
def setMembers (start : Nat) (members : List Member) : (limit : Nat) → Parser (List Member)
  | 0 => failBefore .unterminatedSet start
  | limit + 1 => do
      match ← take with
      | none => failBefore .unterminatedSet start
      | some lexeme =>
          if lexeme = .plain ']' && !members.isEmpty then
            return members
          let first ← setMember lexeme
          if ← accept '-' then
            match ← take with
            | none => failBefore .unterminatedSet start
            | some (.plain ']') => return members ++ [first, .single '-'.toNat]
            | some other => do
                let last ← setMember other
                let refuse : Parser (List Member) :=
                  fail (.badRange lexeme.text other.text) (lexeme.length + 1 + other.length)
                match first, last with
                | .single low, .single high =>
                    if high < low then
                      refuse
                    else
                      setMembers start (members ++ [.range low high]) limit
                | _, _ => refuse
          else
            setMembers start (members ++ [first]) limit

/-- A character set after its opening bracket. A set of one character is that character. -/
def setPiece (flags : Flags) : Parser Piece := do
  let start := (← remaining) + 1
  let negated ← accept '^'
  let members ← setMembers start [] ((← get).rest.length + 1)
  match members.eraseDups with
  | [.single code] => return characterPiece flags (.single code negated)
  | distinct => return characterPiece flags (.oneOf distinct negated)

/-- A bound of a repetition from its digits. -/
def bound (digits : List Char) : Parser Nat := do
  if digits.length > Text.digitLimit then
    throw (.boundTooLong digits.length)
  let value := numeral 10 digits
  if value ≥ boundCeiling then
    throw .boundTooLarge
  return value

/-- Bounds between braces after the opening one, or none if the brace is an ordinary character. -/
def bracedBounds : Parser (Option (Nat × Option Nat)) := do
  let before ← get
  if (← peek) = some (.plain '\x7d') then
    return none
  let low ← takeWhole Text.isPlainDigit
  let high ← do
    if ← accept ',' then takeWhole Text.isPlainDigit else pure low
  unless ← accept '\x7d' do
    set before
    return none
  let least ← if low.isEmpty then pure 0 else bound low
  if high.isEmpty then
    return some (least, none)
  let most ← bound high
  if most < least then
    failBefore .crossedBounds before.remaining
  return some (least, some most)

/-- The bounds of a repetition mark, or none if the mark is an ordinary character. -/
def bounds (mark : Char) : Parser (Option (Nat × Option Nat)) :=
  match mark with
  | '?' => return some (0, some 1)
  | '*' => return some (0, none)
  | '+' => return some (1, none)
  | _ => bracedBounds

/-- How eager a repetition is, by the mark after its bounds. -/
def eagerness : Parser Eagerness := do
  if ← accept '?' then
    return .lazy
  else if ← accept '+' then
    return .possessive
  else
    return .greedy

/-- Apply a repetition mark to the pieces before it, latest first. -/
def repeatLast (flags : Flags) (mark : Char) (pieces : List Piece) : Parser (List Piece) := do
  let here ← remaining
  match ← bounds mark with
  | none => return characterPiece flags (.single mark.toNat false) :: pieces
  | some (least, most) =>
      match pieces with
      | [] => failBefore .nothingToRepeat (here + 1)
      | piece :: earlier =>
          match piece.role with
          | .anchor => failBefore .nothingToRepeat (here + 1)
          | .loop => failBefore .multipleRepeat (here + 1)
          | .other => do
              let eagerness ← eagerness
              let width := piece.width.times least most
              return ⟨.loop least most eagerness piece.tree, width, .loop⟩ :: earlier

/-- Skip lexemes up to and with the given character; false if it does not occur. -/
def skipPast (character : Char) : (limit : Nat) → Parser Bool
  | 0 => return false
  | limit + 1 => do
      match ← take with
      | none => return false
      | some lexeme =>
          if lexeme = .plain character then return true else skipPast character limit

/-- Read flags to turn off, from the lexeme after the sign on. -/
def flagsOff (turnedOff : Flags) (lexeme : Option Lexeme) (missing : Defect) :
    (limit : Nat) → Parser Flags
  | 0 => fail missing
  | limit + 1 =>
      match lexeme with
      | none => fail missing
      | some (.plain letter) =>
          match Flag.ofLetter? letter with
          | some flag => do
              if flag.choosesAlphabet then
                fail .alphabetFlagOff
              let turnedOff := turnedOff.set flag
              let next ← take
              if next = some (.plain ':') then
                return turnedOff
              else
                flagsOff turnedOff next .missingColon limit
          | none =>
              fail (if Text.isLetter letter then .unknownFlag else missing) 1
      | some other => fail missing other.length

/-- Read flags to turn on; the answer has the character that ends them. -/
def flagsOn (turnedOn : Flags) (flag : Flag) :
    (limit : Nat) → Parser (Flags × Char)
  | 0 => fail .missingAfterFlags
  | limit + 1 => do
      if flag = .locale then
        fail .localeFlag
      let turnedOn := turnedOn.set flag
      if flag.choosesAlphabet && turnedOn.plain && turnedOn.allScripts then
        fail .clashingAlphabetFlags
      match ← take with
      | none => fail .missingAfterFlags
      | some (.plain letter) =>
          if letter = ')' || letter = '-' || letter = ':' then
            return (turnedOn, letter)
          else
            match Flag.ofLetter? letter with
            | some flag => flagsOn turnedOn flag limit
            | none => fail (if Text.isLetter letter then .unknownFlag else .missingAfterFlags) 1
      | some other => fail .missingAfterFlags other.length

/-- The flags of a group. -/
inductive GroupFlags where
  /-- Flags of the whole expression were set. -/
  | globally
  /-- Flags of one group. -/
  | locally (turnedOn turnedOff : Flags)

/-- Read the flags of a group from their first character on. -/
def groupFlags (first : Char) : Parser GroupFlags := do
  let limit := (← get).rest.length + 1
  let (turnedOn, ending) ←
    match Flag.ofLetter? first with
    | some flag => flagsOn {} flag limit
    | none => pure ({}, '-')
  if ending = ')' then
    modify fun reading => { reading with flags := reading.flags.union turnedOn }
    return .globally
  if turnedOn.template then
    fail .globalFlagOn 1
  let turnedOff ← do
    if ending = '-' then flagsOff {} (← take) .missingFlag limit else pure {}
  if turnedOff.template then
    fail .globalFlagOff 1
  if turnedOn.overlaps turnedOff then
    fail .flagOnAndOff 1
  return .locally turnedOn turnedOff

/-- Open a group and answer its number. -/
def openGroup (name : Option (List Char)) : Parser Nat := do
  let reading ← get
  let number := reading.groupCount
  match name with
  | none => set { reading with widths := reading.widths ++ [none] }
  | some name =>
      let key := String.ofList name
      match reading.names.lookup key with
      | some earlier => fail (.redefinedGroup key number earlier) (name.length + 1)
      | none =>
          set { reading with
            widths := reading.widths ++ [none]
            names := (key, number) :: reading.names }
  return number

/-- Close a group whose width is known. -/
def closeGroup (number : Nat) (width : Width) : Parser Unit :=
  modify fun reading =>
    { reading with widths := reading.widths.set (number - 1) (some width) }

/-- The parenthesis that ends a group; `start` characters followed the place before the group. -/
def endGroup (start : Nat) : Parser Unit := do
  unless ← accept ')' do
    failBefore .unterminatedGroup start

/-- A reference to a named group after `(?P=`. -/
def namedReference (flags : Flags) : Parser Piece := do
  let name ← takeName ')' "group name"
  requireName name
  match ← groupNamed? name with
  | none => fail (.unknownGroupName (String.ofList name)) (name.length + 1)
  | some group => do
      if ((← get).closedWidth? group).isNone then
        fail .openGroupReference (name.length + 1)
      requireBeforeLookbehind group
      referencePiece flags group

/-- The group of a condition by its number. -/
def numberedCondition (name : List Char) : Parser Nat := do
  let refuse : Parser Nat := fail (.badGroupName (String.ofList name)) (name.length + 1)
  match Text.readInteger name with
  | .error _ => refuse
  | .ok value => do
      if value < 0 then
        refuse
      else if value = 0 then
        fail .badGroupNumber (name.length + 1)
      else if value.toNat ≥ groupCeiling then
        fail (.invalidGroupReference value.toNat) (name.length + 1)
      else
        let group := value.toNat
        modify fun reading =>
          if (reading.awaited.lookup group).isSome then reading
          else
            { reading with
              awaited := reading.awaited ++ [(group, reading.remaining + name.length + 1)] }
        return group

/-- The group of a condition after its opening parenthesis. -/
def condition : Parser Nat := do
  let name ← takeName ')' "group name"
  let group ←
    if Text.isName name then
      match ← groupNamed? name with
      | none => fail (.unknownGroupName (String.ofList name)) (name.length + 1)
      | some group => pure group
    else
      numberedCondition name
  requireBeforeLookbehind group
  return group

/-- The pieces of a sequence, latest first, as one tree with its width. -/
def sequenceOf (pieces : List Piece) : Tree × Width :=
  let inOrder := pieces.reverse
  (Tree.all (inOrder.map (·.tree)),
    (inOrder.foldl (fun (width : Width) piece => width.add piece.width) Width.zero).capped)

/-- The branches of a choice as one tree with its width. -/
def choiceOf : List (Tree × Width) → Tree × Width
  | [] => (.empty, .zero)
  | [branch] => branch
  | branch :: rest =>
      let (tree, width) := choiceOf rest
      (.choice branch.1 tree, (branch.2.either width).capped)

/-- How a group begins after its opening parenthesis and question mark. -/
inductive Opening where
  | capturing (name : Option (List Char))
  | enclosing
  | atomic
  | look (ahead negated : Bool)
  | condition (group : Nat)
  | flags (turnedOn turnedOff : Flags)
  /-- The parenthesis is complete and contributes these pieces. -/
  | complete (pieces : List Piece)
  /-- The parenthesis set flags of the whole expression. -/
  | globalFlags

/-- The opening of a group whose first character is `P` after the question mark. -/
def namedOpening (flags : Flags) : Parser Opening := do
  if ← accept '<' then
    let name ← takeName '>' "group name"
    requireName name
    return .capturing (some name)
  else if ← accept '=' then
    return .complete [← namedReference flags]
  else
    match ← take with
    | none => fail .unexpectedEnd
    | some lexeme => fail (.unknownExtension ("P" ++ lexeme.text)) (lexeme.length + 2)

/-- The opening of a look behind. -/
def lookbehindOpening : Parser Opening := do
  match ← take with
  | none => fail .unexpectedEnd
  | some (.plain '=') => return .look false false
  | some (.plain '!') => return .look false true
  | some lexeme => fail (.unknownExtension ("<" ++ lexeme.text)) (lexeme.length + 2)

/-- The opening of a group; `start` characters followed the place before it. -/
def opening (flags : Flags) (start : Nat) : Parser Opening := do
  unless ← accept '?' do
    return .capturing none
  match ← take with
  | none => fail .unexpectedEnd
  | some (.plain 'P') => namedOpening flags
  | some (.plain ':') => return .enclosing
  | some (.plain '#') => do
      if ← skipPast ')' ((← get).rest.length + 1) then
        return .complete []
      else
        failBefore .unterminatedComment start
  | some (.plain '=') => return .look true false
  | some (.plain '!') => return .look true true
  | some (.plain '<') => lookbehindOpening
  | some (.plain '(') => return .condition (← condition)
  | some (.plain '>') => return .atomic
  | some (.plain letter) => do
      if letter = '-' || (Flag.ofLetter? letter).isSome then
        match ← groupFlags letter with
        | .globally => return .globalFlags
        | .locally turnedOn turnedOff => return .flags turnedOn turnedOff
      else
        fail (.unknownExtension letter.toString) 2
  | some lexeme => fail (.unknownExtension lexeme.text) (lexeme.length + 1)

mutual

/--
A choice between branches. The outermost one takes its flags from the whole
expression, whose flags its first branch may still set.
-/
def choice (outermost : Bool) (flags : Flags) : (depth : Nat) → Parser (Tree × Width)
  | 0 => return (.empty, .zero)
  | depth + 1 => do
      let branches ← branchesFrom outermost true flags depth
      return choiceOf branches

/-- The branches of a choice from here on. -/
def branchesFrom (outermost first : Bool) (flags : Flags) :
    (depth : Nat) → Parser (List (Tree × Width))
  | 0 => return []
  | depth + 1 => do
      let reading ← get
      let flags := if outermost then reading.flags else flags
      let branch ← sequence (outermost && first) flags [] depth
      if ← accept '|' then
        return branch :: (← branchesFrom outermost false flags depth)
      else
        return [branch]

/-- A sequence up to the end of its branch; `pieces` were read, latest first. -/
def sequence (mayBeGlobal : Bool) (flags : Flags) (pieces : List Piece) :
    (depth : Nat) → Parser (Tree × Width)
  | 0 => return sequenceOf pieces
  | depth + 1 => do
      match ← peek with
      | none | some .dangling | some (.plain '|') | some (.plain ')') => return sequenceOf pieces
      | some (.escaped letter) => do
          let _ ← take
          let piece ← escapePiece flags letter
          sequence mayBeGlobal flags (piece :: pieces) depth
      | some (.plain character) => do
          let _ ← take
          if flags.verbose && Text.isPlainBlank character then
            sequence mayBeGlobal flags pieces depth
          else if flags.verbose && character = '#' then
            let _ ← skipPast '\n' ((← get).rest.length + 1)
            sequence mayBeGlobal flags pieces depth
          else match character with
          | '[' => do
              let piece ← setPiece flags
              sequence mayBeGlobal flags (piece :: pieces) depth
          | '*' | '+' | '?' | '\x7b' => do
              let pieces ← repeatLast flags character pieces
              sequence mayBeGlobal flags pieces depth
          | '.' =>
              let test := if flags.dotAll then .anything else .notLineFeed
              sequence mayBeGlobal flags (characterPiece flags test :: pieces) depth
          | '^' =>
              let anchor := if flags.multiline then .lineStart else .textStart
              sequence mayBeGlobal flags (anchorPiece anchor :: pieces) depth
          | '$' =>
              let anchor := if flags.multiline then .lineEnd else .lastLineEnd
              sequence mayBeGlobal flags (anchorPiece anchor :: pieces) depth
          | '(' => do
              let start := (← remaining) + 1
              match ← opening flags start with
              | .globalFlags => do
                  unless mayBeGlobal && pieces.isEmpty do
                    failBefore .lateGlobalFlags start
                  let reading ← get
                  sequence mayBeGlobal reading.flags pieces depth
              | .complete found => sequence mayBeGlobal flags (found ++ pieces) depth
              | opening => do
                  let piece ← group flags start opening depth
                  sequence mayBeGlobal flags (piece :: pieces) depth
          | _ =>
              sequence mayBeGlobal flags
                (characterPiece flags (.single character.toNat false) :: pieces) depth

/-- The inside of a group and its closing parenthesis. -/
def group (flags : Flags) (start : Nat) (opening : Opening) : (depth : Nat) → Parser Piece
  | 0 => return ⟨.empty, .zero, .other⟩
  | depth + 1 =>
      match opening with
      | .capturing name => do
          let number ← openGroup name
          let (tree, width) ← choice false flags depth
          endGroup start
          closeGroup number width
          return ⟨.group number tree, width, .other⟩
      | .atomic => do
          let (tree, width) ← choice false flags depth
          endGroup start
          return ⟨.atomic tree, width, .other⟩
      | .look ahead negated => do
          let outer := (← get).lookbehindGroups
          unless ahead do
            modify fun reading =>
              { reading with lookbehindGroups := outer.getD reading.groupCount }
          let (tree, width) ← choice false flags depth
          unless ahead do
            modify fun reading => { reading with lookbehindGroups := outer }
          endGroup start
          let direction := if ahead then .ahead else .behind width
          return ⟨.look direction negated tree, .zero, .other⟩
      | .condition number => do
          let (matched, matchedWidth) ← sequence false flags [] depth
          if ← accept '|' then
            let (unmatched, unmatchedWidth) ← sequence false flags [] depth
            if (← peek) = some (.plain '|') then
              fail .manyConditionalBranches
            endGroup start
            return ⟨.ifGroup number matched unmatched,
              (matchedWidth.either unmatchedWidth), .other⟩
          else
            endGroup start
            return ⟨.ifGroup number matched .empty, ⟨0, matchedWidth.most⟩, .other⟩
      | .flags turnedOn turnedOff => do
          let (tree, width) ← choice false (flags.inGroup turnedOn turnedOff) depth
          endGroup start
          return ⟨tree, width, .other⟩
      | .enclosing | .complete _ | .globalFlags => do
          let (tree, width) ← choice false flags depth
          endGroup start
          return ⟨tree, width, .other⟩

end

end Parser

end ProseRules.Regex
