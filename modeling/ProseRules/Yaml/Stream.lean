import ProseRules.Yaml.Lexeme

namespace ProseRules.Yaml

/-!
# The lexemes of a document in order

Indentation opens and closes blocks, and a colon turns what stands before it on its
line into a key. Both are made explicit here: the lexemes of a document hold marks
for the start and end of every block and for every key.
-/

/-- Something that a colon after it would turn into a key. -/
structure PossibleKey where
  /-- The number of lexemes before it. -/
  number : Nat
  /-- It begins a line of its block, so it has to be a key. -/
  required : Bool
  index : Nat
  line : Nat
  column : Nat
  deriving Repr, DecidableEq

/-- What is known in the middle of a document. -/
structure Outline where
  place : Place
  lexemes : Array Lexeme := #[]
  /-- The number of brackets that are open. -/
  flowDepth : Nat := 0
  /-- The column of the innermost block, -1 outside of all blocks. -/
  indent : Int := -1
  /-- The columns of the blocks around it, innermost first. -/
  outerIndents : List Int := []
  /-- A key may begin at the place. -/
  mayBeKey : Bool := true
  /-- The possible keys with the number of open brackets around them. -/
  keys : List (Nat × PossibleKey) := []
  deriving Repr, DecidableEq

/-- A step through a document. -/
abbrev Tracing (α : Type) : Type :=
  StateT Outline (Except ReadFlaw) α

namespace Tracing

/-- Add a lexeme. -/
def emit (lexeme : Lexeme) : Tracing Unit :=
  modify fun outline => { outline with lexemes := outline.lexemes.push lexeme }

/-- Go on at a place. -/
def moveTo (place : Place) : Tracing Unit :=
  modify fun outline => { outline with place := place }

/-- Say whether a key may begin at the place. -/
def allowKey (mayBeKey : Bool) : Tracing Unit :=
  modify fun outline => { outline with mayBeKey := mayBeKey }

/-- Close the blocks that are indented more than a column. -/
def closeBlocks (column : Int) : (limit : Nat) → Tracing Unit
  | 0 => return
  | limit + 1 => do
      let outline ← get
      if outline.flowDepth = 0 && outline.indent > column then
        set { outline with
          indent := outline.outerIndents.headD (-1)
          outerIndents := outline.outerIndents.tail
          lexemes := outline.lexemes.push .blockEnd }
        closeBlocks column limit

/-- Close the blocks that are indented more than a column. -/
def closeBlocksTo (column : Int) : Tracing Unit := do
  closeBlocks column ((← get).outerIndents.length + 1)

/-- Open a block at a column unless the innermost one is there; says whether it was opened. -/
def openBlock (column : Int) : Tracing Bool := do
  let outline ← get
  if outline.indent < column then
    set { outline with
      indent := column
      outerIndents := outline.indent :: outline.outerIndents }
    return true
  else
    return false

/-- Forget the possible key of the innermost brackets; a required one may not be lost. -/
def dropKey : Tracing Unit := do
  let outline ← get
  match outline.keys.lookup outline.flowDepth with
  | none => return
  | some key => do
      if key.required then
        throw .malformed
      set { outline with keys := outline.keys.filter (·.1 ≠ outline.flowDepth) }

/-- Forget possible keys that are on another line or too far away. -/
def dropStaleKeys : Tracing Unit := do
  let outline ← get
  let isStale := fun (entry : Nat × PossibleKey) =>
    entry.2.line ≠ outline.place.line || outline.place.index > entry.2.index + 1024
  if outline.keys.any fun entry => isStale entry && entry.2.required then
    throw .malformed
  set { outline with keys := outline.keys.filter (!isStale ·) }

/-- Remember that what begins at the place may become a key. -/
def noteKey : Tracing Unit := do
  let outline ← get
  if outline.mayBeKey then
    dropKey
    let outline ← get
    let place := outline.place
    let key : PossibleKey :=
      { number := outline.lexemes.size
        required := outline.flowDepth = 0 && outline.indent = place.column
        index := place.index
        line := place.line
        column := place.column }
    set { outline with keys := (outline.flowDepth, key) :: outline.keys }

/-- Skip blanks, comments and line breaks up to the next lexeme. -/
def skipSpace : (limit : Nat) → Tracing Unit
  | 0 => return
  | limit + 1 => do
      let outline ← get
      let place := outline.place.dropWhile (· = ' ')
      let place := if place.peek = '#' then place.dropWhile (!endsLine ·) else place
      if endsLine place.peek then
        set { outline with
          place := place.lineBreak.2
          mayBeKey := outline.mayBeKey || outline.flowDepth = 0 }
        skipSpace limit
      else
        set { outline with place := place }

/-- Take `count` characters as a lexeme. -/
def takeSign (lexeme : Lexeme) (count : Nat) : Tracing Unit := do
  moveTo ((← get).place.skip count)
  emit lexeme

/-- End all blocks before a lexeme that belongs to no block. -/
def leaveBlocks : Tracing Unit := do
  closeBlocksTo (-1)
  dropKey
  allowKey false

/-- Take an opening bracket. -/
def openFlow (lexeme : Lexeme) : Tracing Unit := do
  noteKey
  modify fun outline => { outline with flowDepth := outline.flowDepth + 1 }
  allowKey true
  takeSign lexeme 1

/-- Take a closing bracket. One that closes nothing is refused. -/
def closeFlow (lexeme : Lexeme) : Tracing Unit := do
  dropKey
  if (← get).flowDepth = 0 then
    throw .malformed
  modify fun outline => { outline with flowDepth := outline.flowDepth - 1 }
  allowKey false
  takeSign lexeme 1

/-- Open a block for an entry or key at the place, which has to be able to begin there. -/
def enterBlock (start : Lexeme) : Tracing Unit := do
  let outline ← get
  if outline.flowDepth = 0 then
    if !outline.mayBeKey then
      throw .malformed
    if ← openBlock outline.place.column then
      emit start

/-- Take the sign of a list entry. -/
def takeBlockEntry : Tracing Unit := do
  enterBlock .blockSequenceStart
  allowKey true
  dropKey
  takeSign .blockEntry 1

/-- Take the sign of a key. -/
def takeKey : Tracing Unit := do
  enterBlock .blockMappingStart
  allowKey ((← get).flowDepth = 0)
  dropKey
  takeSign .key 1

/-- Turn a possible key into a key. -/
def confirmKey (key : PossibleKey) : Tracing Unit := do
  modify fun outline =>
    { outline with
      keys := outline.keys.filter (·.1 ≠ outline.flowDepth)
      lexemes := outline.lexemes.insertIdxIfInBounds key.number .key }
  if (← get).flowDepth = 0 then
    if ← openBlock key.column then
      modify fun outline =>
        { outline with
          lexemes := outline.lexemes.insertIdxIfInBounds key.number .blockMappingStart }
  allowKey false

/-- Take the sign of a value. -/
def takeValue : Tracing Unit := do
  let outline ← get
  match outline.keys.lookup outline.flowDepth with
  | some key => confirmKey key
  | none => do
      enterBlock .blockMappingStart
      allowKey ((← get).flowDepth = 0)
      dropKey
  takeSign .value 1

/-- Take a lexeme that may begin a key. -/
def takeNode (found : Except ReadFlaw (Lexeme × Place)) : Tracing Unit := do
  noteKey
  allowKey false
  let (lexeme, place) ← found
  moveTo place
  emit lexeme

/-- Take a plain scalar. -/
def takePlain : Tracing Unit := do
  noteKey
  allowKey false
  let outline ← get
  let (lexeme, lineEnded, place) := readPlain (outline.flowDepth ≠ 0) outline.indent outline.place
  if lineEnded then
    allowKey true
  moveTo place
  emit lexeme

/-- Take a block scalar. -/
def takeBlock (folded : Bool) : Tracing Unit := do
  allowKey true
  dropKey
  let outline ← get
  let (lexeme, place) ← readBlock folded outline.indent outline.place
  moveTo place
  emit lexeme

/-- A plain scalar may begin with a character before another one. -/
def beginsPlain (inFlow : Bool) (c next : Char) : Bool :=
  !(isSpacing c || "-?:,[]\x7b\x7d#&*!|>'\"%@\u0060".toList.contains c)
    || (!isSpacing next && (c = '-' || (!inFlow && (c = '?' || c = ':'))))

/-- Take the next lexeme; false at the end of the document. -/
def step : Tracing Bool := do
  skipSpace ((← get).place.rest.length + 1)
  dropStaleKeys
  closeBlocksTo (← get).place.column
  let outline ← get
  let place := outline.place
  let c := place.peek
  let next := place.peekAt 1
  let inFlow := outline.flowDepth ≠ 0
  let atStart := place.column = 0
  if place.rest.isEmpty then
    leaveBlocks
    emit .streamEnd
    return false
  if c = '%' && atStart then
    leaveBlocks
    let (lexeme, place) ← readDirective place
    moveTo place
    emit lexeme
  else if atStart && place.hasMark '-' then
    leaveBlocks
    takeSign .documentStart 3
  else if atStart && place.hasMark '.' then
    leaveBlocks
    takeSign .documentEnd 3
  else if c = '[' then openFlow .flowSequenceStart
  else if c = '\x7b' then openFlow .flowMappingStart
  else if c = ']' then closeFlow .flowSequenceEnd
  else if c = '\x7d' then closeFlow .flowMappingEnd
  else if c = ',' then
    allowKey true
    dropKey
    takeSign .flowEntry 1
  else if c = '-' && isSpacing next then takeBlockEntry
  else if c = '?' && (inFlow || isSpacing next) then takeKey
  else if c = ':' && (inFlow || isSpacing next) then takeValue
  else if c = '*' then
    takeNode ((readName place).map fun (name, place) => (.reference name, place))
  else if c = '&' then
    takeNode ((readName place).map fun (name, place) => (.anchor name, place))
  else if c = '!' then takeNode (readTag place)
  else if c = '|' && !inFlow then takeBlock false
  else if c = '>' && !inFlow then takeBlock true
  else if c = '\'' then takeNode (readQuoted false place)
  else if c = '"' then takeNode (readQuoted true place)
  else if beginsPlain inFlow c next then takePlain
  else throw .malformed
  return true

/-- Take lexemes up to the end of the document. -/
def walk : (limit : Nat) → Tracing Unit
  | 0 => return
  | limit + 1 => do
      if ← step then
        walk limit

end Tracing

/-- The lexemes of a document. -/
def lexemesOf (document : List Char) : Except ReadFlaw (List Lexeme) := do
  if !document.all isAllowed then
    throw .malformed
  let place : Place := ⟨document, 0, 0, 0⟩
  let place := if place.peek = '\ufeff' then place.next else place
  let (_, outline) ← StateT.run (Tracing.walk (document.length + 1)) { place := place }
  return outline.lexemes.toList

end ProseRules.Yaml
