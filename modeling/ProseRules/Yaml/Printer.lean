import ProseRules.Value.Basic
import ProseRules.Yaml.Character
import ProseRules.Yaml.Tag

namespace ProseRules.Yaml

/-!
# Writing values

Mappings and lists are written as blocks, one entry or element a line, and empty
ones between brackets. A text is written plainly where it reads back as the same
text, else between single quotes, and between double quotes if it holds characters
that need an escape. Long texts are folded at blanks after column 80.
-/

/-- A character outside of the first 128 that needs no escape. -/
def isForeign (c : Char) : Bool :=
  (c = '\u0085' || (0xA0 ≤ c.toNat && c.toNat ≤ 0xD7FF) || (0xE000 ≤ c.toNat && c.toNat ≤ 0xFFFD)
      || (0x10000 ≤ c.toNat && c.toNat < 0x10FFFF))
    && c.toNat ≠ 0xFEFF

/-- A character that only double quotes can hold. -/
def isSpecial (c : Char) : Bool :=
  !(c = '\n' || (32 ≤ c.toNat && c.toNat ≤ 126)) && !isForeign c

/-- What the characters of a scalar allow. -/
structure Traits where
  /-- The scalar goes over several lines. -/
  multiline : Bool
  /-- A plain scalar of a block may hold it. -/
  plain : Bool
  /-- Single quotes may hold it. -/
  singleQuoted : Bool
  /-- A block scalar may hold it. -/
  block : Bool
  deriving Repr, DecidableEq

/-- Characters that cannot begin a plain scalar. -/
def leadingIndicators : List Char :=
  "#,[]\x7b\x7d&*!|>'\"%@`".toList

/-- A character at which a plain scalar would end or be misread. -/
def isIndicator (before : Option Char) (c : Char) (after : Option Char) : Bool :=
  let endsThere := after.all isSpacing
  match before with
  | none =>
      leadingIndicators.contains c || ((c = '?' || c = ':' || c = '-') && endsThere)
  | some previous => (c = ':' && endsThere) || (c = '#' && isSpacing previous)

/-- Some character is an indicator; `before` is the character before the given ones. -/
def hasIndicator (before : Option Char) : List Char → Bool
  | [] => false
  | c :: rest => isIndicator before c rest.head? || hasIndicator (some c) rest

/-- Two neighbouring characters are of the given classes. -/
def hasNeighbours (first second : Char → Bool) (cs : List Char) : Bool :=
  (cs.zip (cs.drop 1)).any fun (c, d) => first c && second d

/-- What the characters of a scalar that is not empty allow. -/
def traits (cs : List Char) : Traits :=
  let isBlank := fun (c : Char) => c = ' '
  let isEdge := fun (c : Option Char) => c.any fun c => isBlank c || isBreak c
  let edges := isEdge cs.head? || isEdge cs.getLast?
  let blankAfterBreak := hasNeighbours isBreak isBlank cs
  let needsEscape := hasNeighbours isBlank isBreak cs || cs.any isSpecial
  let multiline := cs.any isBreak
  let indicators :=
    hasIndicator none cs || "---".toList.isPrefixOf cs || "...".toList.isPrefixOf cs
  { multiline := multiline
    plain := !(edges || blankAfterBreak || needsEscape || multiline || indicators)
    singleQuoted := !(blankAfterBreak || needsEscape)
    block := !(cs.getLast?.any isBlank || needsEscape) }

/-- How a scalar is written. -/
inductive Style where
  | plain
  | singleQuoted
  | doubleQuoted
  | literal
  deriving Repr, DecidableEq

/-- The width after which lines are folded. -/
def foldingWidth : Nat :=
  80

/-- The text written so far, latest character first, and the state of its last line. -/
structure Page where
  written : List Char := []
  column : Nat := 0
  /-- The last character is a blank or the page is at the start of a line. -/
  atBlank : Bool := true
  /-- The last line holds nothing but indicators of blocks. -/
  atIndent : Bool := true

namespace Page

/-- Write characters of one line. -/
def put (page : Page) (cs : List Char) : Page :=
  { page with written := cs.reverse ++ page.written, column := page.column + cs.length }

/-- Break the line. -/
def breakLine (page : Page) (lineBreak : Char := '\n') : Page where
  written := lineBreak :: page.written

/-- Go to the start of a line with an indent. -/
def indentTo (page : Page) (indent : Nat) : Page :=
  let page :=
    if !page.atIndent || page.column > indent || (page.column = indent && !page.atBlank) then
      page.breakLine
    else
      page
  if page.column < indent then
    { page.put (List.replicate (indent - page.column) ' ') with atBlank := true }
  else
    page

/-- Write an indicator, after a blank if one is needed. -/
def indicator (page : Page) (sign : String) (needsBlank : Bool) (blankAfter : Bool := false)
    (keepsIndent : Bool := false) : Page :=
  let cs := sign.toList
  let page' := page.put (if page.atBlank || !needsBlank then cs else ' ' :: cs)
  { page' with atBlank := blankAfter, atIndent := page.atIndent && keepsIndent }

/-- Nothing but text is before the next character. -/
def inText (page : Page) : Page :=
  { page with atBlank := false, atIndent := false }

/-- The page as a text. -/
def text (page : Page) : String :=
  String.ofList page.written.reverse

end Page

/-- A run of characters of one kind inside a scalar. -/
inductive Run where
  | word (characters : List Char)
  | blanks (count : Nat)
  | breaks (characters : List Char)
  deriving Repr, DecidableEq

/-- Put a character in front of runs. -/
def consRun (c : Char) : List Run → List Run
  | .word cs :: rest =>
      if c = ' ' then .blanks 1 :: .word cs :: rest
      else if isBreak c then .breaks [c] :: .word cs :: rest
      else .word (c :: cs) :: rest
  | .blanks n :: rest =>
      if c = ' ' then .blanks (n + 1) :: rest
      else if isBreak c then .breaks [c] :: .blanks n :: rest
      else .word [c] :: .blanks n :: rest
  | .breaks cs :: rest =>
      if c = ' ' then .blanks 1 :: .breaks cs :: rest
      else if isBreak c then .breaks (c :: cs) :: rest
      else .word [c] :: .breaks cs :: rest
  | [] =>
      if c = ' ' then [.blanks 1] else if isBreak c then [.breaks [c]] else [.word [c]]

/-- The runs of a scalar. -/
def runsOf : List Char → List Run
  | [] => []
  | c :: rest => consRun c (runsOf rest)

/-- Write one run of a plain scalar; a single blank may become a fold. -/
def putPlainRun (indent : Nat) (mayFold : Bool) (page : Page) : Run → Page
  | .word cs => page.put cs
  | .blanks count =>
      if count = 1 && page.column > foldingWidth && mayFold then (page.indentTo indent).inText
      else page.put (List.replicate count ' ')
  | .breaks cs => page.put cs

/-- Write a plain scalar. -/
def putPlain (indent : Nat) (mayFold : Bool) (page : Page) (cs : List Char) : Page :=
  if cs.isEmpty then
    page
  else
    let page := if page.atBlank then page else page.put [' ']
    (runsOf cs).foldl (putPlainRun indent mayFold) page.inText

/-- Write the line breaks of a scalar between single quotes; the first plain one is doubled. -/
def putBreaks (indent : Nat) (page : Page) (cs : List Char) : Page :=
  let page := if cs.head? = some '\n' then page.breakLine else page
  (cs.foldl (fun page c => page.breakLine c) page).indentTo indent

/-- Write a word between single quotes; a quote is doubled. -/
def putQuotedWord (page : Page) (cs : List Char) : Page :=
  page.put (cs.flatMap fun c => if c = '\'' then ['\'', '\''] else [c])

/-- Write one run between single quotes; a single blank inside may become a fold. -/
def putQuotedRun (indent : Nat) (mayFold isInside : Bool) (page : Page) : Run → Page
  | .word cs => putQuotedWord page cs
  | .blanks count =>
      if count = 1 && page.column > foldingWidth && mayFold && isInside then page.indentTo indent
      else page.put (List.replicate count ' ')
  | .breaks cs => putBreaks indent page cs

/-- Write runs between single quotes; `isFirst` says that none was written yet. -/
def putQuotedRuns (indent : Nat) (mayFold isFirst : Bool) (page : Page) : List Run → Page
  | [] => page
  | run :: rest =>
      putQuotedRuns indent mayFold false
        (putQuotedRun indent mayFold (!isFirst && !rest.isEmpty) page run) rest

/-- Write a scalar between single quotes. -/
def putSingleQuoted (indent : Nat) (mayFold : Bool) (page : Page) (cs : List Char) : Page :=
  let page := page.indicator "'" true
  (putQuotedRuns indent mayFold true page (runsOf cs)).indicator "'" false

/-- Letters of the escapes between double quotes. -/
def escapeLetters : List (Char × Char) :=
  [('\x00', '0'), ('\x07', 'a'), ('\x08', 'b'), ('\t', 't'), ('\n', 'n'), ('\x0b', 'v'),
    ('\x0c', 'f'), ('\r', 'r'), ('\x1b', 'e'), ('"', '"'), ('\\', '\\'), ('\u0085', 'N'),
    ('\u00a0', '_'), ('\u2028', 'L'), ('\u2029', 'P')]

/-- A character stands for itself between double quotes. -/
def isBareInDoubleQuotes (c : Char) : Bool :=
  !("\"\\\u0085\u2028\u2029\ufeff".toList.contains c)
    && ((32 ≤ c.toNat && c.toNat ≤ 126) || (0xA0 ≤ c.toNat && c.toNat ≤ 0xD7FF)
      || (0xE000 ≤ c.toNat && c.toNat ≤ 0xFFFD))

/-- The escape of a character between double quotes. -/
def escapeOf (c : Char) : List Char :=
  let capitals := fun (cs : List Char) => cs.map Char.toUpper
  match escapeLetters.lookup c with
  | some letter => ['\\', letter]
  | none =>
      if c.toNat ≤ 0xFF then '\\' :: 'x' :: capitals (Text.hexDigits 2 c.toNat)
      else if c.toNat ≤ 0xFFFF then '\\' :: 'u' :: capitals (Text.hexDigits 4 c.toNat)
      else '\\' :: 'U' :: capitals (Text.hexDigits 8 c.toNat)

/--
Fold the line between double quotes before the characters that follow; `pending` are
bare characters not written yet.
-/
def foldDoubleQuoted (indent : Nat) (page : Page) (pending : List Char) (next : Option Char) :
    Page :=
  let page := ((page.put (pending ++ ['\\'])).indentTo indent).inText
  if next = some ' ' then page.put ['\\'] else page

/--
Write characters between double quotes. `pending` are bare characters not written
yet, in order, and `isFirst` says that no character was looked at.
-/
def putDoubleQuotedFrom (indent : Nat) (mayFold isFirst : Bool) (page : Page)
    (pending : List Char) : List Char → Page
  | [] => page.put pending
  | c :: rest =>
      let mayFoldHere := mayFold && !isFirst && !rest.isEmpty
      if isBareInDoubleQuotes c then
        if mayFoldHere && (c = ' ' || pending.isEmpty)
            && page.column + pending.length > foldingWidth then
          let page := foldDoubleQuoted indent page pending (some c)
          putDoubleQuotedFrom indent mayFold false page [c] rest
        else
          putDoubleQuotedFrom indent mayFold false page (pending ++ [c]) rest
      else
        let page := (page.put pending).put (escapeOf c)
        if mayFoldHere && page.column > foldingWidth + 1 then
          let page := foldDoubleQuoted indent page [] rest.head?
          putDoubleQuotedFrom indent mayFold false page [] rest
        else
          putDoubleQuotedFrom indent mayFold false page [] rest

/-- Write a scalar between double quotes. -/
def putDoubleQuoted (indent : Nat) (mayFold : Bool) (page : Page) (cs : List Char) : Page :=
  let page := page.indicator "\"" true
  (putDoubleQuotedFrom indent mayFold true page [] cs).indicator "\"" false

end ProseRules.Yaml
