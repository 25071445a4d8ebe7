import ProseRules.Text.Base64
import ProseRules.Yaml.Printer

namespace ProseRules.Yaml

/-!
# Writing documents

A document is a value written from its root. Where a node stands decides how much
its lines are indented: a list that is the value of a key is not indented further.
-/

/-- A scalar as it is written, with the short name of its tag. -/
structure Scalar where
  content : String
  tag : Tag
  tagName : String
  /-- The scalar is written as a block of lines. -/
  literal : Bool := false
  deriving Repr, DecidableEq

/-- The text of a number with a point: an exponent follows at least one decimal. -/
def realContent (x : Real64) : String :=
  match x.decode with
  | .undefined => ".nan"
  | .infinite negative => if negative then "-.inf" else ".inf"
  | .finite .. =>
      let text := x.render.toList
      if text.contains '.' then String.ofList text
      else
        String.ofList
          (text.takeWhile (· ≠ 'e') ++ (if text.contains 'e' then ['.', '0'] else [])
            ++ text.dropWhile (· ≠ 'e'))

/-- Characters cut into lines of at most 76, each ended by a line feed. -/
def linesOf76 (limit : Nat) (cs : List Char) : List Char :=
  match limit, cs with
  | 0, _ | _, [] => []
  | limit + 1, cs => cs.take 76 ++ '\n' :: linesOf76 limit (cs.drop 76)

/-- The scalar of a value, if the value is one. -/
def scalarOf? : Value → Option Scalar
  | .null => some ⟨"null", .null, "!!null", false⟩
  | .bool b => some ⟨if b then "true" else "false", .bool, "!!bool", false⟩
  | .int n => some ⟨toString n, .int, "!!int", false⟩
  | .real x => some ⟨realContent x, .float, "!!float", false⟩
  | .text s => some ⟨s, .text, "!!str", false⟩
  | .bytes content =>
      let lines := linesOf76 (content.length + 1) (Text.encodeBase64 content)
      some ⟨String.ofList lines, .binary, "!!binary", true⟩
  | .date day => some ⟨day.text, .timestamp, "!!timestamp", false⟩
  | .moment time => some ⟨time.text, .timestamp, "!!timestamp", false⟩
  | _ => none

namespace Scalar

/-- The scalar is empty or goes over several lines, so it cannot be a simple key. -/
def isEmptyOrMultiline (scalar : Scalar) : Bool :=
  let cs := scalar.content.toList
  cs.isEmpty || (traits cs).multiline

/-- How the scalar is written. -/
def style (scalar : Scalar) (isKey : Bool) : Style :=
  let cs := scalar.content.toList
  let allowed := if cs.isEmpty then ⟨false, true, true, false⟩ else traits cs
  if !scalar.literal && Tag.ofPlain scalar.content = scalar.tag
      && !(isKey && scalar.isEmptyOrMultiline) && allowed.plain then
    .plain
  else if scalar.literal && !isKey && allowed.block then
    .literal
  else if !scalar.literal && allowed.singleQuoted && !(isKey && allowed.multiline) then
    .singleQuoted
  else
    .doubleQuoted

/-- The tag has to be written because the scalar would be read as something else. -/
def needsTag (scalar : Scalar) (style : Style) : Bool :=
  if style = .plain then Tag.ofPlain scalar.content ≠ scalar.tag else scalar.tag ≠ .text

/-- The scalar can stand before a colon on one line. -/
def isSimpleKey (scalar : Scalar) : Bool :=
  !scalar.isEmptyOrMultiline && scalar.content.length + scalar.tagName.length < 128

/-- Write the lines of a block scalar. -/
def putLiteral (indent : Nat) (page : Page) (cs : List Char) : Page :=
  (cs.splitOn '\n').foldl
    (fun page line =>
      if line.isEmpty then page else ((page.indentTo indent).put line).breakLine)
    (page.indicator "|" true).breakLine

/-- Write a scalar; `indent` is the indent of its further lines. -/
def put (scalar : Scalar) (indent : Nat) (isKey : Bool) (page : Page) : Page :=
  let style := scalar.style isKey
  let page := if scalar.needsTag style then page.indicator scalar.tagName true else page
  let cs := scalar.content.toList
  match style with
  | .plain => putPlain indent (!isKey) page cs
  | .singleQuoted => putSingleQuoted indent (!isKey) page cs
  | .doubleQuoted => putDoubleQuoted indent (!isKey) page cs
  | .literal => putLiteral indent page cs

end Scalar

/-- Where a node stands. -/
inductive Position where
  | root
  | element
  | mappingValue
  | simpleKey
  deriving Repr, DecidableEq

/-- The indent one level further in. -/
def deeper : Option Nat → Nat
  | none => 0
  | some indent => indent + 2

/-- The key can stand before a colon on one line. -/
def isSimpleKey : Value → Bool
  | .tuple elements => elements.isEmpty
  | key => (scalarOf? key).any Scalar.isSimpleKey

/-- Write a scalar value. -/
def putScalar (indent : Option Nat) (position : Position) (page : Page) (value : Value) : Page :=
  match scalarOf? value with
  | none => page
  | some scalar => scalar.put ((indent.getD 0) + 2) (position = .simpleKey) page

/-- Write a pair of brackets with nothing between them. -/
def putEmpty (page : Page) (opening closing : String) : Page :=
  (page.indicator opening true true).indicator closing false

/-- The indent of the elements of a list; as the value of a key it is that of the key. -/
def elementIndent (indent : Option Nat) (position : Position) (page : Page) : Nat :=
  if (position = .mappingValue || position = .simpleKey) && !page.atIndent then indent.getD 0
  else deeper indent

/--
Write a key with the sign after it; a key that is not simple stands on lines of its
own. `write` writes the key itself.
-/
def putKey (indent : Nat) (page : Page) (isSimple : Bool) (write : Position → Page → Page) :
    Page :=
  let page := page.indentTo indent
  if isSimple then
    (write .simpleKey page).indicator ":" false
  else
    let page := write .mappingValue (page.indicator "?" true false true)
    (page.indentTo indent).indicator ":" true false true

mutual

/-- Write a value that stands at a position with an indent. -/
def putValue (indent : Option Nat) (position : Position) (page : Page) : Value → Page
  | .list [] => putEmpty page "[" "]"
  | .tuple [] => putEmpty page "[" "]"
  | .mapping [] => putEmpty page "\x7b" "\x7d"
  | .set [] => putEmpty (page.indicator "!!set" true) "\x7b" "\x7d"
  | .list elements => putElements (elementIndent indent position page) page elements
  | .tuple elements => putElements (elementIndent indent position page) page elements
  | .mapping entries => putEntries (deeper indent) page entries
  | .set elements => putMembers (deeper indent) (page.indicator "!!set" true) elements
  | .null => putScalar indent position page .null
  | .bool b => putScalar indent position page (.bool b)
  | .int n => putScalar indent position page (.int n)
  | .real x => putScalar indent position page (.real x)
  | .text s => putScalar indent position page (.text s)
  | .bytes content => putScalar indent position page (.bytes content)
  | .date day => putScalar indent position page (.date day)
  | .moment time => putScalar indent position page (.moment time)

/-- Write elements of a list, one a line. -/
def putElements (indent : Nat) (page : Page) : List Value → Page
  | [] => page
  | element :: rest =>
      let page := (page.indentTo indent).indicator "-" true false true
      putElements indent (putValue (some indent) .element page element) rest

/-- Write entries of a mapping, one a line. -/
def putEntries (indent : Nat) (page : Page) : List (Value × Value) → Page
  | [] => page
  | (key, value) :: rest =>
      let page := putKey indent page (isSimpleKey key) fun position page =>
        putValue (some indent) position page key
      putEntries indent (putValue (some indent) .mappingValue page value) rest

/-- Write members of a set, which are keys without values. -/
def putMembers (indent : Nat) (page : Page) : List Value → Page
  | [] => page
  | key :: rest =>
      let page := putKey indent page (isSimpleKey key) fun position page =>
        putValue (some indent) position page key
      putMembers indent (putScalar (some indent) .mappingValue page .null) rest

end

/-- The text of a value as a document. -/
def render (value : Value) : String :=
  ((putValue none .root {} value).indentTo 0).text

end ProseRules.Yaml
