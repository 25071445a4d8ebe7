import ProseRules.Failure

namespace ProseRules

/-!
# Messages and suggestions

The message of a rule may refer to parts of a match by a backslash and a number,
and it may mark suggestions with tags. A message is expanded first; then its
suggestions are listed and shown between single quotes.
-/

/-- A part of a message template. -/
inductive TemplatePart where
  | literal (character : Char)
  /-- The digits of a reference. -/
  | reference (digits : List Nat)
  deriving Repr, DecidableEq

/-- A backslash with the digits read after it; without digits it is an ordinary character. -/
def closeReference : List Nat → TemplatePart
  | [] => .literal '\\'
  | digits => .reference digits

/--
The parts of a template. `pending` holds the digits read since a backslash, if the
template is inside a reference.
-/
def templatePartsFrom (pending : Option (List Nat)) : List Char → List TemplatePart
  | [] => (pending.map closeReference).toList
  | c :: rest =>
      match pending, Text.digitValue? c with
      | some digits, some digit => templatePartsFrom (some (digits ++ [digit])) rest
      | _, _ =>
          (pending.map closeReference).toList
            ++ (if c = '\\' then templatePartsFrom (some []) rest
              else .literal c :: templatePartsFrom none rest)

/-- The parts of a template: a backslash before a digit begins a reference. -/
def templateParts (template : List Char) : List TemplatePart :=
  templatePartsFrom none template

/-- The text of one part; `reference` gives the text of a reference by its number. -/
def expandPart (reference : Nat → String) : TemplatePart → Except Failure (List Char)
  | .literal character => .ok [character]
  | .reference digits =>
      if digits.length > Text.digitLimit then
        .error (.badValue (.integer (.tooManyDigits digits.length)))
      else
        .ok (reference (Text.positional 10 digits)).toList

/-- A template with its references replaced. Only a text can be expanded. -/
def expandTemplate (reference : Nat → String) : Value → Except Failure String
  | .text template => do
      let parts ← (templateParts template.toList).mapM (expandPart reference)
      return String.ofList parts.flatten
  | _ => .error .wrongKind

/-- A part of a message. -/
inductive Segment where
  | plain (characters : List Char)
  /-- The inside of a pair of suggestion tags. -/
  | suggestion (characters : List Char)
  deriving Repr, DecidableEq

/-- The tag that begins a suggestion. -/
def openingTag : List Char :=
  "<suggestion>".toList

/-- The tag that ends a suggestion. -/
def closingTag : List Char :=
  "</suggestion>".toList

/-- A text cut at the first occurrence of a tag, which is left out. -/
def cutAt? (tag : List Char) : List Char → Option (List Char × List Char)
  | [] => if tag.isEmpty then some ([], []) else none
  | c :: rest =>
      if tag.isPrefixOf (c :: rest) then
        some ([], (c :: rest).drop tag.length)
      else
        (cutAt? tag rest).map fun (before, after) => (c :: before, after)

/-- The segments of a message of at most `limit` characters. -/
def segmentsWithin : (limit : Nat) → List Char → List Segment
  | 0, message => [.plain message]
  | limit + 1, message =>
      match cutAt? openingTag message with
      | none => [.plain message]
      | some (before, inside) =>
          match cutAt? closingTag inside with
          | none => [.plain message]
          | some (suggestion, after) =>
              .plain before :: .suggestion suggestion :: segmentsWithin limit after

/--
The segments of a message: an opening tag and the first closing tag after it
enclose a suggestion.
-/
def segments (message : List Char) : List Segment :=
  segmentsWithin message.length message

namespace Segment

/-- The suggestion of a segment without the blanks around it. -/
def suggestion? : Segment → Option String
  | plain _ => none
  | suggestion characters => some (String.ofList (Text.dropBlanksAround characters))

/-- A segment as it is shown: suggestions stand between single quotes. -/
def shown : Segment → List Char
  | plain characters => characters
  | suggestion characters => '\'' :: Text.dropBlanksAround characters ++ ['\'']

end Segment

/-- The suggestions of a message in order. -/
def suggestionsOf (message : String) : List String :=
  (segments message.toList).filterMap Segment.suggestion?

/-- A message as it is shown. -/
def displayOf (message : String) : String :=
  String.ofList ((segments message.toList).flatMap Segment.shown)

/-- A list with the elements of another one added that are not in it yet. -/
def appendNew (known more : List String) : List String :=
  more.foldl (fun known item => if known.contains item then known else known ++ [item]) known

end ProseRules
