import ProseRules.Failure

namespace ProseRules

/-!
# Reading a value as a number, a list or a mapping

A definition may give a value of another kind than the one that is wanted. These
readings say which kinds still do and with which failure the others are refused.
-/

namespace Value

/-- The parts of a value: characters of a text, keys of a mapping, elements of a list. -/
def elements : Value → Except Failure (List Value)
  | text s => .ok (s.toList.map fun c => text (String.singleton c))
  | bytes content => .ok (content.map fun b => int b.toNat)
  | list parts | tuple parts | set parts => .ok parts
  | mapping entries => .ok (entries.map (·.1))
  | _ => .error .wrongKind

/-- The parts of a value that counts as a yes; any other value has none. -/
def elementsIfAny (value : Value) : Except Failure (List Value) :=
  if value.isTruthy then value.elements else .ok []

/-- The characters that bytes stand for in a number; a byte beyond them is no part of one. -/
def numberCharacters (content : List UInt8) : List Char :=
  content.map fun b => if b < 128 then Char.ofNat b.toNat else '\x00'

/-- The whole number that a number without a fraction, a truth value or a text stands for. -/
def toInteger : Value → Except Failure Int
  | bool b => .ok (if b then 1 else 0)
  | int n => .ok n
  | real x =>
      match x.truncated?, x.compareInt? 0 with
      | some n, _ => .ok n
      | none, none => .error (.badValue .undefinedNumber)
      | none, some _ => .error .tooLarge
  | text s => (Text.readInteger s.toList).mapError fun flaw => .badValue (.integer flaw)
  | bytes content =>
      (Text.readInteger (numberCharacters content)).mapError fun flaw =>
        match flaw with
        | .notANumber _ => .badValue (.integerBytes content)
        | flaw => .badValue (.integer flaw)
  | _ => .error .wrongKind

/-- The entry that an element with two parts stands for. -/
def entryOf (index : Nat) (element : Value) : Except Failure (Value × Value) := do
  match ← element.elements with
  | [key, value] => if key.isKey then return (key, value) else throw .wrongKind
  | parts => throw (.badValue (.notAPair index parts.length))

/-- The entries of a mapping, or those that a list of pairs stands for. -/
def toEntries : Value → Except Failure (List (Value × Value))
  | mapping entries => .ok entries
  | value => do
      let parts ← value.elements
      parts.zipIdx.mapM fun (part, index) => entryOf index part

/-- The value of a text key, or a usual value if there is none. -/
def fieldOr (name : String) (usual : Value) (entries : List (Value × Value)) : Value :=
  (field? name entries).getD usual

/-- The order in which sorted keys are shown. -/
def notAfter (first second : Value) : Bool :=
  first.compare? second ≠ some .gt

/-- Some value has no order with one that follows it. -/
def hasUnordered : List Value → Bool
  | [] => false
  | first :: rest => rest.any (fun second => (first.compare? second).isNone) || hasUnordered rest

/-- The values in order; values without an order among them are refused. -/
def sorted (values : List Value) : Except Failure (List Value) :=
  if hasUnordered values then .error .wrongKind else .ok (values.mergeSort notAfter)

/-- The keys of a mapping that are none of the known names. -/
def unknownKeys (known : List String) (entries : List (Value × Value)) : List Value :=
  (entries.map (·.1)).filter fun key =>
    match key.asText? with
    | some name => !known.contains name
    | none => true

end Value

end ProseRules
