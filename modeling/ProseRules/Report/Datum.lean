import ProseRules.Failure

namespace ProseRules

/-!
# Further data

An entry of a report may be given data of any kind. They are made plain, so that
they consist of null, truth values, numbers, texts, lists, and mappings with texts
for keys: tuples and sets become lists, and all else becomes the text that it is
written as. Of a key and of an object of another kind nothing but this text counts,
and some of them cannot be written.
-/

/-- A key of a mapping. -/
inductive Datum.Key where
  | text (name : String)
  /-- Another key, by the outcome of writing it. -/
  | other (written : Except Failure String)

/-- Data of any kind. -/
inductive Datum where
  | null
  | bool (b : Bool)
  | int (n : Int)
  | real (x : Real64)
  | text (s : String)
  | list (elements : List Datum)
  | tuple (elements : List Datum)
  | set (elements : List Datum)
  | mapping (entries : List (Datum.Key × Datum))
  /-- An object of another kind, by the outcome of writing it. -/
  | other (written : Except Failure String)

namespace Datum

namespace Key

/-- The key that a value is. -/
def ofValue : Value → Key
  | .text name => text name
  | value => other value.shown

/-- The text of a key, or why it cannot be written. -/
def written : Key → Except Failure String
  | text name => .ok name
  | other written => written

end Key

mutual

/-- The data that a value is. -/
def ofValue : Value → Datum
  | .null => null
  | .bool b => bool b
  | .int n => int n
  | .real x => real x
  | .text s => text s
  | .list elements => list (ofValues elements)
  | .tuple elements => tuple (ofValues elements)
  | .set elements => set (ofValues elements)
  | .mapping entries => mapping (ofEntries entries)
  | .bytes content => other (Value.bytes content).shown
  | .date day => other (Value.date day).shown
  | .moment time => other (Value.moment time).shown

/-- The data that several values are. -/
def ofValues : List Value → List Datum
  | [] => []
  | first :: rest => ofValue first :: ofValues rest

/-- The entries of a mapping as data. -/
def ofEntries : List (Value × Value) → List (Key × Datum)
  | [] => []
  | (key, value) :: rest => (.ofValue key, ofValue value) :: ofEntries rest

end

mutual

/-- The plain form of data. -/
def plain : Datum → Except Failure Value
  | null => .ok .null
  | bool b => .ok (.bool b)
  | int n => .ok (.int n)
  | real x => .ok (.real x)
  | text s => .ok (.text s)
  | list elements | tuple elements | set elements => (plainElements elements).map .list
  | mapping entries =>
      (plainEntries entries).map fun entries => .mapping (Value.update [] entries)
  | other written => written.map .text

/-- The plain forms of several data. -/
def plainElements : List Datum → Except Failure (List Value)
  | [] => .ok []
  | first :: rest => do return (← plain first) :: (← plainElements rest)

/-- The entries of a mapping with texts for keys and plain values. -/
def plainEntries : List (Key × Datum) → Except Failure (List (Value × Value))
  | [] => .ok []
  | (key, datum) :: rest => do
      let name ← key.written
      let value ← plain datum
      return (.text name, value) :: (← plainEntries rest)

end

end Datum

end ProseRules
