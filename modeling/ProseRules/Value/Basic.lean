import ProseRules.Text.Case
import ProseRules.Text.Integer
import ProseRules.Value.Calendar

namespace ProseRules

/-!
# Values of the data formats

Rule definitions and exception lists are written in a data format whose scalars,
lists and mappings may stand where a text is expected. A rule keeps such values
as they are, so they have a type of their own. `literal` writes a value so that
its kind can be seen; `display` writes a text as it is.
-/

/-- A value of the data formats. -/
inductive Value where
  | null
  | bool (b : Bool)
  | int (n : Int)
  | real (x : Real64)
  | text (s : String)
  | bytes (content : List UInt8)
  | date (day : Date)
  | moment (time : Moment)
  | list (elements : List Value)
  | tuple (elements : List Value)
  | set (elements : List Value)
  | mapping (entries : List (Value × Value))
  deriving Repr, Inhabited

namespace Value

/-- The value counts as a yes: neither null, nor false, nor zero, nor empty. -/
def isTruthy : Value → Bool
  | null => false
  | bool b => b
  | int n => n ≠ 0
  | real x => x.isNonzero
  | text s => s ≠ ""
  | bytes content => !content.isEmpty
  | date _ | moment _ => true
  | list elements | tuple elements | set elements => !elements.isEmpty
  | mapping entries => !entries.isEmpty

/-- The number that a number or a truth value stands for. -/
inductive Quantity where
  | whole (n : Int)
  | binary (x : Real64)

/-- The quantity of a value, if it has one. -/
def quantity? : Value → Option Quantity
  | bool b => some (.whole (if b then 1 else 0))
  | int n => some (.whole n)
  | real x => some (.binary x)
  | _ => none

/-- The comparison of two quantities, none if one has no value. -/
def Quantity.compare? : Quantity → Quantity → Option Ordering
  | whole m, whole n => some (compare m n)
  | whole m, binary y => (y.compareInt? m).map Ordering.swap
  | binary x, whole n => x.compareInt? n
  | binary x, binary y => x.compare? y

/-- Two scalars are equal; numbers and truth values compare by their quantities. -/
def equalScalars (first second : Value) : Bool :=
  match first.quantity?, second.quantity? with
  | some left, some right => left.compare? right = some .eq
  | some _, none | none, some _ => false
  | none, none =>
      match first, second with
      | null, null => true
      | text s, text t => s = t
      | bytes b, bytes c => b = c
      | date d, date e => d = e
      | moment m, moment n => m = n
      | _, _ => false

mutual

/-- Two values are equal. The order of a set or mapping does not count. -/
def equals : Value → Value → Bool
  | list left, list right => equalLists left right
  | tuple left, tuple right => equalLists left right
  | set left, set right => left.length = right.length && includedIn left right
  | mapping left, mapping right =>
      left.length = right.length && entriesIncludedIn left right
  | list _, _ | tuple _, _ | set _, _ | mapping _, _ => false
  | null, right => equalScalars null right
  | bool b, right => equalScalars (bool b) right
  | int n, right => equalScalars (int n) right
  | real x, right => equalScalars (real x) right
  | text s, right => equalScalars (text s) right
  | bytes b, right => equalScalars (bytes b) right
  | date d, right => equalScalars (date d) right
  | moment m, right => equalScalars (moment m) right

/-- Two lists have equal elements in order. -/
def equalLists : List Value → List Value → Bool
  | [], [] => true
  | first :: left, second :: right => equals first second && equalLists left right
  | _, _ => false

/-- Every value equals one of the others. -/
def includedIn : List Value → List Value → Bool
  | [], _ => true
  | first :: left, right => right.any (fun second => equals first second) && includedIn left right

/-- Every entry equals one of the others. -/
def entriesIncludedIn : List (Value × Value) → List (Value × Value) → Bool
  | [], _ => true
  | (key, value) :: left, right =>
      right.any (fun entry => equals key entry.1 && equals value entry.2)
        && entriesIncludedIn left right

end

/-- The value can be a key of a mapping or an element of a set. -/
def isKey : Value → Bool
  | list _ | set _ | mapping _ => false
  | tuple elements => keys elements
  | _ => true
where
  keys : List Value → Bool
    | [] => true
    | first :: rest => isKey first && keys rest

mutual

/-- The literal of a value. -/
def literal : Value → String
  | null => "None"
  | bool b => if b then "True" else "False"
  | int n => toString n
  | real x => x.render
  | text s => Text.quoted s
  | bytes content => Text.quotedBytes content
  | date day => day.literal
  | moment time => time.literal
  | list elements => "[" ++ String.intercalate ", " (literals elements) ++ "]"
  | tuple [element] => "(" ++ literal element ++ ",)"
  | tuple elements => "(" ++ String.intercalate ", " (literals elements) ++ ")"
  | set [] => "set()"
  | set elements => "\x7b" ++ String.intercalate ", " (literals elements) ++ "\x7d"
  | mapping entries => "\x7b" ++ String.intercalate ", " (entryLiterals entries) ++ "\x7d"

/-- The literals of several values. -/
def literals : List Value → List String
  | [] => []
  | first :: rest => literal first :: literals rest

/-- The literals of several entries. -/
def entryLiterals : List (Value × Value) → List String
  | [] => []
  | (key, value) :: rest => (literal key ++ ": " ++ literal value) :: entryLiterals rest

end

/-- The value as a text for reading; a text is shown without quotes. -/
def display : Value → String
  | text s => s
  | date day => day.text
  | moment time => time.text
  | value => value.literal

mutual

/-- No whole number in the value has too many digits to be written. -/
def canBeShown : Value → Bool
  | int n => n.natAbs < Text.digitBound
  | list elements | tuple elements | set elements => canAllBeShown elements
  | mapping entries => canEntriesBeShown entries
  | _ => true

/-- No whole number in the values has too many digits to be written. -/
def canAllBeShown : List Value → Bool
  | [] => true
  | first :: rest => canBeShown first && canAllBeShown rest

/-- No whole number in the keys and values has too many digits to be written. -/
def canEntriesBeShown : List (Value × Value) → Bool
  | [] => true
  | (key, value) :: rest => canBeShown key && canBeShown value && canEntriesBeShown rest

end

theorem canBeShown_int_iff
    {n : Int} :
    (int n).canBeShown = true ↔ n.natAbs < Text.digitBound := by
  rw [canBeShown, decide_eq_true_eq]

theorem canBeShown_int_eq_false_iff
    {n : Int} :
    (int n).canBeShown = false ↔ Text.digitBound ≤ n.natAbs := by
  rw [← Bool.not_eq_true, canBeShown_int_iff, Nat.not_lt]

theorem canAllBeShown_iff
    {values : List Value} :
    canAllBeShown values = true ↔ ∀ value ∈ values, value.canBeShown = true := by
  induction values with
  | nil =>
      simp [canAllBeShown]
  | cons first rest inductionHypothesis =>
      rw [canAllBeShown, Bool.and_eq_true, inductionHypothesis, List.forall_mem_cons]

/-- The value of the first entry whose key equals the given one. -/
def lookup? (key : Value) (entries : List (Value × Value)) : Option Value :=
  (entries.find? fun entry => equals entry.1 key).map (·.2)

/-- The value of a text key. -/
def field? (name : String) (entries : List (Value × Value)) : Option Value :=
  lookup? (text name) entries

/-- The entries with a key set: a new key goes to the end, a present one keeps its place. -/
def insert (key value : Value) : List (Value × Value) → List (Value × Value)
  | [] => [(key, value)]
  | entry :: rest =>
      if equals entry.1 key then (entry.1, value) :: rest else entry :: insert key value rest

/-- The entries with those of another mapping set one after the other. -/
def update (entries more : List (Value × Value)) : List (Value × Value) :=
  more.foldl (fun entries entry => insert entry.1 entry.2 entries) entries

/-- The keys of dates and moments in order of time. -/
def keyCompare : List Int → List Int → Ordering
  | [], [] => .eq
  | [], _ => .lt
  | _, [] => .gt
  | m :: left, n :: right => (compare m n).then (keyCompare left right)

/-- The order of two values, none if their kinds have none. -/
def compare? (first second : Value) : Option Ordering :=
  match first.quantity?, second.quantity? with
  | some left, some right => some ((left.compare? right).getD .gt)
  | _, _ =>
      match first, second with
      | text s, text t => some (compare s t)
      | bytes b, bytes c => some (keyCompare (b.map (·.toNat)) (c.map (·.toNat)))
      | date d, date e => some (keyCompare d.key e.key)
      | moment m, moment n => some (keyCompare m.key n.key)
      | _, _ => none

/-- The value is a text. -/
def asText? : Value → Option String
  | text s => some s
  | _ => none

end Value

end ProseRules
