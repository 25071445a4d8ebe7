import ProseRules.Proofs.Value.Fields
import ProseRules.Report.Entry

namespace ProseRules

/-!
# Writing a report

A report is written up to the first whole number with too many digits. Without such a number
the whole of it is written: one list that has the text of each entry on lines of its own.
-/

namespace Value

namespace Written

@[simp] theorem text_whole
    (text : String) :
    (whole text).text = text :=
  rfl

@[simp] theorem failure_whole
    (text : String) :
    (whole text).failure = none :=
  rfl

variable {first second : Written}

/-- What comes after a writing that fails is not written. -/
theorem andThen_of_failure
    {failure : Failure}
    (fails : first.failure = some failure) :
    first.andThen second = first := by
  unfold andThen
  rw [fails]
  cases first
  cases fails
  rfl

theorem andThen_of_success
    (succeeds : first.failure = none) :
    first.andThen second = ⟨first.text ++ second.text, second.failure⟩ := by
  unfold andThen
  rw [succeeds]

@[simp] theorem whole_andThen
    (text : String) :
    (whole text).andThen second = ⟨text ++ second.text, second.failure⟩ :=
  rfl

@[simp] theorem failure_andThen :
    (first.andThen second).failure = first.failure.or second.failure := by
  cases fails : first.failure with
  | some failure =>
      rw [andThen_of_failure fails, fails, Option.some_or]
  | none =>
      rw [andThen_of_success fails, Option.none_or]

end Written

mutual

/-- No whole number in the value has more digits than can be written. -/
def isWritable : Value → Bool
  | int n => n.natAbs < Text.digitBound
  | list elements | tuple elements | set elements => areWritable elements
  | mapping entries => areWritableEntries entries
  | _ => true

/-- No whole number in the values has more digits than can be written. -/
def areWritable : List Value → Bool
  | [] => true
  | first :: rest => isWritable first && areWritable rest

/-- No whole number in the values of the entries has more digits than can be written. -/
def areWritableEntries : List (Value × Value) → Bool
  | [] => true
  | (_, value) :: rest => isWritable value && areWritableEntries rest

end

theorem areWritable_iff
    {elements : List Value} :
    areWritable elements = true ↔ ∀ element ∈ elements, element.isWritable = true := by
  induction elements with
  | nil =>
      simp [areWritable]
  | cons first rest inductionHypothesis =>
      simp [areWritable, inductionHypothesis]

theorem areWritableEntries_iff
    {entries : List (Value × Value)} :
    areWritableEntries entries = true ↔ ∀ entry ∈ entries, entry.2.isWritable = true := by
  induction entries with
  | nil =>
      simp [areWritableEntries]
  | cons first rest inductionHypothesis =>
      simp [areWritableEntries, inductionHypothesis]

/-- What ends the writing of a value. -/
def writingFailure (isWritable : Bool) : Option Failure :=
  if isWritable then none else some (.badValue (.integer .tooLongToWrite))

theorem writingFailure_and
    (first second : Bool) :
    writingFailure (first && second) = (writingFailure first).or (writingFailure second) := by
  cases first <;> rfl

mutual

/-- Writing a value fails exactly at a whole number with too many digits. -/
theorem failure_writtenAt
    (depth : Nat)
    (lead : String) :
    (value : Value) → (writtenAt depth lead value).failure = writingFailure value.isWritable
  | null | bool _ | real _ | text _ | bytes _ | date _ | moment _ => rfl
  | int n => by
      rw [writtenAt, wholeNumber, isWritable]
      by_cases short : n.natAbs < Text.digitBound
      · rw [if_pos short, decide_eq_true short]
        rfl
      · rw [if_neg short, decide_eq_false short]
        rfl
  | list [] | tuple [] | set [] | mapping [] => rfl
  | list (first :: rest) | tuple (first :: rest) | set (first :: rest) => by
      simp [writtenAt, isWritable, failure_writtenElements]
  | mapping (first :: rest) => by
      simp [writtenAt, isWritable, failure_writtenEntries]

theorem failure_writtenElements
    (depth : Nat)
    (lead : String) :
    (elements : List Value) →
      (writtenElements depth lead elements).failure = writingFailure (areWritable elements)
  | [] => rfl
  | first :: rest => by
      rw [writtenElements, areWritable, Written.failure_andThen, failure_writtenAt,
        failure_writtenElements, writingFailure_and]

theorem failure_writtenEntries
    (depth : Nat)
    (lead : String) :
    (entries : List (Value × Value)) →
      (writtenEntries depth lead entries).failure = writingFailure (areWritableEntries entries)
  | [] => rfl
  | (key, value) :: rest => by
      rw [writtenEntries, areWritableEntries, Written.whole_andThen, Written.failure_andThen,
        failure_writtenAt, failure_writtenEntries, writingFailure_and]

end

theorem failure_writtenAt_of_writable
    {value : Value}
    (writable : value.isWritable = true)
    (depth : Nat)
    (lead : String) :
    (writtenAt depth lead value).failure = none := by
  rw [failure_writtenAt, writable]
  rfl

/-- The text of a value that can be written. -/
def textAt (depth : Nat) (value : Value) : String :=
  (writtenAt depth "" value).text

/-- What leads to a value stands before its text. -/
theorem text_writtenAt
    {value : Value}
    (writable : value.isWritable = true)
    (depth : Nat)
    (lead : String) :
    (writtenAt depth lead value).text = lead ++ value.textAt depth := by
  unfold textAt
  cases value with
  | int n =>
      have short : n.natAbs < Text.digitBound := by
        simpa [isWritable] using writable
      simp [writtenAt, wholeNumber, short]
  | list elements | tuple elements | set elements =>
      cases elements <;> simp [writtenAt]
  | mapping entries =>
      cases entries <;> simp [writtenAt]
  | _ =>
      simp [writtenAt]

/-- Values that can be written are, one after the other with separators in between. -/
theorem text_writtenElements
    {elements : List Value}
    (writable : areWritable elements = true)
    (some : elements ≠ [])
    (depth : Nat)
    (lead : String) :
    (writtenElements depth lead elements).text =
      lead ++ (separator depth).intercalate (elements.map (textAt depth)) := by
  induction elements generalizing lead with
  | nil =>
      exact absurd rfl some
  | cons first rest inductionHypothesis =>
      obtain ⟨firstWritable, restWritable⟩ :
          first.isWritable = true ∧ areWritable rest = true := by
        simpa [areWritable] using writable
      rw [writtenElements,
        Written.andThen_of_success (failure_writtenAt_of_writable firstWritable _ _),
        text_writtenAt firstWritable]
      cases rest with
      | nil =>
          simp [writtenElements, String.intercalate_singleton]
      | cons second rest =>
          rw [inductionHypothesis restWritable (List.cons_ne_nil _ _)]
          simp [String.intercalate_cons_cons, String.append_assoc]

/-- A list of values that can be written has each on a line of its own, between brackets. -/
theorem textAt_list
    {elements : List Value}
    (writable : areWritable elements = true)
    (some : elements ≠ [])
    (depth : Nat) :
    textAt depth (.list elements) =
      "[" ++ lineStart (depth + 1)
        ++ (separator (depth + 1)).intercalate (elements.map (textAt (depth + 1)))
        ++ lineStart depth ++ "]" := by
  have succeed (lead : String) :
      (writtenElements (depth + 1) lead elements).failure = none := by
    rw [failure_writtenElements, writable]
    rfl
  have written := text_writtenElements writable some (depth + 1) ("[" ++ lineStart (depth + 1))
  cases elements with
  | nil =>
      exact absurd rfl some
  | cons first rest =>
      rw [textAt, writtenAt, Written.whole_andThen, Written.andThen_of_success (succeed _), written]
      · simp [String.append_assoc]
      · simp

end Value

namespace ReportEntry

variable {entries : List ReportEntry}

/-- No whole number in the entry has more digits than can be written. -/
def IsWritable (entry : ReportEntry) : Prop :=
  ∀ field ∈ entry, field.2.isWritable = true

/-- The text of an entry as an element of a report. -/
def text (entry : ReportEntry) : String :=
  Value.textAt 1 (.mapping entry)

/-- The text of one list with an element for each entry. -/
def listText : List ReportEntry → String
  | [] => "[]"
  | entries =>
      "[" ++ Value.lineStart 1 ++ (Value.separator 1).intercalate (entries.map text)
        ++ Value.lineStart 0 ++ "]"

theorem areWritable_map_mapping_iff :
    Value.areWritable (entries.map Value.mapping) = true ↔
      ∀ entry ∈ entries, entry.IsWritable := by
  simp [Value.areWritable_iff, IsWritable, Value.isWritable, Value.areWritableEntries_iff]

/-- A report whose numbers can all be written is one list of its entries. -/
theorem report_of_writable
    (writable : ∀ entry ∈ entries, entry.IsWritable) :
    report entries = ⟨listText entries ++ "\n", none⟩ := by
  have elements := areWritable_map_mapping_iff.mpr writable
  have succeeds : (Value.list (entries.map Value.mapping)).written.failure = none :=
    Value.failure_writtenAt_of_writable (by simpa [Value.isWritable] using elements) 0 ""
  have isText : (Value.list (entries.map Value.mapping)).written.text = listText entries := by
    cases entries with
    | nil =>
        rfl
    | cons first rest =>
        have whole := Value.textAt_list elements (by simp) 0
        rw [List.map_map] at whole
        exact whole
  unfold report
  rw [Value.Written.andThen_of_success succeeds, isText]
  rfl

/-- A report with a number that cannot be written fails at that number. -/
theorem failure_report_of_not_writable
    {entry : ReportEntry}
    (member : entry ∈ entries)
    (unwritable : ¬entry.IsWritable) :
    (report entries).failure = some (.badValue (.integer .tooLongToWrite)) := by
  have elements : Value.areWritable (entries.map Value.mapping) = false := by
    rw [Bool.eq_false_iff]
    exact fun writable => unwritable (areWritable_map_mapping_iff.mp writable entry member)
  have fails :
      (Value.list (entries.map Value.mapping)).written.failure =
        some (.badValue (.integer .tooLongToWrite)) := by
    unfold Value.written
    rw [Value.failure_writtenAt, Value.isWritable, elements]
    rfl
  unfold report
  rw [Value.Written.andThen_of_failure fails, fails]

/-- The name of a text is added after all other fields of an entry. -/
theorem withSource_eq
    {entry : ReportEntry}
    (unnamed : ∀ field ∈ entry, field.1.equals (.text "source") = false)
    (source : String) :
    entry.withSource source = entry ++ [(.text "source", .text source)] :=
  Value.insert_eq_append unnamed

end ReportEntry

end ProseRules
