import ProseRules.Proofs.Report.PlainForm
import ProseRules.Report.Entry

namespace ProseRules.ReportEntry

/-!
# Further data of an entry

There is an entry with further data exactly if its fields can be made and the data can be written.
It holds the data under their names and in plain form.
-/

/-- The data are found under their names in plain form; of data with one name the last ones. -/
def HoldsPlainly (entry : ReportEntry) (further : List (String × Datum)) : Prop :=
  ∀ item ∈ further,
    ∃ datum ∈ further.reverse.lookup item.1,
      ∃ form ∈ Value.field? item.1 entry, Datum.IsPlainFormOf form datum

section Data

variable {ruleType : Value} {parts : EntryParts} {further : List (String × Datum)}

theorem plainData_eq_ok_iff
    {entries : List (Value × Value)} :
    plainData further = .ok entries ↔
      ∃ named,
        List.Forall₂ (fun given item => given.1 = item.1 ∧ given.2.plain = .ok item.2)
            further named ∧
          Value.ofNamed named = entries := by
  rw [plainData, Datum.plainEntries_eq_ok_iff]
  simp only [List.forall₂_map_left_iff, Datum.Key.written, Except.ok.injEq]

theorem exists_plainData_iff :
    (∃ entries, plainData further = .ok entries) ↔ ∀ item ∈ further, item.2.CanBeWritten := by
  constructor
  · rintro ⟨entries, areEntries⟩ item isGiven
    obtain ⟨named, areForms, _⟩ := plainData_eq_ok_iff.mp areEntries
    obtain ⟨form, _, _, isForm⟩ := Outcome.exists_related_of_mem areForms isGiven
    exact Datum.exists_plain_iff_canBeWritten.mp ⟨form.2, isForm⟩
  · intro canBeWritten
    have haveForms : ∀ item ∈ further, ∃ form, item.2.plain = .ok form :=
      fun item isGiven => Datum.exists_plain_iff_canBeWritten.mpr (canBeWritten item isGiven)
    choose! form isForm using haveForms
    refine ⟨_, plainData_eq_ok_iff.mpr ⟨further.map fun item => (item.1, form item), ?_, rfl⟩⟩
    rw [List.forall₂_map_right_iff, List.forall₂_same]
    exact fun item isGiven => ⟨rfl, isForm item isGiven⟩

/-- The plain form of the last data with a name is the last one with this name. -/
theorem exists_lookup_of_forall₂
    {named : List (String × Value)}
    (areForms :
      List.Forall₂ (fun given item => given.1 = item.1 ∧ given.2.plain = .ok item.2)
        further named)
    {name : String}
    {datum : Datum}
    (isLast : further.lookup name = some datum) :
    ∃ form, named.lookup name = some form ∧ datum.plain = .ok form := by
  induction areForms with
  | nil =>
      cases isLast
  | @cons given item _ _ isPart _ inductionHypothesis =>
      obtain ⟨key, first⟩ := given
      obtain ⟨_, form⟩ := item
      obtain ⟨rfl, isForm⟩ := isPart
      by_cases isKey : key = name
      · subst isKey
        rw [List.lookup_cons_self] at isLast ⊢
        cases isLast
        exact ⟨form, rfl, isForm⟩
      · have isOther : (name == key) = false := beq_false_of_ne (Ne.symm isKey)
        rw [List.lookup_cons, isOther] at isLast ⊢
        exact inductionHypothesis isLast

theorem holdsPlainly_of_ofParts
    {entry : ReportEntry}
    (isEntry : ofParts ruleType parts = .ok entry) :
    entry.HoldsPlainly parts.further := by
  obtain ⟨fields, _, isRest⟩ := Outcome.bind_eq_ok_iff.mp isEntry
  obtain ⟨entries, areEntries, isUpdate⟩ := Outcome.bind_eq_ok_iff.mp isRest
  obtain ⟨named, areForms, rfl⟩ := plainData_eq_ok_iff.mp areEntries
  obtain rfl := Except.ok.inj isUpdate
  intro item isGiven
  have isNamed : (parts.further.reverse.lookup item.1).isSome = true :=
    List.lookup_isSome_iff.mpr ⟨item, List.mem_reverse.mpr isGiven, beq_self_eq_true item.1⟩
  obtain ⟨datum, isLast⟩ := Option.isSome_iff_exists.mp isNamed
  obtain ⟨form, isNamedForm, isForm⟩ := exists_lookup_of_forall₂ (List.rel_reverse areForms) isLast
  refine ⟨datum, isLast, form, ?_, Datum.isPlainFormOf_of_plain isForm⟩
  rw [Value.field?_update_ofNamed, isNamedForm]
  rfl

theorem exists_ofParts_iff :
    (∃ entry, ofParts ruleType parts = .ok entry) ↔
      (∃ fields, fieldsOf ruleType parts = .ok fields) ∧
        ∀ item ∈ parts.further, item.2.CanBeWritten := by
  rw [← exists_plainData_iff]
  constructor
  · rintro ⟨entry, isEntry⟩
    obtain ⟨fields, areFields, isRest⟩ := Outcome.bind_eq_ok_iff.mp isEntry
    obtain ⟨entries, areEntries, _⟩ := Outcome.bind_eq_ok_iff.mp isRest
    exact ⟨⟨fields, areFields⟩, entries, areEntries⟩
  · rintro ⟨⟨fields, areFields⟩, entries, areEntries⟩
    exact ⟨_, Outcome.bind_eq_ok_iff.mpr
      ⟨fields, areFields, Outcome.bind_eq_ok_iff.mpr ⟨entries, areEntries, rfl⟩⟩⟩

end Data

/-- A set, an object, and a mapping in which two keys have the same text. -/
def mixedData : Datum :=
  .tuple
    [.set [.int 2],
      .mapping
        [(.ofValue .null, .int 1), (.other (.ok "(1, 2)"), .other (.ok "b''")),
          (.text "None", .tuple [.int 3])]]

/-- An entry that tells nothing but further data. -/
def mixedParts : EntryParts where
  sentence := .text ""
  sentenceIndex := .int 0
  message := .text ""
  suggestions := .list []
  further := [("data", mixedData)]

/-- Sets and tuples become lists, and the later one of two entries with one name is kept. -/
def mixedForm : Value :=
  .list
    [.list [.int 2],
      .mapping [(.text "None", .list [.int 3]), (.text "(1, 2)", .text "b''")]]

/-- A mapping with a number as its key. -/
def numberKeyData (n : Int) : Datum :=
  .ofValue (.mapping [(.int n, .text "x")])

theorem plain_numberKeyData
    {n : Int}
    (tooLong : (Value.int n).canBeShown = false) :
    (numberKeyData n).plain = .error .tooLongToWrite := by
  have isUnwritten : (Value.int n).shown = .error .tooLongToWrite := by
    rw [Value.shown, tooLong]
    rfl
  simp [numberKeyData, Datum.ofValue, Datum.ofEntries, Datum.plain, Datum.plainEntries,
    Datum.Key.ofValue, Datum.Key.written, isUnwritten, bind, Except.bind, Except.map]

/-- A whole number of 4335 digits. -/
def longKey : Int :=
  Int.ofNat (Nat.pow 16 3600)

end ProseRules.ReportEntry
