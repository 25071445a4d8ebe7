import Mathlib.Data.List.Induction
import ProseRules.Definition.Export
import ProseRules.Value.Conversion

namespace ProseRules

/-!
# Looking up fields with names

The entries of a written definition have texts as keys. A field is found by
comparing names, and an entry that is left out is passed over.
-/

namespace Value

@[simp] theorem equals_text
    (first second : String) :
    equals (.text first) (.text second) = decide (first = second) := by
  simp [equals, equalScalars, quantity?]

@[simp] theorem field?_nil
    (name : String) :
    field? name [] = none :=
  rfl

@[simp] theorem field?_cons
    (name key : String)
    (value : Value)
    (entries : List (Value × Value)) :
    field? name ((.text key, value) :: entries) =
      if key = name then some value else field? name entries := by
  simp only [field?, lookup?, List.find?_cons, equals_text]
  by_cases sameName : key = name <;> simp [sameName]

/-- An entry that may be left out gives its value only if it is written. -/
@[simp] theorem field?_entryIf_append
    (name key : String)
    (condition : Bool)
    (value : Value)
    (entries : List (Value × Value)) :
    field? name (entryIf condition key value ++ entries) =
      if condition = true ∧ key = name then some value else field? name entries := by
  cases condition with
  | true =>
      simp [entryIf]
  | false =>
      simp [entryIf]

@[simp] theorem field?_entryIf
    (name key : String)
    (condition : Bool)
    (value : Value) :
    field? name (entryIf condition key value) =
      if condition = true ∧ key = name then some value else none := by
  simpa using field?_entryIf_append name key condition value []

/-- A value equals a text only if it is this text. -/
theorem equals_text_iff
    {value : Value}
    {text : String} :
    value.equals (.text text) = true ↔ value = .text text := by
  cases value <;> simp [equals, equalScalars, quantity?]

theorem text_equals_iff
    {text : String}
    {value : Value} :
    (Value.text text).equals value = true ↔ value = .text text := by
  cases value <;> simp [equals, equalScalars, quantity?, eq_comm]

/-! ## Setting fields -/

section Setting

variable {name : String} {key value : Value} {entries more : List (Value × Value)}

theorem field?_cons_of_eq :
    field? name ((.text name, value) :: entries) = some value := by
  simp

theorem field?_cons_of_ne
    (isOther : key ≠ .text name) :
    field? name ((key, value) :: entries) = field? name entries := by
  have notEqual := Bool.eq_false_iff.mpr (mt equals_text_iff.mp isOther)
  simp only [field?, lookup?, List.find?_cons, notEqual]

/-- A field that is set has its new value. -/
theorem field?_insert_self :
    field? name (insert (.text name) value entries) = some value := by
  induction entries with
  | nil =>
      exact field?_cons_of_eq
  | cons entry entries inductionHypothesis =>
      obtain ⟨present, old⟩ := entry
      by_cases isPresent : present = .text name
      · subst isPresent
        simp [insert]
      · rw [insert, if_neg (mt equals_text_iff.mp isPresent), field?_cons_of_ne isPresent,
          inductionHypothesis]

/-- Setting another key leaves a field as it is. -/
theorem field?_insert_of_ne
    (isOther : key ≠ .text name) :
    field? name (insert key value entries) = field? name entries := by
  induction entries with
  | nil =>
      exact field?_cons_of_ne isOther
  | cons entry entries inductionHypothesis =>
      obtain ⟨present, old⟩ := entry
      by_cases isPresent : present = .text name
      · subst isPresent
        rw [insert, if_neg (mt text_equals_iff.mp isOther), field?_cons_of_eq, field?_cons_of_eq]
      · rw [insert]
        split
        · rw [field?_cons_of_ne isPresent, field?_cons_of_ne isPresent]
        · rw [field?_cons_of_ne isPresent, field?_cons_of_ne isPresent, inductionHypothesis]

/-- Setting a field that is present adds no key. -/
theorem map_fst_insert
    (present : field? name entries ≠ none) :
    (insert (.text name) value entries).map (·.1) = entries.map (·.1) := by
  induction entries with
  | nil =>
      exact (present rfl).elim
  | cons entry entries inductionHypothesis =>
      obtain ⟨key, old⟩ := entry
      by_cases isKey : key = .text name
      · subst isKey
        simp [insert]
      · rw [field?_cons_of_ne isKey] at present
        rw [insert, if_neg (mt equals_text_iff.mp isKey), List.map_cons, List.map_cons,
          inductionHypothesis present]

/-- A new key goes to the end. -/
theorem insert_eq_append
    (missing : ∀ entry ∈ entries, entry.1.equals key = false) :
    insert key value entries = entries ++ [(key, value)] := by
  induction entries with
  | nil =>
      rfl
  | cons entry entries inductionHypothesis =>
      obtain ⟨isOther, laterMissing⟩ := List.forall_mem_cons.mp missing
      rw [insert, if_neg (Bool.eq_false_iff.mp isOther), inductionHypothesis laterMissing]
      rfl

/-- Setting a key makes no other key, and no value but the one that is set. -/
theorem forall_mem_insert
    {isKey isValue : Value → Prop}
    (old : ∀ entry ∈ entries, isKey entry.1 ∧ isValue entry.2)
    (keyHolds : isKey key)
    (valueHolds : isValue value) :
    ∀ entry ∈ insert key value entries, isKey entry.1 ∧ isValue entry.2 := by
  induction entries with
  | nil =>
      exact List.forall_mem_singleton.mpr ⟨keyHolds, valueHolds⟩
  | cons entry entries inductionHypothesis =>
      obtain ⟨entryHolds, laterHold⟩ := List.forall_mem_cons.mp old
      rw [insert]
      split
      · exact List.forall_mem_cons.mpr ⟨⟨entryHolds.1, valueHolds⟩, laterHold⟩
      · exact List.forall_mem_cons.mpr ⟨entryHolds, inductionHypothesis laterHold⟩

/-- An update takes its keys and values from both mappings. -/
theorem forall_mem_update
    (isKey isValue : Value → Prop)
    (old : ∀ entry ∈ entries, isKey entry.1 ∧ isValue entry.2)
    (new : ∀ entry ∈ more, isKey entry.1 ∧ isValue entry.2) :
    ∀ entry ∈ update entries more, isKey entry.1 ∧ isValue entry.2 := by
  induction more generalizing entries with
  | nil =>
      exact old
  | cons setting more inductionHypothesis =>
      obtain ⟨⟨keyHolds, valueHolds⟩, laterHold⟩ := List.forall_mem_cons.mp new
      exact inductionHypothesis (forall_mem_insert old keyHolds valueHolds) laterHold

theorem update_concat
    (entry : Value × Value) :
    update entries (more ++ [entry]) = insert entry.1 entry.2 (update entries more) :=
  List.foldl_append

/-- Mappings without a common key are written one after the other. -/
theorem update_eq_append
    (distinct :
      (entries ++ more).Pairwise fun first second => first.1.equals second.1 = false) :
    update entries more = entries ++ more := by
  induction more using List.reverseRecOn with
  | nil =>
      exact (List.append_nil entries).symm
  | append_singleton more entry inductionHypothesis =>
      rw [← List.append_assoc] at distinct ⊢
      obtain ⟨othersDistinct, _, fromOthers⟩ := List.pairwise_append.mp distinct
      rw [update_concat, inductionHypothesis othersDistinct]
      exact insert_eq_append fun present member => fromOthers present member entry (by simp)

/-- Of several settings of a field the last one counts. -/
theorem field?_update :
    field? name (update entries more) = (field? name more.reverse).or (field? name entries) := by
  induction more using List.reverseRecOn with
  | nil =>
      rfl
  | append_singleton more entry inductionHypothesis =>
      obtain ⟨key, value⟩ := entry
      rw [update_concat, List.reverse_concat]
      by_cases isKey : key = .text name
      · subst isKey
        rw [field?_insert_self, field?_cons_of_eq, Option.some_or]
      · rw [field?_insert_of_ne isKey, field?_cons_of_ne isKey, inductionHypothesis]

theorem field?_eq_none_iff :
    field? name entries = none ↔ .text name ∉ entries.map (·.1) := by
  rw [field?, lookup?, Option.map_eq_none_iff, List.find?_eq_none]
  simp only [equals_text_iff, List.mem_map, not_exists, not_and]

/-- Setting a field that is missing adds its key at the end. -/
theorem map_fst_insert_of_missing
    (missing : field? name entries = none) :
    (insert (.text name) value entries).map (·.1) = entries.map (·.1) ++ [.text name] := by
  rw [insert_eq_append, List.map_append, List.map_singleton]
  intro entry member
  refine Bool.eq_false_iff.mpr (mt equals_text_iff.mp fun isKey => ?_)
  exact field?_eq_none_iff.mp missing (isKey ▸ List.mem_map_of_mem member)

/-- A field is missing after an update if neither mapping has it. -/
theorem field?_update_eq_none
    (missing : field? name entries = none)
    (notSet : field? name more = none) :
    field? name (update entries more) = none := by
  induction more generalizing entries with
  | nil =>
      exact missing
  | cons entry more inductionHypothesis =>
      obtain ⟨key, value⟩ := entry
      by_cases isKey : key = .text name
      · subst isKey
        rw [field?_cons_of_eq] at notSet
        cases notSet
      · rw [field?_cons_of_ne isKey] at notSet
        exact inductionHypothesis ((field?_insert_of_ne isKey).trans missing) notSet

/-- An update takes no field away. -/
theorem field?_update_ne_none
    (present : field? name entries ≠ none) :
    field? name (update entries more) ≠ none := by
  induction more generalizing entries with
  | nil =>
      exact present
  | cons entry more inductionHypothesis =>
      obtain ⟨key, value⟩ := entry
      refine inductionHypothesis ?_
      by_cases isKey : key = .text name
      · subst isKey
        rw [field?_insert_self]
        exact Option.some_ne_none _
      · rwa [field?_insert_of_ne isKey]

end Setting

/-- Known names are no unknown keys. -/
theorem unknownKeys_eq_nil
    {known : List String}
    {entries : List (Value × Value)}
    (allKnown : ∀ entry ∈ entries, ∃ name ∈ known, entry.1 = .text name) :
    unknownKeys known entries = [] := by
  rw [unknownKeys, List.filter_eq_nil_iff]
  intro key member
  obtain ⟨entry, inEntries, rfl⟩ := List.mem_map.mp member
  obtain ⟨name, isKnown, isName⟩ := allKnown entry inEntries
  simp [isName, asText?, isKnown]

end Value

theorem mem_entryIf_iff
    {condition : Bool}
    {name : String}
    {value : Value}
    {entry : Value × Value} :
    entry ∈ entryIf condition name value ↔ condition = true ∧ entry = (.text name, value) := by
  cases condition <;> simp [entryIf]

end ProseRules
