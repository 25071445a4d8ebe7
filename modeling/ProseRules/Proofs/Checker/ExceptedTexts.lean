import ProseRules.Exceptions
import ProseRules.Proofs.Outcome
import ProseRules.Proofs.Report.Writing
import ProseRules.Proofs.Text.Trimming
import ProseRules.Proofs.Value.Fields

namespace ProseRules

/-!
# Texts that are never reported

An exceptions document lists texts for all types of rules and for single ones. What is listed
is compared as the text that it is shown as, so that numbers, truth values and empty entries
count as well.
-/

/-- A value that may be left out is the given list; if it is left out, nothing is listed. -/
def IsListIfAny (value : Option Value) (listed : List Value) : Prop :=
  value = none ∧ listed = [] ∨ value = some (.list listed)

namespace ExceptionList

/-- What an exceptions document lists for all types of rules and for one of them. -/
structure Lists (exceptions : ExceptionList) (ruleType : String)
    (forAll forType : List Value) : Prop where
  isDocument :
    ∃ entries,
      exceptions.document = .mapping entries ∧
        IsListIfAny (Value.field? "global_exceptions" entries) forAll ∧
          (Value.field? "rule_specific_exceptions" entries = .none ∧ forType = [] ∨
            ∃ byType,
              Value.field? "rule_specific_exceptions" entries = some (.mapping byType) ∧
                IsListIfAny (Value.field? ruleType byType) forType)
  /-- Whole numbers are short enough to be written as texts. -/
  canBeShown : ∀ entry ∈ forAll ++ forType, entry.canBeShown = true

/-- An entry is compared as the text it is shown as, in small letters. -/
def term (entry : Value) : String :=
  Text.lower entry.display

section Listed

variable {exceptions : ExceptionList} {ruleType : String} {forAll forType : List Value}

theorem termsOf_of_isListIfAny
    {value : Option Value}
    {listed : List Value}
    (isList : IsListIfAny value listed)
    (canBeShown : ∀ entry ∈ listed, entry.canBeShown = true) :
    termsOf (value.getD (.list [])) = .ok (listed.map term) := by
  rcases isList with ⟨rfl, rfl⟩ | rfl
  · rfl
  · refine Outcome.mapM_eq_ok_map fun entry member => ?_
    rw [Value.shown, canBeShown entry member]
    rfl

/-- A text is excepted exactly if its normal form is the term of an entry. -/
theorem Lists.excepts_eq
    (lists : exceptions.Lists ruleType forAll forType)
    {span : String}
    (nonempty : span ≠ "") :
    exceptions.excepts (.text ruleType) span =
      .ok (((forAll ++ forType).map term).contains (normalForm span)) := by
  obtain ⟨entries, isMapping, globals, specifics⟩ := lists.isDocument
  have areGlobal : globalTerms entries = .ok (forAll.map term) :=
    termsOf_of_isListIfAny globals fun entry member =>
      lists.canBeShown entry (List.mem_append_left _ member)
  have areSpecific : specificTerms (.text ruleType) entries = .ok (forType.map term) := by
    rcases specifics with ⟨noneGiven, rfl⟩ | ⟨byType, isGiven, isList⟩
    · rw [specificTerms, Value.fieldOr, noneGiven]
      rfl
    · rw [specificTerms, Value.fieldOr, isGiven]
      exact termsOf_of_isListIfAny isList fun entry member =>
        lists.canBeShown entry (List.mem_append_right _ member)
  cases entries with
  | nil =>
      -- An empty document is not looked at.
      have noneForAll : [] = forAll.map term := Except.ok.inj areGlobal
      have noneForType : [] = forType.map term := Except.ok.inj areSpecific
      rw [excepts, isMapping, List.map_append, ← noneForAll, ← noneForType]
      rfl
  | cons entry entries =>
      have isTruthy : (Value.mapping (entry :: entries)).isTruthy = true := rfl
      rw [excepts, isMapping, isTruthy, if_neg (by simp [nonempty]), List.map_append,
        List.contains_append]
      dsimp only
      rw [areGlobal, areSpecific]
      cases isGlobal : (forAll.map term).contains (normalForm span) with
      | true =>
          exact if_pos isGlobal
      | false =>
          exact if_neg (Bool.eq_false_iff.mp isGlobal)

/-- A span of the first 128 characters is compared in small letters without blanks around it. -/
theorem normalForm_eq
    {span : String}
    (plain : ∀ c ∈ span.toList, c.toNat < 128) :
    normalForm span = Text.lower (Text.trim span) :=
  Text.trim_lower plain

/--
A text of the first 128 characters is excepted exactly if some entry is shown as the text without
the blanks around it, up to case.
-/
theorem Lists.excepts_iff
    (lists : exceptions.Lists ruleType forAll forType)
    {span : String}
    (nonempty : span ≠ "")
    (plain : ∀ c ∈ span.toList, c.toNat < 128) :
    exceptions.excepts (.text ruleType) span = .ok true ↔
      ∃ entry ∈ forAll ++ forType, Text.lower entry.display = Text.lower (Text.trim span) := by
  rw [lists.excepts_eq nonempty, normalForm_eq plain, Except.ok.injEq, List.contains_iff_mem,
    List.mem_map]
  rfl

/--
A text of the first 128 characters is excepted if some entry that counts for the type of rules
is shown as the text without the blanks around it, up to case. It is excepted only if some
entry is shown as the text up to case and the blanks around both.
-/
theorem excepts_listed_texts
    (lists : exceptions.Lists ruleType forAll forType)
    {span : String}
    (nonempty : span ≠ "")
    (plain : ∀ c ∈ span.toList, c.toNat < 128) :
    ∃ excepted,
      exceptions.excepts (.text ruleType) span = .ok excepted ∧
        ((∃ entry ∈ forAll ++ forType,
              Text.lower entry.display = Text.lower (Text.trim span)) →
            excepted = true) ∧
          (excepted = true →
            ∃ entry ∈ forAll ++ forType,
              Text.lower (Text.trim entry.display) = Text.lower (Text.trim span)) := by
  have isDecided := lists.excepts_eq nonempty
  refine ⟨_, isDecided, ?isExcepted, ?isListed⟩
  case isExcepted =>
    intro isListed
    exact Except.ok.inj (isDecided.symm.trans ((lists.excepts_iff nonempty plain).mpr isListed))
  case isListed =>
    intro isExcepted
    obtain ⟨entry, member, same⟩ :=
      (lists.excepts_iff nonempty plain).mp (isDecided.trans (congrArg _ isExcepted))
    refine ⟨entry, member, ?_⟩
    rw [Text.trim_eq_self_of_lower_eq (same.trans (normalForm_eq plain).symm)]
    exact same

end Listed

/-- A text for all types of rules, and an entry without a value for the rules of one type. -/
def withEmptyEntry : ExceptionList where
  document :=
    .mapping
      [
        (.text "global_exceptions", .list [.text "User Interface"]),
        (.text "rule_specific_exceptions",
          .mapping [(.text "pattern_rules", .list [.null])])]

theorem lists_withEmptyEntry :
    withEmptyEntry.Lists "pattern_rules" [.text "User Interface"] [.null] := by
  refine ⟨⟨_, rfl, ?_⟩, ?_⟩
  · simp [IsListIfAny]
  · simp [Value.canBeShown]

theorem isPlain_of_all
    {span : String}
    (arePlain : span.toList.all (·.toNat < 128) = true) :
    ∀ c ∈ span.toList, c.toNat < 128 := by
  simpa using arePlain

/-- Case and blanks around a text do not count, and the word for no value is listed as well. -/
theorem excepts_listed_texts_withEmptyEntry :
    withEmptyEntry.Lists "pattern_rules" [.text "User Interface"] [.null] ∧
      withEmptyEntry.excepts (.text "pattern_rules") " user interface\n" = .ok true ∧
        withEmptyEntry.excepts (.text "pattern_rules") "NONE" = .ok true := by
  obtain ⟨_, isDecided, isExcepted, _⟩ :=
    @excepts_listed_texts _ _ _ _ lists_withEmptyEntry " user interface\n" (by decide)
      (isPlain_of_all (by decide +kernel))
  obtain ⟨_, isDecided', isExcepted', _⟩ :=
    @excepts_listed_texts _ _ _ _ lists_withEmptyEntry "NONE" (by decide)
      (isPlain_of_all (by decide +kernel))
  rw [isDecided, isDecided']
  refine ⟨lists_withEmptyEntry, congrArg _ (isExcepted ?_), congrArg _ (isExcepted' ?_)⟩
  · exact ⟨.text "User Interface", by simp, by decide +kernel⟩
  · exact ⟨.null, by simp, by decide +kernel⟩

/-- Not only texts are excepted: an entry without a value excepts the word for it. -/
theorem not_excepts_textsOnly :
    ¬∀ exceptions ruleType forAll forType span,
        Lists exceptions ruleType forAll forType →
          span ≠ "" →
            (∀ c ∈ span.toList, c.toNat < 128) →
              (exceptions.excepts (.text ruleType) span = .ok true ↔
                ∃ text,
                  .text text ∈ forAll ++ forType ∧
                    Text.lower (Text.trim text) = Text.lower (Text.trim span)) := by
  intro onlyTexts
  have isExcepted : withEmptyEntry.excepts (.text "pattern_rules") "None" = .ok true := by
    rw [lists_withEmptyEntry.excepts_eq (by decide)]
    exact congrArg _ (by decide +kernel)
  have plain : ∀ c ∈ "None".toList, c.toNat < 128 := isPlain_of_all (by decide +kernel)
  obtain ⟨text, member, same⟩ :=
    (onlyTexts _ _ _ _ _ lists_withEmptyEntry (by decide) plain).mp isExcepted
  obtain rfl : text = "User Interface" := by simpa using member
  revert same
  decide +kernel

end ExceptionList

end ProseRules
