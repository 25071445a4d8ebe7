import ProseRules.Proofs.Regex.Captures
import ProseRules.Proofs.Rule.Immunization

namespace ProseRules

/-!
# Matches of regular expressions

A rule of a regular expression matches at the occurrences in the text whose flagged group
has characters and shares none with an immunized word. It has one match for each of them,
in their order, that flags the characters of the group and the words they belong to. It fails
only if it has a match and a message that cannot be expanded, or spares an occurrence and has
an id that is too long a number to be written.
-/

/-- The ends of the flagged group; a group that took no part has no characters. -/
def Regex.Occurrence.flagged (occurrence : Regex.Occurrence) (mark : Nat) : Nat × Nat :=
  (occurrence.span? mark).getD (0, 0)

/-- The flagged group has characters and shares none with an immunized word. -/
def Sentence.Allows (sentence : Sentence) (mark : Nat) (occurrence : Regex.Occurrence) : Prop :=
  (occurrence.flagged mark).1 < (occurrence.flagged mark).2 ∧
    ∀ index < sentence.words.length,
      (index : Int) ∈ sentence.immunized →
        ¬SharesCharacter sentence.words index
          ((occurrence.flagged mark).1, (occurrence.flagged mark).2)

instance
    (sentence : Sentence)
    (mark : Nat) :
    DecidablePred (sentence.Allows mark) := fun _ => by
  unfold Sentence.Allows
  infer_instance

/-- The flagged group has characters, but shares one with an immunized word. -/
def Sentence.Spares (sentence : Sentence) (mark : Nat) (occurrence : Regex.Occurrence) : Prop :=
  (occurrence.flagged mark).1 < (occurrence.flagged mark).2 ∧ ¬sentence.Allows mark occurrence

instance
    (sentence : Sentence)
    (mark : Nat) :
    DecidablePred (sentence.Spares mark) := fun _ => by
  unfold Sentence.Spares
  infer_instance

/-- The words of a range are those that have a character in a span. -/
structure IsTouchedBy (words : List Word) (wordSpan span : Int × Int) : Prop where
  inOrder : wordSpan.1 ≤ wordSpan.2
  sharesCharacter :
    ∀ index : Nat,
      wordSpan.1 ≤ index ∧ (index : Int) < wordSpan.2 ↔ SharesCharacter words index span
  /-- Between words nothing is touched. -/
  empty : (∀ index, ¬SharesCharacter words index span) → wordSpan.1 = wordSpan.2

/-- The match flags the group of the occurrence and the words that it touches. -/
structure Rule.IsMatchOf (rule : Rule) (mark : Nat) (sentence : Sentence)
    (occurrence : Regex.Occurrence) (ruleMatch : RuleMatch) : Prop where
  span :
    ruleMatch.span = (((occurrence.flagged mark).1 : Int), ((occurrence.flagged mark).2 : Int))
  words : IsTouchedBy sentence.words ruleMatch.wordSpan ruleMatch.span
  /-- The messages quote the groups of the occurrence. -/
  messages :
    rule.buildMatch sentence ruleMatch.span ruleMatch.wordSpan
        (Rule.groupText sentence.text.toList occurrence) =
      .ok ruleMatch

section Occurrence

variable {sentence : Sentence} {mark : Nat} {occurrence : Regex.Occurrence}

/-- A flagged group ends in the text with all its blanks. -/
theorem Sentence.flagged_le_length
    (inside : occurrence.Inside sentence.text.toList.length) :
    (occurrence.flagged mark).1 ≤ (occurrence.flagged mark).2 ∧
      (occurrence.flagged mark).2 ≤ (fullText sentence.words).length := by
  have notLonger : sentence.text.toList.length ≤ (fullText sentence.words).length := by
    rw [text, Text.trimEnd, String.toList_ofList, ← String.length_toList]
    exact (Text.dropBlanksAtEnd_prefix _).length_le
  unfold Regex.Occurrence.flagged
  cases isSpan : occurrence.span? mark with
  | none =>
      exact ⟨Nat.le_refl 0, Nat.zero_le _⟩
  | some ends =>
      obtain ⟨inOrder, stopInside⟩ := inside.span?_inside isSpan
      exact ⟨inOrder, stopInside.trans notLonger⟩

/-- The words of a span of the text are those that it touches. -/
theorem isTouchedBy_wordSpan
    {words : List Word}
    (noEmptyWord : ∀ word ∈ words, word.text ≠ "")
    {start stop : Nat}
    (nonempty : start < stop)
    (inside : stop ≤ (fullText words).length) :
    IsTouchedBy words ((wordSpan words start stop).1, (wordSpan words start stop).2)
      (start, stop) := by
  have touched := @mem_wordSpan_iff_sharesCharacter words
  have inOrder := @wordSpan_le words start stop nonempty
  refine ⟨by simpa using inOrder, fun index => ?_, fun noneShares => ?_⟩
  · rw [← touched noEmptyWord nonempty inside]
    simp
  · refine congrArg Int.ofNat (Nat.le_antisymm inOrder (Nat.le_of_not_lt fun someWord => ?_))
    exact noneShares _ ((touched noEmptyWord nonempty inside).mp ⟨Nat.le_refl _, someWord⟩)

/-- A span touches no immunized word exactly if it shares no character with one. -/
theorem Sentence.isImmunized_wordSpan_eq_false_iff
    (noEmptyWord : ∀ word ∈ sentence.words, word.text ≠ "")
    {start stop : Nat}
    (nonempty : start < stop)
    (inside : stop ≤ (fullText sentence.words).length) :
    sentence.isImmunized (wordSpan sentence.words start stop).1
        (wordSpan sentence.words start stop).2 = false ↔
      ∀ index < sentence.words.length,
        (index : Int) ∈ sentence.immunized →
          ¬SharesCharacter sentence.words index (start, stop) := by
  have touched := (isTouchedBy_wordSpan noEmptyWord nonempty inside).sharesCharacter
  rw [isImmunized_eq_false_iff]
  constructor
  · intro noneInside index _ isImmunized shares
    exact noneInside index isImmunized ((touched index).mpr shares)
  · rintro noneShares index isImmunized ⟨fromFirst, upToLast⟩
    obtain ⟨place, rfl⟩ := Int.eq_ofNat_of_zero_le ((Int.natCast_nonneg _).trans fromFirst)
    have shares := (touched place).mp ⟨fromFirst, upToLast⟩
    exact noneShares place shares.lt_length isImmunized shares

end Occurrence

namespace Rule

variable {rule : Rule} {sentence : Sentence} {mark : Nat} {expression : Regex.Expression}

/-- The match at the flagged group of an occurrence. -/
def matchOfFlagged (rule : Rule) (mark : Nat) (sentence : Sentence)
    (occurrence : Regex.Occurrence) : Except Failure RuleMatch :=
  let (start, stop) := occurrence.flagged mark
  let (first, last) := wordSpan sentence.words start stop
  rule.buildMatch sentence (start, stop) (first, last) (groupText sentence.text.toList occurrence)

/-- An occurrence has a match if the sentence allows it, and else is left out or spared. -/
theorem matchOfOccurrence_eq
    (noEmptyWord : ∀ word ∈ sentence.words, word.text ≠ "")
    {occurrence : Regex.Occurrence}
    (inside : occurrence.Inside sentence.text.toList.length) :
    rule.matchOfOccurrence mark sentence sentence.text.toList occurrence =
      if sentence.Allows mark occurrence then
        (rule.matchOfFlagged mark sentence occurrence).map some
      else if sentence.Spares mark occurrence then
        rule.id.shown.map fun _ => none
      else
        .ok none := by
  rw [matchOfOccurrence]
  cases isSpan : occurrence.span? mark with
  | none =>
      simp [Sentence.Allows, Sentence.Spares, Regex.Occurrence.flagged, isSpan]
  | some ends =>
      obtain ⟨start, stop⟩ := ends
      have isFlagged : occurrence.flagged mark = (start, stop) := by
        rw [Regex.Occurrence.flagged, isSpan, Option.getD_some]
      obtain ⟨inOrder, stopInside⟩ := @Sentence.flagged_le_length _ mark _ inside
      rw [isFlagged] at inOrder stopInside
      -- Only for a group with characters do the touched words say what is immunized.
      rcases Nat.lt_or_eq_of_le inOrder with nonempty | isEmpty
      · have allows_iff :
            sentence.Allows mark occurrence ↔
              sentence.isImmunized (wordSpan sentence.words start stop).1
                (wordSpan sentence.words start stop).2 = false := by
          rw [Sentence.Allows, isFlagged,
            Sentence.isImmunized_wordSpan_eq_false_iff noEmptyWord nonempty stopInside]
          exact and_iff_right nonempty
        by_cases allowed : sentence.Allows mark occurrence
        · have notImmunized := allows_iff.mp allowed
          rw [if_pos allowed, matchOfFlagged, isFlagged]
          simp [Nat.ne_of_lt nonempty, notImmunized]
        · have isImmunized := eq_true_of_ne_false (mt allows_iff.mpr allowed)
          have spares : sentence.Spares mark occurrence := ⟨isFlagged ▸ nonempty, allowed⟩
          simp [allowed, spares, isImmunized, Nat.ne_of_lt nonempty]
      · have noCharacter : ¬(occurrence.flagged mark).1 < (occurrence.flagged mark).2 := by
          rw [isFlagged]
          exact fun nonempty => Nat.ne_of_lt nonempty isEmpty
        have notAllowed : ¬sentence.Allows mark occurrence := mt And.left noCharacter
        have notSpared : ¬sentence.Spares mark occurrence := mt And.left noCharacter
        rw [if_neg notAllowed, if_neg notSpared]
        exact if_pos isEmpty

/-- The id of a rule that has its matches could be written if an occurrence was spared. -/
theorem canBeShown_of_matchExpression
    (noEmptyWord : ∀ word ∈ sentence.words, word.text ≠ "")
    {found : List RuleMatch}
    (succeeds : rule.matchExpression expression mark sentence = .ok found)
    {occurrence : Regex.Occurrence}
    (occurs : occurrence ∈ expression.occurrences sentence.text.toList)
    (spares : sentence.Spares mark occurrence) :
    rule.id.canBeShown = true := by
  obtain ⟨_, eachSucceeds, _⟩ := Outcome.bind_eq_ok_iff.mp succeeds
  obtain ⟨entry, isEntry⟩ := Outcome.exists_result_of_mem eachSucceeds occurs
  rw [matchOfOccurrence_eq noEmptyWord (Regex.Expression.inside_of_mem_occurrences occurs),
    if_neg spares.2, if_pos spares, Outcome.map_eq_ok_iff] at isEntry
  obtain ⟨_, isShown, _⟩ := isEntry
  exact (Value.shown_eq_ok_iff.mp isShown).1

/-- The matches of an expression are those of the occurrences that the sentence allows. -/
theorem matchExpression_eq
    (noEmptyWord : ∀ word ∈ sentence.words, word.text ≠ "")
    (idIsShown :
      (∃ occurrence ∈ expression.occurrences sentence.text.toList,
          sentence.Spares mark occurrence) →
        rule.id.canBeShown = true) :
    rule.matchExpression expression mark sentence =
      ((expression.occurrences sentence.text.toList).filter fun occurrence =>
        sentence.Allows mark occurrence).mapM (rule.matchOfFlagged mark sentence) := by
  rw [← Outcome.filterMap_mapM_eq fun occurrence occurs => ?_]
  · rfl
  · rw [matchOfOccurrence_eq noEmptyWord (Regex.Expression.inside_of_mem_occurrences occurs)]
    by_cases spares : sentence.Spares mark occurrence
    · simp [spares.2, spares, Value.shown, idIsShown ⟨occurrence, occurs, spares⟩, Except.map]
    · simp [spares]

theorem isMatchOf_of_matchOfFlagged
    (noEmptyWord : ∀ word ∈ sentence.words, word.text ≠ "")
    {occurrence : Regex.Occurrence}
    (inside : occurrence.Inside sentence.text.toList.length)
    (allowed : sentence.Allows mark occurrence)
    {ruleMatch : RuleMatch}
    (built : rule.matchOfFlagged mark sentence occurrence = .ok ruleMatch) :
    rule.IsMatchOf mark sentence occurrence ruleMatch := by
  obtain ⟨span, wordSpan⟩ := spans_of_buildMatch built
  refine ⟨span, ?_, ?_⟩
  · rw [span, wordSpan]
    exact isTouchedBy_wordSpan noEmptyWord allowed.1 (Sentence.flagged_le_length inside).2
  · rw [span, wordSpan]
    exact built

theorem matchesIn_eq_ok_iff_of_expression
    {markExists : mark ≤ expression.groups}
    (isExpression : rule.pattern = .expression expression mark markExists)
    (untouched : rule.immunizer sentence = .ok sentence)
    {found : List RuleMatch} :
    rule.matchesIn sentence = .ok found ↔
      rule.matchExpression expression mark sentence = .ok found := by
  have hasPattern : rule.hasPattern = true := by
    simp [hasPattern, isExpression]
  rw [matchesIn_eq_ok_iff, untouched]
  simp [hasPattern, matchPattern, isExpression]

section Occurrences

variable {markExists : mark ≤ expression.groups}

/--
Matching succeeds unless an occurrence is allowed and a message cannot be expanded, or one is
spared and the id cannot be written.
-/
theorem exists_matchesIn_iff_of_expression
    (isExpression : rule.pattern = .expression expression mark markExists)
    (untouched : rule.immunizer sentence = .ok sentence)
    (noEmptyWord : ∀ word ∈ sentence.words, word.text ≠ "") :
    (∃ found, rule.matchesIn sentence = .ok found) ↔
      (((expression.occurrences sentence.text.toList).filter fun occurrence =>
          sentence.Allows mark occurrence) = [] ∨ rule.HasTemplates) ∧
        ((∃ occurrence ∈ expression.occurrences sentence.text.toList,
            sentence.Spares mark occurrence) →
          rule.id.canBeShown = true) := by
  simp only [matchesIn_eq_ok_iff_of_expression isExpression untouched]
  constructor
  · rintro ⟨found, succeeds⟩
    have idIsShown :
        (∃ occurrence ∈ expression.occurrences sentence.text.toList,
            sentence.Spares mark occurrence) →
          rule.id.canBeShown = true :=
      fun ⟨_, occurs, spares⟩ => canBeShown_of_matchExpression noEmptyWord succeeds occurs spares
    refine ⟨?_, idIsShown⟩
    rw [matchExpression_eq noEmptyWord idIsShown] at succeeds
    refine or_iff_not_imp_left.mpr fun someAllowed => ?_
    obtain ⟨occurrence, isAllowed⟩ := List.exists_mem_of_ne_nil _ someAllowed
    exact exists_buildMatch_iff.mp (Outcome.exists_result_of_mem succeeds isAllowed)
  · rintro ⟨noneAllowed | templates, idIsShown⟩ <;>
      rw [matchExpression_eq noEmptyWord idIsShown]
    · rw [noneAllowed]
      exact ⟨[], rfl⟩
    · have eachBuilds :
          ∀ occurrence ∈
              (expression.occurrences sentence.text.toList).filter fun occurrence =>
                sentence.Allows mark occurrence,
            ∃ ruleMatch, rule.matchOfFlagged mark sentence occurrence = .ok ruleMatch :=
        fun _ _ => exists_buildMatch_iff.mpr templates
      obtain ⟨found, succeeds, _⟩ := Outcome.exists_mapM_eq_ok eachBuilds
      exact ⟨found, succeeds⟩

/-- The matches that are returned are those of the allowed occurrences, one for each in order. -/
theorem forall₂_isMatchOf_of_matchesIn
    (isExpression : rule.pattern = .expression expression mark markExists)
    (untouched : rule.immunizer sentence = .ok sentence)
    (noEmptyWord : ∀ word ∈ sentence.words, word.text ≠ "")
    {found : List RuleMatch}
    (succeeds : rule.matchesIn sentence = .ok found) :
    List.Forall₂ (rule.IsMatchOf mark sentence)
      ((expression.occurrences sentence.text.toList).filter fun occurrence =>
        sentence.Allows mark occurrence)
      found := by
  rw [matchesIn_eq_ok_iff_of_expression isExpression untouched] at succeeds
  have idIsShown :
      (∃ occurrence ∈ expression.occurrences sentence.text.toList,
          sentence.Spares mark occurrence) →
        rule.id.canBeShown = true :=
    fun ⟨_, occurs, spares⟩ => canBeShown_of_matchExpression noEmptyWord succeeds occurs spares
  rw [matchExpression_eq noEmptyWord idIsShown, Outcome.mapM_eq_ok_iff] at succeeds
  have eachAllowed :
      ∀ occurrence ∈
          (expression.occurrences sentence.text.toList).filter fun occurrence =>
            sentence.Allows mark occurrence,
        occurrence.Inside sentence.text.toList.length ∧ sentence.Allows mark occurrence := by
    intro occurrence member
    obtain ⟨occurs, isAllowed⟩ := List.mem_filter.mp member
    exact ⟨Regex.Expression.inside_of_mem_occurrences occurs, of_decide_eq_true isAllowed⟩
  refine ((List.forall₂_and_left _ _).mpr ⟨eachAllowed, succeeds⟩).imp ?_
  rintro occurrence ruleMatch ⟨⟨inside, isAllowed⟩, built⟩
  exact isMatchOf_of_matchOfFlagged noEmptyWord inside isAllowed built

/--
A rule of an expression that immunizes nothing further has exactly one match for each
occurrence that the sentence allows, in their order. It fails only if there is one of these
and a message of the rule cannot be expanded, or if an occurrence is spared and the id of the
rule is too long a number to be written.
-/
theorem matchesIn_allowed_occurrences
    (isExpression : rule.pattern = .expression expression mark markExists)
    (untouched : rule.immunizer sentence = .ok sentence)
    (noEmptyWord : ∀ word ∈ sentence.words, word.text ≠ "") :
    let allowed :=
      (expression.occurrences sentence.text.toList).filter fun occurrence =>
        sentence.Allows mark occurrence
    ((∃ found, rule.matchesIn sentence = .ok found) ↔
        (allowed = [] ∨ rule.HasTemplates) ∧
          ((∃ occurrence ∈ expression.occurrences sentence.text.toList,
              sentence.Spares mark occurrence) →
            rule.id.canBeShown = true)) ∧
      ∀ found,
        rule.matchesIn sentence = .ok found →
          List.Forall₂ (rule.IsMatchOf mark sentence) allowed found :=
  ⟨exists_matchesIn_iff_of_expression isExpression untouched noEmptyWord,
    fun _ => forall₂_isMatchOf_of_matchesIn isExpression untouched noEmptyWord⟩

end Occurrences

/-- The expression of a single letter. -/
def smallA : Regex.Expression where
  source := "a"
  flags := { allScripts := true }
  groups := 0
  tree := .character {} (.single 'a'.toNat false)

/-- The rule of a single letter with a message. -/
def forSmallA (message : String) : Rule :=
  ofPattern { expression := some (.source (.text "a")), message := .text message }
    (.expression smallA 0 (Nat.zero_le _))

/-- Three times the letter, of which the second one is immunized. -/
def threeLetters : Sentence where
  words := [{ text := "a" }, { text := "a" }, { text := "a" }]
  immunized := [1]

/-- Of three occurrences the ones that are not immunized have a match each. -/
theorem matchesIn_threeLetters :
    ∃ found,
      (forSmallA "m").matchesIn threeLetters = .ok found ∧
        List.Forall₂ ((forSmallA "m").IsMatchOf 0 threeLetters) [⟨0, 1, []⟩, ⟨4, 5, []⟩]
          found := by
  have allowed :
      ((smallA.occurrences threeLetters.text.toList).filter fun occurrence =>
          threeLetters.Allows 0 occurrence) =
        [⟨0, 1, []⟩, ⟨4, 5, []⟩] := by
    decide +kernel
  have templates : (forSmallA "m").HasTemplates :=
    (@exists_buildMatch_iff _ threeLetters (0, 1) (0, 1) fun _ => "").mp ⟨_, rfl⟩
  have isExpression : (forSmallA "m").pattern = .expression smallA 0 (Nat.zero_le _) := rfl
  have untouched : (forSmallA "m").immunizer threeLetters = .ok threeLetters := rfl
  obtain ⟨succeeds, eachMatch⟩ :=
    matchesIn_allowed_occurrences isExpression untouched (by decide)
  obtain ⟨found, isFound⟩ := succeeds.mpr ⟨.inr templates, fun _ => rfl⟩
  exact ⟨found, isFound, allowed ▸ eachMatch found isFound⟩

/-- A reference with one digit more than can be read as a number. -/
def tooLongReference : String :=
  String.ofList ('\\' :: List.replicate (Text.digitLimit + 1) '1')

/-- A message that refers to a group by too many digits cannot be expanded. -/
theorem not_isTemplate_tooLongReference :
    ¬IsTemplate (.text tooLongReference) := by
  rintro ⟨text, isText, shortReferences⟩
  obtain rfl := Value.text.inj isText
  have areDigits :
      (List.replicate (Text.digitLimit + 1) '1').map Text.digitValue? =
        (List.replicate (Text.digitLimit + 1) 1).map some := by
    rw [List.map_replicate, List.map_replicate]
    exact congrArg _ (by decide)
  have isReference :
      templateParts tooLongReference.toList =
        [.reference (List.replicate (Text.digitLimit + 1) 1)] := by
    rw [tooLongReference, String.toList_ofList, templateParts_backslash areDigits (by simp)]
  have notLonger := shortReferences _ (isReference ▸ List.mem_singleton_self _)
  rw [List.length_replicate] at notLonger
  exact Nat.not_succ_le_self _ notLonger

/-- The sentence of the letter alone. -/
def oneLetter : Sentence where
  words := [{ text := "a", spaceAfter := false }]

/-- A rule whose message cannot be expanded fails where an occurrence is allowed. -/
theorem matchesIn_ne_ok_of_tooLongReference :
    Rule.ofParts
        { expression := some (.source (.text "a")), message := .text tooLongReference } =
      .ok (forSmallA tooLongReference) ∧
      (forSmallA tooLongReference).immunizer oneLetter = .ok oneLetter ∧
        ((smallA.occurrences oneLetter.text.toList).filter fun occurrence =>
            oneLetter.Allows 0 occurrence) =
          [⟨0, 1, []⟩] ∧
          ∀ found, (forSmallA tooLongReference).matchesIn oneLetter ≠ .ok found := by
  have allowed :
      ((smallA.occurrences oneLetter.text.toList).filter fun occurrence =>
          oneLetter.Allows 0 occurrence) =
        [⟨0, 1, []⟩] := by
    decide +kernel
  have isExpression :
      (forSmallA tooLongReference).pattern = .expression smallA 0 (Nat.zero_le _) :=
    rfl
  have untouched : (forSmallA tooLongReference).immunizer oneLetter = .ok oneLetter := rfl
  refine ⟨rfl, untouched, allowed, fun found succeeds => ?_⟩
  have returns_iff := exists_matchesIn_iff_of_expression isExpression untouched (by decide)
  obtain ⟨noneAllowed | templates, _⟩ := returns_iff.mp ⟨found, succeeds⟩
  · rw [allowed] at noneAllowed
    cases noneAllowed
  · exact not_isTemplate_tooLongReference templates.message

end Rule

end ProseRules
