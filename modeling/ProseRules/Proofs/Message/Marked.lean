import ProseRules.Proofs.Outcome
import ProseRules.Proofs.Regex.TagSearch
import ProseRules.Rule.Matching

namespace ProseRules

/-!
# Messages with marked suggestions

The segments of a message are the message cut at its tags, and they are where the expression
for a text between the tags occurs. So the suggestions of a message can be listed and
replaced by one search each. A message that is put together from suggestions between tags
and texts around them is read back as these suggestions.
-/

namespace Segment

/-- The part of the message that a segment was read from. -/
def source : Segment → List Char
  | plain characters => characters
  | suggestion characters => openingTag ++ characters ++ closingTag

/-- The occurrence of a suggestion with its tags; its inside is captured. -/
def occurrence (place : Nat) (characters : List Char) : Regex.Occurrence where
  start := place
  stop := place + openingTag.length + characters.length + closingTag.length
  captures :=
    [(1, place + openingTag.length, place + openingTag.length + characters.length)]

/-- Where the suggestions among segments stand if the first segment begins at a place. -/
def occurrences (place : Nat) : List Segment → List Regex.Occurrence
  | [] => []
  | plain characters :: later => occurrences (place + characters.length) later
  | suggestion characters :: later =>
      occurrence place characters :: occurrences (occurrence place characters).stop later

end Segment

/-- The segments of a message are the message cut in parts. -/
theorem flatMap_source_segments
    (message : List Char) :
    (segments message).flatMap Segment.source = message := by
  induction message using message_induction with
  | plain message noPair =>
      rw [segments_of_not_holdsInOrder noPair]
      simp [Segment.source]
  | pair before suggestion later noOpening noClosing inductionHypothesis =>
      rw [segments_pair noOpening noClosing]
      simp [Segment.source, inductionHypothesis]

namespace Regex

/-- The part of a text between two places. -/
def partBetween (text : List Char) (start stop : Nat) : List Char :=
  (text.drop start).take (stop - start)

theorem partBetween_append
    (before between after : List Char) :
    partBetween (before ++ between ++ after) before.length (before ++ between).length =
      between := by
  rw [partBetween, List.append_assoc, List.drop_left, List.length_append, Nat.add_sub_cancel_left,
    List.take_left]

/-- A text from a place on in which each occurrence is replaced. -/
def Occurrence.replaced (text : List Char) (replacement : Occurrence → String) :
    (place : Nat) → List Occurrence → List Char
  | place, [] => text.drop place
  | place, occurrence :: later =>
      partBetween text place occurrence.start ++ (replacement occurrence).toList
        ++ replaced text replacement occurrence.stop later

/-- The expression for the shortest text between suggestion tags. -/
def suggestionExpression : Expression where
  source := "<suggestion>(.*?)</suggestion>"
  flags := { dotAll := true, allScripts := true }
  groups := 1
  tree := .enclosed openingTag closingTag

theorem ofSource_suggestionExpression :
    Expression.ofSource "<suggestion>(.*?)</suggestion>" { dotAll := true } =
      .ok suggestionExpression := by
  refine Outcome.eq_ok_of_toOption ?_
  decide +kernel

/-- The tags enclose a text in a message where the segments of the message are suggestions. -/
theorem Tree.occurrencesFrom_enclosed
    (message done : List Char)
    {limit : Nat}
    (enough : message.length < limit)
    (mustMove : Bool) :
    (enclosed openingTag closingTag).occurrencesFrom limit mustMove (.parting done message) =
      Segment.occurrences done.length (segments message) := by
  induction message using message_induction generalizing done limit mustMove with
  | plain message noPair =>
      obtain ⟨limit, rfl⟩ := Nat.exists_eq_add_one.mpr (Nat.zero_lt_of_lt enough)
      rw [occurrencesFrom,
        searchFrom_enclosed_of_not_holdsInOrder isTag_openingTag isTag_closingTag noPair,
        segments_of_not_holdsInOrder noPair]
      rfl
  | pair before suggestion later noOpening noClosing inductionHypothesis =>
      obtain ⟨limit, rfl⟩ := Nat.exists_eq_add_one.mpr (Nat.zero_lt_of_lt enough)
      have enoughLater : later.length < limit := by
        have someTag := List.length_pos_iff.mpr isTag_openingTag.ne_nil
        simp only [List.length_append] at enough
        omega
      have found :=
        searchFrom_enclosed isTag_openingTag isTag_closingTag noOpening noClosing mustMove
          done later
      have goesOn :
          { Cursor.afterEnclosed openingTag closingTag (done ++ before) suggestion later with
              captures := [] } =
            .parting (done ++ before ++ openingTag ++ suggestion ++ closingTag) later :=
        rfl
      rw [occurrencesFrom, found, segments_pair noOpening noClosing]
      dsimp only
      rw [goesOn, inductionHypothesis _ enoughLater]
      simp [Segment.occurrences, Segment.occurrence, Cursor.afterEnclosed, Nat.add_assoc]

/-- The expression occurs in a message where the segments of the message are suggestions. -/
theorem occurrences_suggestionExpression
    (message : List Char) :
    suggestionExpression.occurrences message = Segment.occurrences 0 (segments message) :=
  Tree.occurrencesFrom_enclosed message [] (by omega) false

end Regex

namespace Segment

open Regex

/-- The text inside the tags of a suggestion. -/
def inside? : Segment → Option String
  | plain _ => none
  | suggestion characters => some (String.ofList characters)

theorem groupText_occurrence
    (done characters later : List Char) :
    Rule.groupText (done ++ (suggestion characters).source ++ later)
        (occurrence done.length characters) 1 =
      String.ofList characters := by
  have between :=
    partBetween_append (done ++ openingTag) characters (closingTag ++ later)
  have isInside := congrArg String.ofList between
  simpa [Rule.groupText, Occurrence.span?, occurrence, source, partBetween, Nat.add_assoc]
    using isInside

theorem stop_occurrence
    (done characters : List Char) :
    (occurrence done.length characters).stop = (done ++ (suggestion characters).source).length := by
  simp [occurrence, source, Nat.add_assoc]

/-- The texts of the occurrences are the suggestions among the segments. -/
theorem groupTexts_occurrences
    {text done : List Char}
    {message : List Segment}
    (isText : text = done ++ message.flatMap source) :
    (occurrences done.length message).map (Rule.groupText text · 1) =
      message.filterMap inside? := by
  induction message generalizing done with
  | nil =>
      rfl
  | cons segment later inductionHypothesis =>
      rw [List.flatMap_cons, ← List.append_assoc] at isText
      have goesOn := inductionHypothesis isText
      cases segment with
      | plain characters =>
          rw [source, List.length_append] at goesOn
          exact goesOn
      | suggestion characters =>
          rw [occurrences, List.map_cons, stop_occurrence, goesOn, isText, groupText_occurrence]
          rfl

/-- Replacing the texts of the occurrences shows the segments. -/
theorem replaced_occurrences
    {text kept passed : List Char}
    {message : List Segment}
    (isText : text = kept ++ passed ++ message.flatMap source) :
    Occurrence.replaced text (fun found => "'" ++ Text.trim (Rule.groupText text found 1) ++ "'")
        kept.length (occurrences (kept ++ passed).length message) =
      passed ++ message.flatMap shown := by
  induction message generalizing kept passed with
  | nil =>
      simp [occurrences, Occurrence.replaced, isText]
  | cons segment later inductionHypothesis =>
      rw [List.flatMap_cons] at isText
      cases segment with
      | plain characters =>
          have lengths :
              (kept ++ (passed ++ characters)).length =
                (kept ++ passed).length + characters.length := by
            simp [Nat.add_assoc]
          have goesOn := @inductionHypothesis kept (passed ++ characters)
          rw [lengths] at goesOn
          rw [occurrences, goesOn (by simpa [source] using isText)]
          simp [shown]
      | suggestion characters =>
          have goesOn :=
            @inductionHypothesis (kept ++ passed ++ (suggestion characters).source) []
          rw [List.append_nil, List.append_assoc _ _ (later.flatMap source)] at goesOn
          have inside := groupText_occurrence (kept ++ passed) characters (later.flatMap source)
          rw [List.append_assoc _ (suggestion characters).source, ← isText] at inside
          have before := partBetween_append kept passed
            ((suggestion characters).source ++ later.flatMap source)
          rw [← isText] at before
          rw [occurrences, Occurrence.replaced, inside, stop_occurrence, goesOn isText,
            List.flatMap_cons, List.nil_append, occurrence, before]
          simp [shown, Text.trim]

end Segment

section Scans

variable (message : String)

/-- The suggestions of a message are the texts that one search of the expression captures. -/
theorem suggestionsOf_eq_groupTexts :
    suggestionsOf message =
      (Regex.suggestionExpression.occurrences message.toList).map fun found =>
        Text.trim (Rule.groupText message.toList found 1) := by
  have isText := (flatMap_source_segments message.toList).symm
  have texts := @Segment.groupTexts_occurrences _ [] _ isText
  have stripped :
      (fun segment : Segment => segment.inside?.map Text.trim) = Segment.suggestion? := by
    funext segment
    cases segment with
    | plain =>
        rfl
    | suggestion characters =>
        simp [Segment.inside?, Segment.suggestion?, Text.trim]
  rw [Regex.occurrences_suggestionExpression, suggestionsOf, ← stripped,
    ← List.map_filterMap, ← texts, List.map_map]
  rfl

/-- A message is shown with each occurrence of the expression replaced by its quoted text. -/
theorem displayOf_eq_replaced :
    displayOf message =
      String.ofList
        (Regex.Occurrence.replaced message.toList
          (fun found => "'" ++ Text.trim (Rule.groupText message.toList found 1) ++ "'")
          0 (Regex.suggestionExpression.occurrences message.toList)) := by
  have isText := (flatMap_source_segments message.toList).symm
  have shown := @Segment.replaced_occurrences _ [] [] _ isText
  rw [Regex.occurrences_suggestionExpression, displayOf]
  exact congrArg String.ofList shown.symm

end Scans

/-- Texts in a row: a first one, and a later one after each of the enclosed ones. -/
def assembled (enclose : String → String) (first : String) : List (String × String) → String
  | [] => first
  | (inside, later) :: parts => first ++ enclose inside ++ assembled enclose later parts

theorem toList_assembled
    (enclose : String → String)
    (first : String)
    (parts : List (String × String)) :
    (assembled enclose first parts).toList =
      first.toList ++ parts.flatMap fun part => (enclose part.1).toList ++ part.2.toList := by
  induction parts generalizing first with
  | nil =>
      simp [assembled]
  | cons part parts inductionHypothesis =>
      simp [assembled, inductionHypothesis]

/-- A message with suggestions between tags. -/
def marked (first : String) (parts : List (String × String)) : String :=
  assembled (fun suggestion => "<suggestion>" ++ suggestion ++ "</suggestion>") first parts

/-- A message with suggestions between quotes, without the blanks around them. -/
def quoted (first : String) (parts : List (String × String)) : String :=
  assembled (fun suggestion => "'" ++ Text.trim suggestion ++ "'") first parts

/-- The texts around suggestions open no other one, and no suggestion closes early. -/
structure AreSeparate (first : String) (parts : List (String × String)) : Prop where
  first : ¬openingTag <:+: first.toList
  suggestions : ∀ part ∈ parts, ¬closingTag <:+: part.1.toList
  laters : ∀ part ∈ parts, ¬openingTag <:+: part.2.toList

theorem not_holdsInOrder_of_no_opening
    {message : List Char}
    (noOpening : ¬openingTag <:+: message) :
    ¬HoldsInOrder openingTag closingTag message := by
  rintro ⟨before, between, after, rfl⟩
  exact noOpening ⟨before, between ++ closingTag ++ after, by simp⟩

/-- A message of separate parts is read part by part. -/
theorem segments_marked
    {first : String}
    {parts : List (String × String)}
    (separate : AreSeparate first parts) :
    segments (marked first parts).toList =
      .plain first.toList ::
        parts.flatMap fun part => [.suggestion part.1.toList, .plain part.2.toList] := by
  induction parts generalizing first with
  | nil =>
      exact segments_of_not_holdsInOrder (not_holdsInOrder_of_no_opening separate.first)
  | cons part parts inductionHypothesis =>
      obtain ⟨noClosing, noClosingLater⟩ := List.forall_mem_cons.mp separate.suggestions
      obtain ⟨noOpening, noOpeningLater⟩ := List.forall_mem_cons.mp separate.laters
      have goesOn := inductionHypothesis ⟨noOpening, noClosingLater, noOpeningLater⟩
      have isMessage :
          (marked first (part :: parts)).toList =
            first.toList ++ openingTag
              ++ (part.1.toList ++ closingTag ++ (marked part.2 parts).toList) := by
        have unfolded :
            marked first (part :: parts) =
              first ++ ("<suggestion>" ++ part.1 ++ "</suggestion>") ++ marked part.2 parts :=
          rfl
        have isOpening : "<suggestion>".toList = openingTag := rfl
        have isClosing : "</suggestion>".toList = closingTag := rfl
        simp only [unfolded, String.toList_append, isOpening, isClosing, List.append_assoc]
      rw [isMessage, segments_pair separate.first noClosing, goesOn, List.flatMap_cons]
      rfl

theorem suggestionsOf_marked
    {first : String}
    {parts : List (String × String)}
    (separate : AreSeparate first parts) :
    suggestionsOf (marked first parts) = parts.map fun part => Text.trim part.1 := by
  rw [suggestionsOf, segments_marked separate, List.filterMap_cons_none rfl,
    List.filterMap_flatMap]
  exact List.map_eq_flatMap.symm

theorem displayOf_marked
    {first : String}
    {parts : List (String × String)}
    (separate : AreSeparate first parts) :
    displayOf (marked first parts) = quoted first parts := by
  rw [displayOf, segments_marked separate, ← String.toList_inj, String.toList_ofList, quoted,
    toList_assembled, List.flatMap_cons, List.flatMap_assoc]
  simp [Segment.shown, Text.trim]

theorem eq_of_not_holdsInOrder
    {message : String}
    (noPair : ¬HoldsInOrder openingTag closingTag message.toList) :
    suggestionsOf message = [] ∧ displayOf message = message := by
  rw [suggestionsOf, displayOf, segments_of_not_holdsInOrder noPair]
  simp [Segment.suggestion?, Segment.shown]

/--
The suggestions of a message are read by one search for a text between tags and quoted by
another one, and both find the suggestions that were marked: in a message of suggestions
between tags and texts around them they are the suggestions in order, without the blanks
around them, and a message in which no closing tag follows an opening one has none and is
shown as it is.
-/
theorem reads_marked_suggestions :
    (∀ first parts, AreSeparate first parts →
        suggestionsOf (marked first parts) = parts.map (fun part => Text.trim part.1) ∧
          displayOf (marked first parts) = quoted first parts) ∧
      (∀ message : String, ¬HoldsInOrder openingTag closingTag message.toList →
          suggestionsOf message = [] ∧ displayOf message = message) ∧
        ∃ expression,
          Regex.Expression.ofSource "<suggestion>(.*?)</suggestion>" { dotAll := true } =
              .ok expression ∧
            ∀ message : String,
              (suggestionsOf message =
                (expression.occurrences message.toList).map fun found =>
                  Text.trim (Rule.groupText message.toList found 1)) ∧
                displayOf message =
                  String.ofList
                    (Regex.Occurrence.replaced message.toList
                      (fun found =>
                        "'" ++ Text.trim (Rule.groupText message.toList found 1) ++ "'")
                      0 (expression.occurrences message.toList)) :=
  ⟨fun _ _ separate => ⟨suggestionsOf_marked separate, displayOf_marked separate⟩,
    fun _ noPair => eq_of_not_holdsInOrder noPair,
    _, Regex.ofSource_suggestionExpression,
    fun message => ⟨suggestionsOf_eq_groupTexts message, displayOf_eq_replaced message⟩⟩

/-- A tag that opens inside of a suggestion is part of it, and one that closes outside is shown. -/
theorem reads_marked_suggestions_strayTags :
    let parts := [(" a <suggestion>\n", "</suggestion> or "), ("b", "")]
    AreSeparate "Use " parts ∧
      suggestionsOf (marked "Use " parts) = ["a <suggestion>", "b"] ∧
        displayOf (marked "Use " parts) = "Use 'a <suggestion>'</suggestion> or 'b'" ∧
          ¬HoldsInOrder openingTag closingTag "</suggestion> <suggestion>".toList ∧
            displayOf "</suggestion> <suggestion>" = "</suggestion> <suggestion>" := by
  intro parts
  have separate : AreSeparate "Use " parts := by
    constructor <;> decide +kernel
  have noPair : ¬HoldsInOrder openingTag closingTag "</suggestion> <suggestion>".toList :=
    segments_eq_plain_iff.mp (by decide +kernel)
  obtain ⟨areSuggestions, isDisplay⟩ := reads_marked_suggestions.1 _ _ separate
  obtain ⟨_, isShown⟩ := reads_marked_suggestions.2.1 _ noPair
  have trimmed :
      parts.map (fun part => Text.trim part.1) = ["a <suggestion>", "b"] ∧
        quoted "Use " parts = "Use 'a <suggestion>'</suggestion> or 'b'" := by
    decide +kernel
  exact
    ⟨separate, areSuggestions.trans trimmed.1, isDisplay.trans trimmed.2, noPair, isShown⟩

end ProseRules
