import ProseRules.Proofs.Message.Markup
import ProseRules.Proofs.Rule.Immunization
import ProseRules.Proofs.Rule.Messages

namespace ProseRules

/-!
# Suggestions of a match

The texts of a match are inserted into a message before its tags are read. So a message has
the suggestions that its author marked, each with its texts inserted, exactly as long as no
inserted text completes a tag where the message would go on to be read.
-/

/-- The text of a part of a template, given the texts of its references. -/
def TemplatePart.textWith (texts : Nat → String) : TemplatePart → List Char
  | .literal character => [character]
  | .reference digits => (texts (Text.positional 10 digits)).toList

/-- A template with texts inserted for its references, as they are. -/
def inserted (texts : Nat → String) (template : List Char) : List Char :=
  (templateParts template).flatMap (TemplatePart.textWith texts)

theorem eq_textWith_of_expandPart
    {texts : Nat → String}
    {part : TemplatePart}
    {characters : List Char}
    (succeeds : expandPart texts part = .ok characters) :
    part.textWith texts = characters := by
  cases part with
  | literal character =>
      cases succeeds
      rfl
  | reference digits =>
      rw [expandPart] at succeeds
      split at succeeds <;> cases succeeds
      rfl

/-- A message that can be expanded is its template with the texts inserted. -/
theorem toList_of_expandTemplate
    {texts : Nat → String}
    {template expanded : String}
    (succeeds : expandTemplate texts (.text template) = .ok expanded) :
    expanded.toList = inserted texts template.toList := by
  obtain ⟨parts, expandedParts, isExpanded⟩ := Outcome.bind_eq_ok_iff.mp succeeds
  cases isExpanded
  have eachPart :
      List.Forall₂ Eq ((templateParts template.toList).map (TemplatePart.textWith texts)) parts :=
    List.forall₂_map_left_iff.mpr
      ((Outcome.mapM_eq_ok_iff.mp expandedParts).imp fun _ _ => eq_textWith_of_expandPart)
  rw [List.forall₂_eq_eq_eq] at eachPart
  rw [String.toList_ofList, inserted, List.flatMap_def, eachPart]

section Template

/-- A character that is neither a digit nor a backslash ends a reference before it. -/
def endsReference (character : Char) : Bool :=
  (Text.digitValue? character).isNone && character ≠ '\\'

theorem endsReference_iff
    {character : Char} :
    endsReference character = true ↔
      Text.digitValue? character = none ∧ character ≠ '\\' := by
  simp [endsReference]

theorem templatePartsFrom_append_cons
    {character : Char}
    (ends : endsReference character = true)
    (pending : Option (List Nat))
    (front later : List Char) :
    templatePartsFrom pending (front ++ character :: later) =
      templatePartsFrom pending front ++ .literal character :: templateParts later := by
  obtain ⟨noDigit, noBackslash⟩ := endsReference_iff.mp ends
  induction front generalizing pending with
  | nil =>
      simp only [List.nil_append, templatePartsFrom, noDigit, noBackslash, if_false]
      cases pending <;> rfl
  | cons first front inductionHypothesis =>
      simp only [List.cons_append, templatePartsFrom]
      split
      · exact inductionHypothesis _
      · split
        · rw [inductionHypothesis, List.append_assoc]
        · rw [inductionHypothesis, List.append_assoc, List.cons_append]

/-- A tag in a template is kept as it is and separates the references around it. -/
theorem inserted_append_tag
    (texts : Nat → String)
    {tag : List Char}
    (nonempty : tag ≠ [])
    (allEnd : tag.all endsReference = true)
    (before after : List Char) :
    inserted texts (before ++ tag ++ after) =
      inserted texts before ++ tag ++ inserted texts after := by
  have atStart :
      ∀ tag : List Char,
        tag.all endsReference = true →
          templateParts (tag ++ after) = tag.map .literal ++ templateParts after := by
    intro tag
    induction tag with
    | nil =>
        exact fun _ => rfl
    | cons character tag inductionHypothesis =>
        rw [List.all_cons, Bool.and_eq_true]
        rintro ⟨first, others⟩
        have parts := templatePartsFrom_append_cons first none [] (tag ++ after)
        rw [inductionHypothesis others] at parts
        exact parts
  obtain ⟨character, tag, rfl⟩ := List.exists_cons_of_ne_nil nonempty
  rw [List.all_cons, Bool.and_eq_true] at allEnd
  obtain ⟨first, others⟩ := allEnd
  have parts := templatePartsFrom_append_cons first none before (tag ++ after)
  rw [atStart tag others] at parts
  have literalTexts : (tag.map .literal).flatMap (TemplatePart.textWith texts) = tag := by
    simp [List.flatMap_map, TemplatePart.textWith]
  rw [List.append_assoc, List.cons_append, inserted, templateParts, parts, List.flatMap_append,
    List.flatMap_cons, List.flatMap_append, literalTexts]
  simp [inserted, templateParts, TemplatePart.textWith]

theorem inserted_pair
    (texts : Nat → String)
    (before suggestion later : List Char) :
    inserted texts (before ++ openingTag ++ (suggestion ++ closingTag ++ later)) =
      inserted texts before ++ openingTag ++
        (inserted texts suggestion ++ closingTag ++ inserted texts later) := by
  rw [inserted_append_tag texts isTag_openingTag.ne_nil (by decide),
    inserted_append_tag texts isTag_closingTag.ne_nil (by decide)]

end Template

namespace Segment

/-- A segment with texts inserted for its references. -/
def withTexts (texts : Nat → String) : Segment → Segment
  | plain characters => .plain (inserted texts characters)
  | suggestion characters => .suggestion (inserted texts characters)

/-- The inserted texts bring no suggestion into the segment. -/
def AddsNone (texts : Nat → String) : Segment → Prop
  | plain characters => ¬HoldsInOrder openingTag closingTag (inserted texts characters)
  | suggestion characters => ¬HoldsInOrder closingTag openingTag (inserted texts characters)

end Segment

/--
The inserted texts complete no tag where a segment ends: no opening tag before a suggestion,
no closing tag within it, and no pair of tags at the end of the message.
-/
def StayApart (texts : Nat → String) : List Segment → Prop
  | [] => True
  | [.plain characters] => ¬HoldsInOrder openingTag closingTag (inserted texts characters)
  | .plain characters :: segments =>
      ¬openingTag <:+: inserted texts characters ∧ StayApart texts segments
  | .suggestion characters :: segments =>
      ¬closingTag <:+: inserted texts characters ∧ StayApart texts segments

section Inserted

variable (texts : Nat → String) (template : List Char)

/-- Inserted texts take no suggestion away, and add none exactly if no segment gets one. -/
theorem pairsIn_inserted :
    pairsIn template ≤ pairsIn (inserted texts template) ∧
      (pairsIn (inserted texts template) = pairsIn template ↔
        ∀ segment ∈ segments template, segment.AddsNone texts) := by
  induction template using message_induction with
  | plain message noPair =>
      rw [pairsIn_of_not_holdsInOrder noPair, segments_of_not_holdsInOrder noPair,
        List.forall_mem_singleton, pairsIn_eq_zero_iff]
      exact ⟨Nat.zero_le _, Iff.rfl⟩
  | pair before suggestion later noOpening noClosing inductionHypothesis =>
      obtain ⟨notFewer, same_iff⟩ := inductionHypothesis
      obtain ⟨someMarked, one_iff⟩ := pairsIn_between_tags (inserted texts suggestion)
      have noneBefore_iff := @pairsIn_eq_zero_iff (inserted texts before)
      have counted :
          pairsIn (inserted texts (before ++ openingTag ++ (suggestion ++ closingTag ++ later))) =
            pairsIn (inserted texts before) +
              (pairsIn (openingTag ++ inserted texts suggestion ++ closingTag) +
                pairsIn (inserted texts later)) := by
        rw [inserted_pair, pairsIn_append_openingTag, ← List.append_assoc, ← List.append_assoc,
          pairsIn_append_closingTag]
      rw [counted, pairsIn_pair noOpening noClosing, segments_pair noOpening noClosing,
        List.forall_mem_cons, List.forall_mem_cons, Segment.AddsNone, Segment.AddsNone,
        ← noneBefore_iff, ← one_iff, ← same_iff]
      omega

/-- The segments of a message are those of its template, as long as the texts stay apart. -/
theorem segments_inserted_iff :
    segments (inserted texts template) = (segments template).map (Segment.withTexts texts) ↔
      StayApart texts (segments template) := by
  induction template using message_induction with
  | plain message noPair =>
      rw [segments_of_not_holdsInOrder noPair]
      exact segments_eq_plain_iff
  | pair before suggestion later noOpening noClosing inductionHypothesis =>
      rw [segments_pair noOpening noClosing, inserted_pair]
      simp only [List.map_cons, Segment.withTexts, StayApart]
      constructor
      · intro areSegments
        obtain ⟨noOpening', noClosing', later', sameText, others⟩ :=
          exists_later_of_segments areSegments
        have sameLater : inserted texts later = later' := by
          simpa only [List.append_assoc, List.append_cancel_left_eq] using sameText
        exact ⟨noOpening', noClosing', inductionHypothesis.mp (sameLater ▸ others)⟩
      · rintro ⟨noOpening', noClosing', othersStay⟩
        rw [segments_pair noOpening' noClosing', inductionHypothesis.mpr othersStay]

end Inserted

/-- What the texts inserted into the message of a match make of its suggestions. -/
structure RuleMatch.ShowsMarkup (ruleMatch : RuleMatch) (texts : Nat → String)
    (template : List Char) : Prop where
  message :
    ruleMatch.message =
      String.ofList ((segments (inserted texts template)).flatMap Segment.shown)
  suggestions :
    ruleMatch.suggestions = (segments (inserted texts template)).filterMap Segment.suggestion?
  /-- Each pair of tags in the template makes a suggestion. -/
  count_le : pairsIn template ≤ ruleMatch.suggestions.length
  /-- There are no other ones exactly if the texts bring none into a segment. -/
  count_eq_iff :
    ruleMatch.suggestions.length = pairsIn template ↔
      ∀ segment ∈ segments template, segment.AddsNone texts
  /-- The texts are read as plain ones exactly if they complete no tag where a segment ends. -/
  segments_eq_iff :
    segments (inserted texts template) = (segments template).map (Segment.withTexts texts) ↔
      StayApart texts (segments template)

namespace Rule

/-- The texts that the messages of a match quote: words of its units or groups of its occurrence. -/
inductive QuotesTexts (rule : Rule) (sentence : Sentence) (ruleMatch : RuleMatch) :
    (Nat → String) → Prop where
  | units
      (candidate : Candidate)
      (isAccepted :
        ∃ accepted,
          acceptedCandidates rule.tokens sentence.words = .ok accepted ∧ candidate ∈ accepted)
      (ofCandidate : rule.matchOfCandidate (.ofRule rule) sentence candidate = .ok ruleMatch) :
      rule.QuotesTexts sentence ruleMatch fun number =>
        (UnitScale.ofRule rule).unitText sentence.words candidate (Int.ofNat number - 1)
  | groups
      {expression : Regex.Expression}
      {mark : Nat}
      (isExpression : rule.expression? = some (expression, mark))
      (occurrence : Regex.Occurrence)
      (member : occurrence ∈ expression.occurrences sentence.text.toList)
      (ofOccurrence :
        rule.matchOfOccurrence mark sentence sentence.text.toList occurrence =
          .ok (some ruleMatch)) :
      rule.QuotesTexts sentence ruleMatch (groupText sentence.text.toList occurrence)

section Quoting

variable {rule : Rule} {sentence : Sentence} {ruleMatch : RuleMatch} {texts : Nat → String}

/-- A match is built from the texts that it quotes. -/
theorem QuotesTexts.exists_buildMatch
    (quotes : rule.QuotesTexts sentence ruleMatch texts) :
    ∃ span wordSpan, rule.buildMatch sentence span wordSpan texts = .ok ruleMatch := by
  cases quotes with
  | units candidate _ ofCandidate =>
      obtain ⟨⟨_, _⟩, _, built⟩ := Outcome.bind_eq_ok_iff.mp ofCandidate
      exact ⟨_, _, built⟩
  | groups _ occurrence _ ofOccurrence =>
      unfold matchOfOccurrence at ofOccurrence
      split at ofOccurrence
      · cases ofOccurrence
      · split at ofOccurrence
        · cases ofOccurrence
        · dsimp only at ofOccurrence
          split at ofOccurrence
          · obtain ⟨_, _, isNone⟩ := Outcome.map_eq_ok_iff.mp ofOccurrence
            cases isNone
          · obtain ⟨built, isBuilt, isMatch⟩ := Outcome.map_eq_ok_iff.mp ofOccurrence
            cases isMatch
            exact ⟨_, _, isBuilt⟩

theorem exists_quotesTexts_of_mem_matchPattern
    {found : List RuleMatch}
    (succeeds : rule.matchPattern sentence = .ok found)
    (member : ruleMatch ∈ found) :
    ∃ texts, rule.QuotesTexts sentence ruleMatch texts := by
  cases isPattern : rule.pattern with
  | absent =>
      rw [matchPattern, isPattern] at succeeds
      cases succeeds
      cases member
  | tokens tokens precede =>
      have sameTokens : rule.tokens = tokens := by rw [Rule.tokens, isPattern]
      rw [matchPattern, isPattern] at succeeds
      obtain ⟨steps, compiled, _, candidate, isCandidate, hold, ofCandidate⟩ :=
        exists_candidate_of_mem_matchTokens succeeds member
      refine ⟨_, .units candidate ⟨_, ?_, List.mem_filter.mpr ⟨isCandidate, hold⟩⟩ ofCandidate⟩
      rw [sameTokens]
      exact Outcome.bind_eq_ok_iff.mpr ⟨steps, compiled, rfl⟩
  | expression expression mark markExists =>
      have isExpression : rule.expression? = some (expression, mark) := by
        rw [Rule.expression?, isPattern]
      rw [matchPattern, isPattern] at succeeds
      obtain ⟨occurrence, isOccurrence, ofOccurrence⟩ :=
        exists_occurrence_of_mem_matchExpression succeeds member
      exact ⟨_, .groups isExpression occurrence isOccurrence ofOccurrence⟩

/-- Every match names its rule. -/
theorem ids_of_mem_matchesIn
    {found : List RuleMatch}
    (succeeds : rule.matchesIn sentence = .ok found)
    (member : ruleMatch ∈ found) :
    ruleMatch.ruleId = rule.id ∧ ruleMatch.subId = rule.subId := by
  obtain ⟨_, immunized, _, matched⟩ := matchesIn_eq_ok_iff.mp succeeds
  obtain ⟨_, quotes⟩ := exists_quotesTexts_of_mem_matchPattern matched member
  obtain ⟨_, _, built⟩ := quotes.exists_buildMatch
  exact ids_of_buildMatch built

theorem exists_template_of_buildMatch
    (noExtra : rule.extraSuggestions = .text "")
    {span wordSpan : Int × Int}
    (built : rule.buildMatch sentence span wordSpan texts = .ok ruleMatch) :
    ∃ template,
      rule.message = .text template ∧ ruleMatch.ShowsMarkup texts template.toList := by
  obtain ⟨message, messageExpands, afterMessage⟩ := Outcome.bind_eq_ok_iff.mp built
  obtain ⟨_, _, afterShort⟩ := Outcome.bind_eq_ok_iff.mp afterMessage
  obtain ⟨template, isText, _⟩ := exists_expandTemplate_iff.mp ⟨message, messageExpands⟩
  rw [isText] at messageExpands
  have isInserted := toList_of_expandTemplate messageExpands
  have isFalsy : (Value.text "").isTruthy = false := rfl
  rw [noExtra, isFalsy] at afterShort
  cases afterShort
  obtain ⟨notFewer, same_iff⟩ := pairsIn_inserted texts template.toList
  have noneAdded : appendNew (suggestionsOf message) (suggestionsOf "") = suggestionsOf message :=
    rfl
  refine ⟨template, isText, ?message, ?suggestions, ?notFewer, ?same, segments_inserted_iff _ _⟩
  case message =>
    rw [displayOf, isInserted]
  case suggestions =>
    rw [noneAdded, suggestionsOf, isInserted]
  case notFewer =>
    rw [noneAdded, suggestionsOf, isInserted]
    exact notFewer
  case same =>
    rw [noneAdded, suggestionsOf, isInserted]
    exact same_iff

end Quoting

/--
A match has a suggestion for each pair of tags in the message of its rule, and no other one
exactly if no text that it quotes brings one into the message.
-/
theorem showsMarkup_of_mem_matchesIn
    {rule : Rule}
    (noExtra : rule.extraSuggestions = .text "")
    {sentence : Sentence}
    {found : List RuleMatch}
    (succeeds : rule.matchesIn sentence = .ok found)
    {ruleMatch : RuleMatch}
    (member : ruleMatch ∈ found) :
    ∃ immunized texts template,
      rule.immunizer sentence = .ok immunized ∧
        rule.QuotesTexts immunized ruleMatch texts ∧
          rule.message = .text template ∧ ruleMatch.ShowsMarkup texts template.toList := by
  obtain ⟨_, immunized, immunizes, matched⟩ := matchesIn_eq_ok_iff.mp succeeds
  obtain ⟨texts, quotes⟩ := exists_quotesTexts_of_mem_matchPattern matched member
  obtain ⟨span, wordSpan, built⟩ := quotes.exists_buildMatch
  obtain ⟨template, isText, shows⟩ := exists_template_of_buildMatch noExtra built
  exact ⟨immunized, texts, template, immunizes, quotes, isText, shows⟩

/-- A rule for any word that quotes the word in its message. -/
def quotingWord (message : String) : Rule :=
  { withTokens [.placeholder (.text "")] referencesPrecede_placeholder with
    message := .text message }

/-- A word marked as a suggestion by the message of the rule is the only suggestion. -/
theorem showsMarkup_quotingWord :
    ∃ found ruleMatch immunized texts,
      (quotingWord "<suggestion>\\1</suggestion>").matchesIn { words := [{ text := "x" }] } =
          .ok found ∧
        ruleMatch ∈ found ∧
          (quotingWord "<suggestion>\\1</suggestion>").QuotesTexts immunized ruleMatch texts ∧
            ruleMatch.ShowsMarkup texts "<suggestion>\\1</suggestion>".toList ∧
              ruleMatch.suggestions = ["x"] := by
  have evaluated :
      ((quotingWord "<suggestion>\\1</suggestion>").matchesIn
          { words := [{ text := "x" }] }).toOption.map (·.map (·.suggestions)) =
        some [["x"]] := by
    decide +kernel
  obtain ⟨found, isFound, areSuggestions⟩ := Option.map_eq_some_iff.mp evaluated
  obtain ⟨ruleMatch, isMatch, isSuggestion⟩ := List.map_eq_singleton_iff.mp areSuggestions
  have succeeds := Outcome.eq_ok_of_toOption isFound
  have member : ruleMatch ∈ found := by simp [isMatch]
  obtain ⟨immunized, texts, template, _, quotes, isText, shows⟩ :=
    showsMarkup_of_mem_matchesIn (by rfl) succeeds member
  cases isText
  exact ⟨found, ruleMatch, immunized, texts, succeeds, member, quotes, shows, isSuggestion⟩

/-- A word with tags in it brings a suggestion into a message that has none. -/
theorem suggestions_of_quoted_tags :
    pairsIn "\\1".toList = 0 ∧
      ((quotingWord "\\1").matchesIn { words := [{ text := "x" }] }).toOption.map
          (·.map fun ruleMatch => (ruleMatch.message, ruleMatch.suggestions)) =
        some [("x", [])] ∧
        ((quotingWord "\\1").matchesIn
            { words := [{ text := "<suggestion>x</suggestion>" }] }).toOption.map
            (·.map fun ruleMatch => (ruleMatch.message, ruleMatch.suggestions)) =
          some [("'x'", ["x"])] := by
  refine ⟨rfl, ?_, ?_⟩ <;> decide +kernel

end Rule

end ProseRules
