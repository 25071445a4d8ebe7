import ProseRules.Proofs.Rule.Alike
import ProseRules.Proofs.Rule.Suggestions

namespace ProseRules

/-!
# Further suggestions of a rule

The suggestions of a match are those of its message and after them, each once, those of the
further suggestions of its rule that the message does not have. Nothing else in a match
depends on the further suggestions.
-/

/-- What is added to a list of suggestions are the other ones that are not in it yet. -/
structure AddsNew (known more added : List String) : Prop where
  nodup : added.Nodup
  mem_iff : ∀ item, item ∈ added ↔ item ∈ more ∧ item ∉ known
  /-- The added ones stand in the order of their first places. -/
  inOrder : added.Pairwise fun first second => more.idxOf first < more.idxOf second

section Adding

variable {known more added : List String} {item : String}

theorem appendNew_concat :
    appendNew known (more ++ [item]) =
      if (appendNew known more).contains item then appendNew known more
      else appendNew known more ++ [item] := by
  simp [appendNew]

theorem AddsNew.inOrder_concat
    (adds : AddsNew known more added)
    (item : String) :
    added.Pairwise fun first second =>
      (more ++ [item]).idxOf first < (more ++ [item]).idxOf second := by
  refine adds.inOrder.imp_of_mem fun {first second} isFirst isSecond before => ?_
  rwa [List.idxOf_append_of_mem ((adds.mem_iff _).mp isFirst).1,
    List.idxOf_append_of_mem ((adds.mem_iff _).mp isSecond).1]

/-- A suggestion that is listed already is not added. -/
theorem AddsNew.concat_of_mem
    (adds : AddsNew known more added)
    (isListed : item ∈ known ++ added) :
    AddsNew known (more ++ [item]) added := by
  refine ⟨adds.nodup, fun other => ?_, adds.inOrder_concat item⟩
  rw [adds.mem_iff]
  constructor
  · rintro ⟨isMore, isNew⟩
    exact ⟨List.mem_append_left _ isMore, isNew⟩
  · rintro ⟨isMore, isNew⟩
    refine ⟨?_, isNew⟩
    rcases List.mem_append.mp isMore with isMore | isLast
    · exact isMore
    · obtain rfl := List.mem_singleton.mp isLast
      exact ((adds.mem_iff other).mp ((List.mem_append.mp isListed).resolve_left isNew)).1

/-- A suggestion that is not listed yet is added at the end. -/
theorem AddsNew.concat_of_not_mem
    (adds : AddsNew known more added)
    (isNew : item ∉ known ++ added) :
    AddsNew known (more ++ [item]) (added ++ [item]) := by
  obtain ⟨notKnown, notAdded⟩ := not_or.mp (mt List.mem_append.mpr isNew)
  have notBefore : item ∉ more :=
    fun isMore => notAdded ((adds.mem_iff item).mpr ⟨isMore, notKnown⟩)
  refine ⟨?nodup, fun other => ?mem_iff, ?inOrder⟩
  case nodup =>
    exact List.concat_eq_append ▸ adds.nodup.concat notAdded
  case mem_iff =>
    rw [List.mem_append, adds.mem_iff, List.mem_append, List.mem_singleton]
    constructor
    · rintro (⟨isMore, isOther⟩ | rfl)
      · exact ⟨.inl isMore, isOther⟩
      · exact ⟨.inr rfl, notKnown⟩
    · rintro ⟨isMore | rfl, isOther⟩
      · exact .inl ⟨isMore, isOther⟩
      · exact .inr rfl
  case inOrder =>
    refine List.pairwise_append.mpr ⟨adds.inOrder_concat item, List.pairwise_singleton _ _, ?_⟩
    intro first isFirst last isLast
    obtain rfl := List.mem_singleton.mp isLast
    have isMore := ((adds.mem_iff first).mp isFirst).1
    rw [List.idxOf_append_of_mem isMore, List.idxOf_append_of_notMem notBefore]
    exact Nat.lt_of_lt_of_le (List.idxOf_lt_length_of_mem isMore) (Nat.le_add_right _ _)

/-- The list of suggestions is kept, and the new ones are added to it. -/
theorem exists_addsNew
    (known more : List String) :
    ∃ added, appendNew known more = known ++ added ∧ AddsNew known more added := by
  induction more using List.reverseRecOn with
  | nil =>
      exact ⟨[], by simp [appendNew], .nil, by simp, .nil⟩
  | append_singleton more item inductionHypothesis =>
      obtain ⟨added, isList, adds⟩ := inductionHypothesis
      rw [appendNew_concat, isList]
      by_cases isListed : item ∈ known ++ added
      · exact ⟨added, if_pos (List.contains_iff_mem.mpr isListed), adds.concat_of_mem isListed⟩
      · refine ⟨added ++ [item], ?_, adds.concat_of_not_mem isListed⟩
        rw [if_neg (mt List.contains_iff_mem.mp isListed), List.append_assoc]

end Adding

namespace RuleMatch

/-- The match with other suggestions. -/
def withSuggestions (ruleMatch : RuleMatch) (suggestions : List String) : RuleMatch :=
  { ruleMatch with suggestions := suggestions }

/-- What a match shows of the expanded messages of its rule. -/
structure ShowsMessages (ruleMatch : RuleMatch) (message shortMessage extra : String) : Prop where
  display : ruleMatch.message = displayOf message
  shortDisplay : ruleMatch.shortMessage = displayOf shortMessage
  suggestions :
    ∃ added,
      ruleMatch.suggestions = suggestionsOf message ++ added ∧
        AddsNew (suggestionsOf message) (suggestionsOf extra) added

end RuleMatch

namespace Rule

variable {rule : Rule} {template : String}

/-- The rule with other further suggestions. -/
def withExtra (rule : Rule) (template : String) : Rule :=
  { rule with extraSuggestions := .text template }

/-- A match is built from three messages, since an empty one is expanded to itself. -/
theorem buildMatch_eq
    (isExtra : rule.extraSuggestions = .text template)
    (sentence : Sentence)
    (span wordSpan : Int × Int)
    (texts : Nat → String) :
    rule.buildMatch sentence span wordSpan texts = (do
      let message ← expandTemplate texts rule.message
      let shortMessage ← expandTemplate texts rule.shortMessage
      let extra ← expandTemplate texts (.text template)
      return {
        ruleId := rule.id
        subId := rule.subId
        message := displayOf message
        shortMessage := displayOf shortMessage
        suggestions := appendNew (suggestionsOf message) (suggestionsOf extra)
        sentence := sentence.text
        sentenceIndex := sentence.index
        span := span
        wordSpan := wordSpan }) := by
  unfold buildMatch
  rw [isExtra]
  by_cases isEmpty : template = ""
  · subst isEmpty
    rfl
  · have isTruthy : (Value.text template).isTruthy = true := by
      simp [Value.isTruthy, isEmpty]
    simp only [isTruthy, if_true]

theorem exists_showsMessages_of_buildMatch
    (isExtra : rule.extraSuggestions = .text template)
    {sentence : Sentence}
    {span wordSpan : Int × Int}
    {texts : Nat → String}
    {ruleMatch : RuleMatch}
    (built : rule.buildMatch sentence span wordSpan texts = .ok ruleMatch) :
    ∃ message shortMessage extra,
      expandTemplate texts rule.message = .ok message ∧
        expandTemplate texts rule.shortMessage = .ok shortMessage ∧
          expandTemplate texts (.text template) = .ok extra ∧
            ruleMatch.ShowsMessages message shortMessage extra := by
  rw [buildMatch_eq isExtra] at built
  obtain ⟨message, messageExpands, afterMessage⟩ := Outcome.bind_eq_ok_iff.mp built
  obtain ⟨shortMessage, shortExpands, afterShort⟩ := Outcome.bind_eq_ok_iff.mp afterMessage
  obtain ⟨extra, extraExpands, isMatch⟩ := Outcome.bind_eq_ok_iff.mp afterShort
  cases isMatch
  exact
    ⟨message, shortMessage, extra, messageExpands, shortExpands, extraExpands, rfl, rfl,
      exists_addsNew _ _⟩

/-- The further suggestions are only added to the suggestions of a match. -/
theorem findsLike_withExtra
    (isExtra : rule.extraSuggestions = .text template)
    (isTemplate : IsTemplate (.text template))
    {other : String}
    (isOther : IsTemplate (.text other)) :
    rule.FindsLike (rule.withExtra other) (·.withSuggestions []) (·.withSuggestions []) := by
  refine ⟨rfl, rfl, rfl, rfl, fun sentence span wordSpan texts => ?_⟩
  obtain ⟨extra, extraExpands⟩ := (@exists_expandTemplate_iff texts _).mpr isTemplate
  obtain ⟨extra', extraExpands'⟩ := (@exists_expandTemplate_iff texts _).mpr isOther
  have isOtherExtra : (rule.withExtra other).extraSuggestions = .text other := rfl
  rw [buildMatch_eq isExtra, buildMatch_eq isOtherExtra]
  simp only [Outcome.map_bind, extraExpands, extraExpands']
  rfl

/--
A match shows the expanded message of its rule and its short message; its suggestions are
those of the message, and after them each of the further suggestions that is not among them
once. Other further suggestions that can be expanded change nothing but the suggestions.
-/
theorem merges_extraSuggestions
    (isExtra : rule.extraSuggestions = .text template)
    {sentence : Sentence}
    {found : List RuleMatch}
    (succeeds : rule.matchesIn sentence = .ok found)
    {ruleMatch : RuleMatch}
    (member : ruleMatch ∈ found) :
    (∃ immunized texts message shortMessage extra,
        rule.immunizer sentence = .ok immunized ∧
          rule.QuotesTexts immunized ruleMatch texts ∧
            expandTemplate texts rule.message = .ok message ∧
              expandTemplate texts rule.shortMessage = .ok shortMessage ∧
                expandTemplate texts (.text template) = .ok extra ∧
                  ruleMatch.ShowsMessages message shortMessage extra) ∧
      ∀ other,
        IsTemplate (.text other) →
          ∃ found',
            (rule.withExtra other).matchesIn sentence = .ok found' ∧
              found'.map (·.withSuggestions []) = found.map (·.withSuggestions []) := by
  obtain ⟨hasPattern, immunized, immunizes, matched⟩ := matchesIn_eq_ok_iff.mp succeeds
  obtain ⟨texts, quotes⟩ := exists_quotesTexts_of_mem_matchPattern matched member
  obtain ⟨span, wordSpan, built⟩ := quotes.exists_buildMatch
  obtain ⟨message, shortMessage, extra, messageExpands, shortExpands, extraExpands, shows⟩ :=
    exists_showsMessages_of_buildMatch isExtra built
  refine
    ⟨⟨immunized, texts, message, shortMessage, extra, immunizes, quotes, messageExpands,
      shortExpands, extraExpands, shows⟩, fun other isOther => ?_⟩
  have isTemplate := exists_expandTemplate_iff.mp ⟨extra, extraExpands⟩
  have same :=
    matchesIn_map_eq (findsLike_withExtra isExtra isTemplate isOther) sentence hasPattern rfl
  rw [succeeds] at same
  obtain ⟨found', isFound, sameMatches⟩ := Outcome.map_eq_ok_iff.mp same.symm
  exact ⟨found', isFound, sameMatches⟩

/-- A rule for any word that suggests it twice in its message and again among others. -/
def suggestingWord : Rule :=
  { quotingWord "<suggestion>\\1</suggestion><suggestion>\\1</suggestion>" with
    extraSuggestions :=
      .text
        ("<suggestion>y</suggestion><suggestion>\\1</suggestion>"
          ++ "<suggestion>z</suggestion><suggestion>y</suggestion>") }

/-- The repetition in the message stays, and of the others each new one is added once. -/
theorem merges_extraSuggestions_suggestingWord :
    ∃ found ruleMatch message shortMessage extra,
      suggestingWord.matchesIn { words := [{ text := "x" }] } = .ok found ∧
        ruleMatch ∈ found ∧
          ruleMatch.suggestions = ["x", "x", "y", "z"] ∧
            ruleMatch.ShowsMessages message shortMessage extra ∧
              IsTemplate (.text "") ∧
                ∃ found',
                  (suggestingWord.withExtra "").matchesIn { words := [{ text := "x" }] } =
                      .ok found' ∧
                    found'.map (·.withSuggestions []) = found.map (·.withSuggestions []) := by
  have evaluated :
      (suggestingWord.matchesIn { words := [{ text := "x" }] }).toOption.map
          (·.map (·.suggestions)) =
        some [["x", "x", "y", "z"]] := by
    decide +kernel
  obtain ⟨found, succeeds, areSuggestions⟩ := Outcome.exists_eq_ok_of_toOption_map evaluated
  obtain ⟨ruleMatch, isMatch, isSuggestion⟩ := List.map_eq_singleton_iff.mp areSuggestions
  have member : ruleMatch ∈ found := by simp [isMatch]
  obtain ⟨⟨_, _, message, shortMessage, extra, _, _, _, _, _, shows⟩, others⟩ :=
    merges_extraSuggestions (by rfl) succeeds member
  have isTemplate : IsTemplate (.text "") :=
    ⟨"", rfl, by simp [templateParts, templatePartsFrom]⟩
  exact
    ⟨found, ruleMatch, message, shortMessage, extra, succeeds, member, isSuggestion, shows,
      isTemplate, others "" isTemplate⟩

end Rule

end ProseRules
