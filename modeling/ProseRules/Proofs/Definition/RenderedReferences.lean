import Mathlib.Data.List.Sort
import ProseRules.Proofs.Definition.Origins
import ProseRules.Proofs.Rule.Cuts
import ProseRules.Proofs.Text.Lower

namespace ProseRules

/-!
# References in patterns and in messages

Both kinds of references count units. A message shows all words of a unit, while a token of a
pattern that refers to a unit is compared with the words of the first token of this unit. The
two are the same text where the other tokens of the unit have no words.
-/

/-- A text as it is compared, in small letters unless case counts. -/
def compared (caseSensitive : Bool) (text : String) : String :=
  if caseSensitive then text else Text.lower text

theorem tokenText_eq_compared
    (candidate : Candidate)
    (words : List Word)
    (caseSensitive : Bool)
    (token : Nat) :
    tokenText words candidate caseSensitive token =
      compared caseSensitive (textOfWords words (candidate.positionsOf token)) := by
  have notNegative : ¬((token : Int) < 0) := by omega
  simp only [tokenText, compared, notNegative, if_false, Int.toNat_natCast]

section Texts

variable {words : List Word}

/-- The texts of some words, none of which is empty, make a text. -/
theorem textOfWords_ne_empty
    (noEmptyWord : ∀ word ∈ words, word.text ≠ "")
    {positions : List Nat}
    (inside : ∀ position ∈ positions, position < words.length)
    (somePosition : positions ≠ []) :
    textOfWords words positions ≠ "" := by
  cases positions with
  | nil =>
      exact (somePosition rfl).elim
  | cons position later =>
      have isInside := inside position List.mem_cons_self
      have notEmpty := noEmptyWord _ (List.getElem_mem isInside)
      rw [textOfWords, List.filterMap_cons, List.getElem?_eq_getElem isInside]
      dsimp only [Option.map_some]
      intro isEmpty
      cases others : later.filterMap fun position => (words[position]?).map (·.text) with
      | nil =>
          rw [others, String.intercalate_singleton] at isEmpty
          exact notEmpty isEmpty
      | cons second rest =>
          rw [others, String.intercalate_cons_cons] at isEmpty
          simp at isEmpty

/-- More words make another text, also in small letters. -/
theorem compared_textOfWords_append_iff
    (noEmptyWord : ∀ word ∈ words, word.text ≠ "")
    (caseSensitive : Bool)
    (first : List Nat)
    {others : List Nat}
    (inside : ∀ position ∈ others, position < words.length) :
    compared caseSensitive (textOfWords words (first ++ others)) =
        compared caseSensitive (textOfWords words first) ↔
      others = [] := by
  constructor
  · intro sameText
    by_contra someOther
    have moreText := textOfWords_ne_empty noEmptyWord inside someOther
    have otherForm :
        Text.lower (textOfWords words (first ++ others)) ≠
          Text.lower (textOfWords words first) := by
      unfold textOfWords at moreText ⊢
      rw [List.filterMap_append]
      generalize first.filterMap _ = firstTexts
      generalize others.filterMap _ = otherTexts at moreText ⊢
      have someText : otherTexts ≠ [] := by
        rintro rfl
        exact moreText String.intercalate_nil
      by_cases noFirst : firstTexts = []
      · subst noFirst
        exact Text.lower_ne_lower_empty moreText
      · rw [String.intercalate_append_of_ne_nil noFirst someText, String.append_assoc]
        exact Text.lower_append_ne _ (by simp)
    cases caseSensitive with
    | false =>
        exact otherForm sameText
    | true =>
        exact otherForm (congrArg Text.lower sameText)
  · rintro rfl
    rw [List.append_nil]

end Texts

/-- The words between two tokens are those of one token after the other. -/
theorem Candidate.positionsBetween_eq
    {candidate : Candidate}
    {tokens first last : Nat}
    (inOrder : first ≤ last)
    (inside : last ≤ tokens) :
    candidate.positionsBetween tokens first last =
      (List.range' first (last - first)).flatMap candidate.positionsOf := by
  have sameTokens :
      ((List.range tokens).filter fun (token : Nat) =>
          (first : Int) ≤ token && (token : Int) < last) =
        List.range' first (last - first) := by
    refine (List.pairwise_lt_range.filter _).eq_of_mem_iff (List.pairwise_lt_range' 1) ?_
    intro token
    simp only [List.mem_filter, List.mem_range, List.mem_range'_1, Bool.and_eq_true,
      decide_eq_true_eq]
    omega
  rw [positionsBetween, sameTokens]

namespace Rule

/-- The text that a reference with this number shows in the messages of a match. -/
def rendered (rule : Rule) (words : List Word) (candidate : Candidate) (number : Nat) : String :=
  (UnitScale.ofRule rule).unitText words candidate (Int.ofNat number - 1)

/-- The tokens of a unit, its first one apart, have no words. -/
def TakesFirstOnly (rule : Rule) (candidate : Candidate) (unit : Nat) : Prop :=
  ∀ token,
    (rule.unitSizes.take unit).sum < token → token < (rule.unitSizes.take (unit + 1)).sum →
      candidate.positionsOf token = []

variable {rule : Rule} {words : List Word} {candidate : Candidate} {unit : Nat}

/-- A reference in a message shows the words that are given to the tokens of its unit. -/
theorem rendered_succ_eq
    (unitExists : unit < rule.unitSizes.length) :
    rule.rendered words candidate (unit + 1) =
      textOfWords words
        (candidate.positionsBetween rule.tokens.length (rule.unitSizes.take unit).sum
          (rule.unitSizes.take (unit + 1)).sum) := by
  have unitShape : Int.ofNat (unit + 1) - 1 = (unit : Int) := by
    rw [Int.ofNat_eq_natCast]
    omega
  have inRange : ¬((unit : Int) < 0 ∨ (unit : Int) ≥ (UnitScale.ofRule rule).count) := by
    rw [UnitScale.count_ofRule]
    omega
  rw [rendered, UnitScale.unitText, unitShape, if_neg inRange, UnitScale.bounds_ofRule unitExists]
  rfl

/-- A reference in a message shows the words of the first token of its unit and of the others. -/
theorem exists_rendered_eq
    (unitExists : unit < rule.unitSizes.length) :
    ∃ others,
      rule.rendered words candidate (unit + 1) =
          textOfWords words
            (candidate.positionsOf (rule.unitSizes.take unit).sum ++ others) ∧
        (others = [] ↔ rule.TakesFirstOnly candidate unit) ∧
          ∀ position ∈ others, position < candidate.stop := by
  have someToken : 0 < rule.unitSizes[unit] :=
    Token.pos_of_mem_unitSizes (List.getElem_mem unitExists)
  have stopOfUnit :
      (rule.unitSizes.take (unit + 1)).sum =
        (rule.unitSizes.take unit).sum + rule.unitSizes[unit] := by
    rw [List.take_succ_eq_append_getElem unitExists, List.sum_append, List.sum_singleton]
  have insideTokens : (rule.unitSizes.take (unit + 1)).sum ≤ rule.tokens.length := by
    have allTokens : rule.unitSizes.sum = rule.tokens.length := Token.sum_unitSizes rule.tokens
    have := sum_take_le_sum rule.unitSizes (unit + 1)
    omega
  have tokensOfUnit :
      List.range' (rule.unitSizes.take unit).sum rule.unitSizes[unit] =
        (rule.unitSizes.take unit).sum ::
          List.range' ((rule.unitSizes.take unit).sum + 1) (rule.unitSizes[unit] - 1) := by
    rw [← List.range'_succ, Nat.sub_add_cancel someToken]
  refine
    ⟨(List.range' ((rule.unitSizes.take unit).sum + 1) (rule.unitSizes[unit] - 1)).flatMap
      candidate.positionsOf, ?_, ?_, ?_⟩
  · rw [rendered_succ_eq unitExists, Candidate.positionsBetween_eq (by omega) insideTokens,
      stopOfUnit, Nat.add_sub_cancel_left, tokensOfUnit, List.flatMap_cons]
  · rw [List.flatMap_eq_nil_iff, TakesFirstOnly, stopOfUnit]
    refine forall_congr' fun token => ?_
    rw [List.mem_range'_1]
    constructor
    · intro none after before
      exact none (by omega)
    · intro none inside
      exact none (by omega) (by omega)
  · intro position isOther
    obtain ⟨token, _, given⟩ := List.mem_flatMap.mp isOther
    obtain ⟨notBefore, atPlace⟩ := Candidate.mem_positionsOf_iff.mp given
    have := (List.getElem?_eq_some_iff.mp atPlace).1
    rw [Candidate.stop]
    omega

/--
How the token at a place is compared with the unit that it refers to: with what the messages
show of this unit, if only its first token has words.
-/
structure ComparesWithUnit (rule : Rule) (words : List Word) (candidate : Candidate)
    (entries : TokenEntries) (place unit : Nat) : Prop where
  asRendered :
    rule.TakesFirstOnly candidate unit →
      (tokenText words candidate (entries.flag "case_sensitive") place =
          compared (entries.flag "case_sensitive") (rule.rendered words candidate (unit + 1)) ↔
        entries.flag "negation" = false)
  otherwise :
    ¬rule.TakesFirstOnly candidate unit →
      entries.flag "negation" = false →
        tokenText words candidate (entries.flag "case_sensitive") place ≠
          compared (entries.flag "case_sensitive") (rule.rendered words candidate (unit + 1))

/-- A reference that holds is compared with the words of the first token of its unit. -/
theorem comparesWithUnit_of_referenceHolds
    (noEmptyWord : ∀ word ∈ words, word.text ≠ "")
    (inside : candidate.stop ≤ words.length)
    (unitExists : unit < rule.unitSizes.length)
    {entries : TokenEntries}
    {place : Nat}
    {token : Token}
    (isReference : token.reference = some ((rule.unitSizes.take unit).sum : Int))
    (isNegated : token.negated = entries.flag "negation")
    (caseCounts : token.caseSensitive = entries.flag "case_sensitive")
    (holds : referenceHolds words candidate token place = true)
    (someWord : candidate.positionsOf place ≠ []) :
    rule.ComparesWithUnit words candidate entries place unit := by
  obtain ⟨others, isRendered, noOthers_iff, othersInside⟩ :=
    @exists_rendered_eq rule words candidate unit unitExists
  have sameText_iff :=
    compared_textOfWords_append_iff noEmptyWord (entries.flag "case_sensitive")
      (candidate.positionsOf (rule.unitSizes.take unit).sum)
      (fun position isOther => Nat.lt_of_lt_of_le (othersInside position isOther) inside)
  rw [← isRendered, noOthers_iff] at sameText_iff
  have holdsOfFirst :
      tokenText words candidate (entries.flag "case_sensitive") place =
          compared (entries.flag "case_sensitive")
            (textOfWords words (candidate.positionsOf (rule.unitSizes.take unit).sum)) ↔
        entries.flag "negation" = false := by
    rw [← tokenText_eq_compared]
    simp only [referenceHolds, isReference, isNegated, caseCounts, List.isEmpty_iff, someWord,
      if_false] at holds
    cases isNegative : entries.flag "negation" <;> simpa [isNegative] using holds
  constructor
  case asRendered =>
    intro firstOnly
    rw [sameText_iff.mpr firstOnly]
    exact holdsOfFirst
  case otherwise =>
    intro moreWords notNegated sameText
    rw [holdsOfFirst.mpr notNegated] at sameText
    exact moreWords (sameText_iff.mp sameText.symm)

/-- The candidate is one of the pattern, and the match was built for it. -/
structure BuildsMatchOf (rule : Rule) (sentence : Sentence) (candidate : Candidate)
    (ruleMatch : RuleMatch) : Prop where
  accepted :
    ∃ accepted,
      acceptedCandidates rule.tokens sentence.words = .ok accepted ∧ candidate ∈ accepted
  built :
    ∃ immunized span wordSpan,
      rule.immunizer sentence = .ok immunized ∧
        rule.buildMatch immunized span wordSpan (rule.rendered sentence.words candidate) =
          .ok ruleMatch

theorem tokens_ne_nil
    (someUnit : rule.unitSizes ≠ []) :
    rule.tokens ≠ [] := by
  intro noTokens
  refine someUnit ?_
  rw [Rule.unitSizes, noTokens]
  rfl

/-- The pattern of a rule with tokens consists of them. -/
theorem exists_tokens_pattern
    (someTokens : rule.tokens ≠ []) :
    ∃ precede, rule.pattern = .tokens rule.tokens precede := by
  cases isPattern : rule.pattern with
  | tokens tokens precede =>
      obtain rfl : rule.tokens = tokens := by rw [Rule.tokens, isPattern]
      exact ⟨precede, rfl⟩
  | absent =>
      rw [Rule.tokens, isPattern] at someTokens
      exact (someTokens rfl).elim
  | expression expression mark groupExists =>
      rw [Rule.tokens, isPattern] at someTokens
      exact (someTokens rfl).elim

/-- Every match of a rule with tokens was built for a candidate whose references hold. -/
theorem exists_buildsMatchOf
    (someTokens : rule.tokens ≠ [])
    (defaultImmunizer : rule.ownImmunizer = none)
    {sentence : Sentence}
    {found : List RuleMatch}
    (succeeds : rule.matchesIn sentence = .ok found)
    {ruleMatch : RuleMatch}
    (member : ruleMatch ∈ found) :
    ∃ candidate : Candidate,
      rule.BuildsMatchOf sentence candidate ruleMatch ∧
        candidate.stop ≤ sentence.words.length ∧
          referencesHold sentence.words rule.tokens candidate = true := by
  obtain ⟨precede, pattern⟩ := exists_tokens_pattern someTokens
  obtain ⟨immunized, immunizes, matched⟩ := exists_immunized_of_matchesIn pattern succeeds
  have sameWords := words_of_immunizer defaultImmunizer immunizes
  obtain ⟨steps, compiled, stepsLeft, candidate, isCandidate, hold, ofCandidate⟩ :=
    exists_candidate_of_mem_matchTokens matched member
  rw [sameWords] at isCandidate hold
  have isAccepted :
      ∃ accepted,
        acceptedCandidates rule.tokens sentence.words = .ok accepted ∧ candidate ∈ accepted :=
    ⟨_, Outcome.bind_eq_ok_iff.mpr ⟨steps, compiled, rfl⟩,
      List.mem_filter.mpr ⟨isCandidate, hold⟩⟩
  have isBuilt :
      ∃ span wordSpan,
        rule.buildMatch immunized span wordSpan (rule.rendered sentence.words candidate) =
          .ok ruleMatch := by
    obtain ⟨⟨first, last⟩, _, built⟩ := Outcome.bind_eq_ok_iff.mp ofCandidate
    rw [← sameWords]
    exact ⟨_, _, built⟩
  obtain ⟨span, wordSpan, built⟩ := isBuilt
  obtain ⟨_, inside⟩ := range_of_mem_candidates (by simpa using stepsLeft) isCandidate
  exact
    ⟨candidate, ⟨isAccepted, immunized, span, wordSpan, immunizes, built⟩, inside, hold⟩

end Rule

/--
In a rule that is loaded, each token with a reference is compared with what a reference of
the same number shows in the messages of the match, if only the first token of the unit has
words in this match.
-/
theorem comparesWithUnit_of_mem_rulesOfEntries
    {source language : String}
    {document : List (Value × Value)}
    {context : DefinitionContext}
    {loaded : Loaded}
    (isContext : DefinitionContext.ofEntries source language document = .ok context)
    (loads : rulesOfEntries source language document = .ok loaded)
    {rule : Rule}
    (member : rule ∈ loaded.rules)
    (someTokens : rule.tokens ≠ []) :
    ∃ id subId definition elements rows,
      HoldsDefinition document id subId definition ∧
        definition.HasElements elements ∧
          rule.ReadsPattern context.phrases ⟨context.source, id⟩ elements rows ∧
            ∀ sentence found,
              (∀ word ∈ sentence.words, word.text ≠ "") →
                rule.matchesIn sentence = .ok found →
                  ∀ ruleMatch ∈ found,
                    ∃ candidate : Candidate,
                      rule.BuildsMatchOf sentence candidate ruleMatch ∧
                        ∀ place placed,
                          rows.flatten[place]? = some placed →
                            Value.fieldOr "reference" .null placed.entries ≠ .null →
                              ∃ unit : Nat,
                                (Value.fieldOr "reference" .null placed.entries).toInteger =
                                    .ok (unit + 1 : Int) ∧
                                  unit < rule.unitSizes.length ∧
                                    (candidate.positionsOf place ≠ [] →
                                      rule.ComparesWithUnit sentence.words candidate
                                        placed.entries place unit) := by
  obtain ⟨id, subId, definition, part, holds, reads, inPart⟩ :=
    exists_definition_of_mem isContext loads member
  obtain ⟨elements, choices, antipatterns, areElements, _, _, readEach⟩ :=
    RuleEntries.exists_readings_of_rules reads
  obtain ⟨rows, _, readsPattern, _, defaultImmunizer⟩ :=
    Outcome.exists_related_of_mem readEach.flip inPart
  refine ⟨id, subId, definition, elements, rows, holds, areElements, readsPattern, ?_⟩
  intro sentence found noEmptyWord succeeds ruleMatch isFound
  obtain ⟨candidate, isMatch, inside, hold⟩ :=
    Rule.exists_buildsMatchOf someTokens defaultImmunizer succeeds isFound
  refine ⟨candidate, isMatch, fun place placed isPlaced refers => ?_⟩
  obtain ⟨token, isToken, readToken⟩ :=
    Outcome.exists_getElem?_of_forall₂ readsPattern.tokens isPlaced
  have isReadAs := TokenEntries.isReadAs_of_token readToken
  obtain ⟨unit, isNumber, unitExists, isReference⟩ :=
    TokenEntries.exists_number_of_reference refers isReadAs.reference
  refine ⟨unit, isNumber, unitExists, fun someWord => ?_⟩
  have holds : referenceHolds sentence.words candidate token place = true := by
    rw [referencesHold, List.all_eq_true] at hold
    exact hold _ (List.mk_mem_zipIdx_iff_getElem?.mpr isToken)
  exact
    Rule.comparesWithUnit_of_referenceHolds noEmptyWord inside unitExists isReference
      isReadAs.negated isReadAs.caseSensitive holds someWord

/-- The definition of a token that refers to the first unit. -/
def firstReference : TokenEntries :=
  [(.text "reference", .int 1)]

/-- A definition of a pattern whose message shows the first unit. -/
def showingFirst (elements : List Value) : RuleEntries :=
  [(.text "id", .text "R"), (.text "message", .text "\\1"), (.text "pattern", .list elements)]

/-- A document with a phrase of two words and such a definition. -/
def documentShowingFirst (elements : List Value) : List (Value × Value) :=
  [(.text "phrases",
      .mapping [(.text "greeting", .list [.list [.text "good", .text "morning"]])]),
    (.text "rules", .list [.mapping (showingFirst elements)])]

theorem eq_showingFirst_of_holdsDefinition
    {elements : List Value}
    {id subId : Value}
    {definition : RuleEntries}
    (holds : HoldsDefinition (documentShowingFirst elements) id subId definition) :
    definition = showingFirst elements := by
  have isNoGroup : Value.field? "rules" (showingFirst elements) = none := by
    simp [showingFirst]
  obtain ⟨_, _, isDefinition⟩ := (holdsDefinition_documentOf_iff isNoGroup).mp holds
  exact isDefinition

/-- What is known of the only rule of a document from running it. -/
theorem exists_rule_showingFirst
    {elements : List Value}
    {sentence : Sentence}
    {sizes : List Nat}
    {accepted : List Candidate}
    {messages : List String}
    (hasSizes :
      (rulesOfEntries "<string>" "" (documentShowingFirst elements)).toOption.map
          (fun loaded => loaded.rules.map Rule.unitSizes) =
        some [sizes])
    (accepts :
      (rulesOfEntries "<string>" "" (documentShowingFirst elements)).toOption.map
          (fun loaded =>
            loaded.rules.map fun rule =>
              (Rule.acceptedCandidates rule.tokens sentence.words).toOption) =
        some [some accepted])
    (shows :
      (rulesOfEntries "<string>" "" (documentShowingFirst elements)).toOption.map
          (fun loaded =>
            loaded.rules.map fun rule =>
              (rule.matchesIn sentence).toOption.map (·.map (·.message))) =
        some [some messages]) :
    ∃ loaded rule found,
      rulesOfEntries "<string>" "" (documentShowingFirst elements) = .ok loaded ∧
        loaded.rules = [rule] ∧
          rule.unitSizes = sizes ∧
            Rule.acceptedCandidates rule.tokens sentence.words = .ok accepted ∧
              rule.matchesIn sentence = .ok found ∧ found.map (·.message) = messages := by
  obtain ⟨loaded, isLoaded, ofSizes⟩ := Option.map_eq_some_iff.mp hasSizes
  rw [isLoaded, Option.map_some, Option.some.injEq] at accepts shows
  obtain ⟨rule, isRule, sameSizes⟩ := List.map_eq_singleton_iff.mp ofSizes
  rw [isRule, List.map_singleton, List.singleton_inj] at accepts shows
  obtain ⟨found, isFound, sameMessages⟩ := Option.map_eq_some_iff.mp shows
  exact
    ⟨loaded, rule, found, Outcome.eq_ok_of_toOption isLoaded, isRule, sameSizes,
      Outcome.eq_ok_of_toOption accepts, Outcome.eq_ok_of_toOption isFound, sameMessages⟩

/-- A word that is repeated. -/
def repeatedWord : List Value :=
  [.text "very", .mapping firstReference]

/-- A sentence that repeats a word in another case. -/
def veryVery : Sentence :=
  { words := [{ text := "Very" }, { text := "very" }] }

/-- A single word is repeated as the message shows it, up to case. -/
theorem comparesWithUnit_repeatedWord :
    ∃ loaded rule found ruleMatch,
      ∃ candidate : Candidate,
        rulesOfEntries "<string>" "" (documentShowingFirst repeatedWord) = .ok loaded ∧
          rule ∈ loaded.rules ∧
            rule.tokens ≠ [] ∧
              (∀ word ∈ veryVery.words, word.text ≠ "") ∧
                rule.matchesIn veryVery = .ok found ∧
                  ruleMatch ∈ found ∧
                    rule.BuildsMatchOf veryVery candidate ruleMatch ∧
                      candidate.positionsOf 1 ≠ [] ∧
                        tokenText veryVery.words candidate false 1 =
                          compared false (rule.rendered veryVery.words candidate 1) := by
  obtain ⟨loaded, rule, found, loads, isRule, sizes, accepts, succeeds, messages⟩ :=
    @exists_rule_showingFirst repeatedWord veryVery [1, 1] [⟨0, [0, 1]⟩] ["Very"]
      (by decide +kernel) (by decide +kernel) (by decide +kernel)
  obtain ⟨ruleMatch, isMatch, _⟩ := List.map_eq_singleton_iff.mp messages
  have member : rule ∈ loaded.rules := by simp [isRule]
  have inFound : ruleMatch ∈ found := by simp [isMatch]
  have noEmptyWord : ∀ word ∈ veryVery.words, word.text ≠ "" := by decide
  have someTokens : rule.tokens ≠ [] := Rule.tokens_ne_nil (by simp [sizes])
  obtain ⟨context, isContext⟩ :
      ∃ context,
        DefinitionContext.ofEntries "<string>" "" (documentShowingFirst repeatedWord) =
          .ok context := by
    simp [DefinitionContext.ofEntries, documentShowingFirst, Value.fieldOr, pure, Except.pure]
  obtain ⟨id, subId, definition, elements, rows, holds, areElements, readsPattern, compares⟩ :=
    comparesWithUnit_of_mem_rulesOfEntries isContext loads member someTokens
  obtain ⟨candidate, buildsMatch, comparesAt⟩ :=
    compares veryVery found noEmptyWord succeeds ruleMatch inFound
  obtain ⟨accepted, isAccepted, inAccepted⟩ := buildsMatch.accepted
  rw [accepts, Except.ok.injEq] at isAccepted
  rw [← isAccepted, List.mem_singleton] at inAccepted
  have someWord : candidate.positionsOf 1 ≠ [] := by
    rw [inAccepted]
    decide
  rw [eq_showingFirst_of_holdsDefinition holds] at areElements
  have sameElements : elements = repeatedWord := by
    simpa [RuleEntries.HasElements, RuleEntries.patternElements, showingFirst, Value.elements,
      eq_comm] using areElements
  subst sameElements
  obtain ⟨first, _, givesFirst, later, rfl⟩ :=
    List.forall₂_cons_left_iff.mp readsPattern.given
  obtain ⟨second, _, givesSecond, noMore, rfl⟩ := List.forall₂_cons_left_iff.mp later
  have isReference :
      TokenEntries.ofValue ⟨context.source, id⟩ (.mapping firstReference) = .ok firstReference :=
    rfl
  have isFirst := givesFirst.eq_singleton rfl (by simp)
  have isSecond := givesSecond.eq_singleton isReference (by simp [firstReference])
  obtain ⟨unit, isNumber, _, comparesUnit⟩ :=
    comparesAt 1 ⟨firstReference, firstReference.ownPhrase⟩ (by simp [isFirst, isSecond])
      (by simp [firstReference, Value.fieldOr])
  have isFirstUnit : unit = 0 := by
    simp only [firstReference, Value.fieldOr, Value.field?_cons, if_true, Option.getD_some,
      Value.toInteger, Except.ok.injEq] at isNumber
    omega
  subst isFirstUnit
  have firstOnly : rule.TakesFirstOnly candidate 0 := by
    intro token after before
    simp only [sizes, List.take_zero, List.take_succ_cons, List.sum_nil, List.sum_cons]
      at after before
    omega
  have noFlag (name : String) (other : name ≠ "reference") : firstReference.flag name = false := by
    simp [TokenEntries.flag, firstReference, Value.fieldOr, other.symm, Value.isTruthy]
  have sameText := ((comparesUnit someWord).asRendered firstOnly).mpr (noFlag _ (by decide))
  rw [noFlag "case_sensitive" (by decide)] at sameText
  exact
    ⟨loaded, rule, found, ruleMatch, candidate, loads, member, someTokens, noEmptyWord, succeeds,
      inFound, buildsMatch, someWord, sameText⟩

/-- A phrase of two words before a reference to it. -/
def repeatedGreeting : List Value :=
  [.mapping [(.text "phraseref", .text "greeting")], .mapping firstReference]

/-- A sentence that repeats the first word of the phrase only. -/
def goodMorningGood : Sentence :=
  { words := [{ text := "good" }, { text := "morning" }, { text := "good" }] }

/-- The message shows the whole phrase, of which the reference repeats the first word only. -/
theorem rendered_ne_tokenText_repeatedGreeting :
    ∃ loaded rule found ruleMatch,
      ∃ candidate : Candidate,
        rulesOfEntries "<string>" "" (documentShowingFirst repeatedGreeting) = .ok loaded ∧
          loaded.rules = [rule] ∧
            rule.unitSizes = [2, 1] ∧
              rule.matchesIn goodMorningGood = .ok found ∧
                ruleMatch ∈ found ∧
                  ruleMatch.message = "good morning" ∧
                    rule.BuildsMatchOf goodMorningGood candidate ruleMatch ∧
                      candidate.positionsOf 2 = [2] ∧
                        tokenText goodMorningGood.words candidate false 2 = "good" ∧
                          compared false (rule.rendered goodMorningGood.words candidate 1) =
                            "good morning" := by
  obtain ⟨loaded, rule, found, loads, isRule, sizes, accepts, succeeds, messages⟩ :=
    @exists_rule_showingFirst repeatedGreeting goodMorningGood [2, 1] [⟨0, [0, 1, 2]⟩]
      ["good morning"] (by decide +kernel) (by decide +kernel) (by decide +kernel)
  obtain ⟨ruleMatch, isMatch, isMessage⟩ := List.map_eq_singleton_iff.mp messages
  have inFound : ruleMatch ∈ found := by simp [isMatch]
  have member : rule ∈ loaded.rules := by simp [isRule]
  have someTokens : rule.tokens ≠ [] := Rule.tokens_ne_nil (by simp [sizes])
  have evaluated :
      (rulesOfEntries "<string>" "" (documentShowingFirst repeatedGreeting)).toOption.map
          (fun loaded =>
            loaded.rules.map fun rule =>
              compared false (rule.rendered goodMorningGood.words ⟨0, [0, 1, 2]⟩ 1)) =
        some ["good morning"] := by
    decide +kernel
  rw [loads, Except.toOption, Option.map_some, isRule, List.map_singleton, Option.some.injEq,
    List.singleton_inj] at evaluated
  obtain ⟨candidate, buildsMatch, _⟩ :=
    Rule.exists_buildsMatchOf someTokens (ownImmunizer_of_mem_rulesOfEntries loads member) succeeds
      inFound
  obtain ⟨accepted, isAccepted, inAccepted⟩ := buildsMatch.accepted
  rw [accepts, Except.ok.injEq] at isAccepted
  rw [← isAccepted, List.mem_singleton] at inAccepted
  subst inAccepted
  exact
    ⟨loaded, rule, found, ruleMatch, _, loads, isRule, sizes, succeeds, inFound, isMessage,
      buildsMatch, by decide, by decide +kernel, evaluated⟩

end ProseRules
