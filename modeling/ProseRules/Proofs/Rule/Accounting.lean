import ProseRules.Proofs.Rule.UnitCounts
import ProseRules.Proofs.Token.Partition

namespace ProseRules

/-!
# A phrase for every token

The tokens of a pattern without phrases are counted one by one. If each of them is given a phrase
of its own, all tokens are units as before, but now they are counted by units. Nothing else of
the rule depends on the phrases, so its matches are the same exactly if the same words are
flagged in both ways of counting.
-/

namespace Token

/-- The token as one of a phrase. -/
def withPhrase (token : Token) (name : String) : Token :=
  { token with phrase := .text name }

/-- The tokens as those of phrases, one phrase for each. -/
def withPhrases (tokens : List Token) (names : List String) : List Token :=
  List.zipWith withPhrase tokens names

end Token

/-- Names of phrases that differ from each other. -/
structure AreOwnNames (names : List String) : Prop where
  someName : "" ∉ names
  distinct : names.Nodup

/-- What a token takes over from the token that is given a phrase. -/
theorem exists_token_of_withPhrases
    {tokens : List Token}
    {names : List String}
    {index : Nat}
    {named : Token}
    (isNamed : (Token.withPhrases tokens names)[index]? = some named) :
    ∃ token name, tokens[index]? = some token ∧ named = token.withPhrase name := by
  obtain ⟨token, name, isToken, _, rfl⟩ := List.getElem?_zipWith_eq_some.mp isNamed
  exact ⟨token, name, isToken, rfl⟩

theorem referencesPrecede_withPhrases
    {tokens : List Token}
    (names : List String)
    (precede : referencesPrecede tokens) :
    referencesPrecede (Token.withPhrases tokens names) := by
  rintro ⟨named, index⟩ member reference isReference
  obtain ⟨token, name, isToken, rfl⟩ :=
    exists_token_of_withPhrases (List.mk_mem_zipIdx_iff_getElem?.mp member)
  exact precede (token, index) (List.mk_mem_zipIdx_iff_getElem?.mpr isToken) reference isReference

/-- The pattern with its tokens as those of phrases. -/
def RulePattern.withPhrases (names : List String) : RulePattern → RulePattern
  | .tokens row precede =>
      .tokens (Token.withPhrases row names) (referencesPrecede_withPhrases names precede)
  | pattern => pattern

/-- The rule with its tokens as those of phrases, one phrase for each. -/
def Rule.withPhrases (rule : Rule) (names : List String) : Rule :=
  { rule with pattern := rule.pattern.withPhrases names }

section Named

variable {tokens : List Token} {names : List String}

theorem map_phrase_withPhrases
    (nameForEach : names.length = tokens.length) :
    (Token.withPhrases tokens names).map (·.phrase) = names.map Value.text := by
  rw [Token.withPhrases, List.map_zipWith]
  exact List.ext_getElem (by simp [nameForEach]) (by simp [Token.withPhrase])

/-- A token with a phrase of its own is a unit. -/
theorem unitSizes_withPhrases
    (own : AreOwnNames names)
    (nameForEach : names.length = tokens.length) :
    Token.unitSizes (Token.withPhrases tokens names) = List.replicate tokens.length 1 := by
  have named :
      List.Forall₂ (IsUnitNamed id) (names.map Value.text)
        (names.map fun name => [Value.text name]) := by
    rw [List.forall₂_map_left_iff, List.forall₂_map_right_iff, List.forall₂_same]
    intro name member
    refine ⟨⟨name, rfl⟩, by simp, by simp, fun noName => ?_⟩
    cases noName
    exact (own.someName member).elim
  have apart :
      (names.map Value.text).IsChain fun first second => first = second → first = .text "" := by
    rw [List.isChain_map]
    refine own.distinct.isChain.imp fun first second notSame sameName => ?_
    exact (notSame (Value.text.inj sameName)).elim
  have areUnits :
      (names.map Value.text).splitBy Token.phrasesJoin =
        names.map fun name => [Value.text name] := by
    have ofNamed := splitBy_flatten_of_named named apart
    rwa [← List.flatMap_def, ← List.map_eq_flatMap] at ofNamed
  rw [Token.unitSizes_eq_of_phrases, map_phrase_withPhrases nameForEach, areUnits, List.map_map,
    ← nameForEach]
  exact List.map_const'

theorem usesGrouping_withPhrases
    (own : AreOwnNames names)
    (nameForEach : names.length = tokens.length)
    (someTokens : tokens ≠ []) :
    Token.usesGrouping (Token.withPhrases tokens names) = true := by
  cases tokens with
  | nil =>
      exact (someTokens rfl).elim
  | cons token tokens =>
      cases names with
      | nil =>
          cases nameForEach
      | cons name names =>
          have someName : name ≠ "" := fun noName => own.someName (noName ▸ List.mem_cons_self)
          simp [Token.usesGrouping, Token.withPhrases, Token.withPhrase, Token.isPartOfPhrase,
            Value.isTruthy, someName]

/-- Apart from their phrases the tokens are left as they are. -/
theorem map_withPhrase_withPhrases
    (nameForEach : names.length = tokens.length) :
    (Token.withPhrases tokens names).map (·.withPhrase "") = tokens.map (·.withPhrase "") := by
  rw [Token.withPhrases, List.map_zipWith]
  exact List.ext_getElem (by simp [nameForEach]) (by simp [Token.withPhrase])

/-- Phrases do not count for the steps of tokens. -/
theorem ofTokensFrom_map_withPhrase
    (index : Nat)
    (tokens : List Token) :
    Step.ofTokensFrom index (tokens.map (·.withPhrase "")) = Step.ofTokensFrom index tokens := by
  induction tokens generalizing index with
  | nil =>
      rfl
  | cons token tokens inductionHypothesis =>
      rw [List.map_cons, Step.ofTokensFrom, Step.ofTokensFrom, inductionHypothesis]
      rfl

theorem ofTokens_withPhrases
    (nameForEach : names.length = tokens.length) :
    Step.ofTokens (Token.withPhrases tokens names) = Step.ofTokens tokens := by
  rw [Step.ofTokens, ← ofTokensFrom_map_withPhrase, map_withPhrase_withPhrases nameForEach,
    ofTokensFrom_map_withPhrase, ← Step.ofTokens]

/-- Phrases do not count for the references of tokens. -/
theorem referencesHold_map_withPhrase
    (words : List Word)
    (tokens : List Token)
    (candidate : Candidate) :
    referencesHold words (tokens.map (·.withPhrase "")) candidate =
      referencesHold words tokens candidate := by
  rw [referencesHold, List.zipIdx_map, List.all_map]
  rfl

theorem unitOffsets_replicate_one
    (count : Nat) :
    unitOffsets (List.replicate count 1) = List.range (count + 1) := by
  refine List.ext_getElem? fun place => ?_
  by_cases inRange : place ≤ count
  · rw [getElem?_unitOffsets (by simpa using inRange), List.take_replicate,
      List.getElem?_range (by omega)]
    simp [Nat.min_eq_left inRange]
  · rw [List.getElem?_eq_none, List.getElem?_eq_none]
    · rw [List.length_range]
      omega
    · rw [length_unitOffsets, List.length_replicate]
      omega

end Named

namespace Rule

/-- Phrases do not count for the candidates of a pattern. -/
theorem acceptedCandidates_withPhrases
    {tokens : List Token}
    {names : List String}
    (nameForEach : names.length = tokens.length)
    (words : List Word) :
    acceptedCandidates (Token.withPhrases tokens names) words =
      acceptedCandidates tokens words := by
  have apartFromPhrases (row : List Token) :
      referencesHold words (row.map (·.withPhrase "")) = referencesHold words row :=
    funext (referencesHold_map_withPhrase words row)
  rw [acceptedCandidates, acceptedCandidates, ofTokens_withPhrases nameForEach,
    ← apartFromPhrases, map_withPhrase_withPhrases nameForEach, apartFromPhrases]

section Named

variable {rule : Rule} {tokens : List Token} {precede : referencesPrecede tokens}
  {names : List String}

theorem pattern_withPhrases
    (pattern : rule.pattern = .tokens tokens precede)
    (names : List String) :
    (rule.withPhrases names).pattern =
      .tokens (Token.withPhrases tokens names) (referencesPrecede_withPhrases names precede) := by
  rw [withPhrases, pattern]
  rfl

/-- The tokens of a rule without phrases are counted one by one. -/
theorem scale_of_no_phrases
    (pattern : rule.pattern = .tokens tokens precede)
    (noPhrases : Token.usesGrouping tokens = false) :
    UnitScale.ofRule rule = .ofTokens tokens.length := by
  have areTokens := tokens_of_pattern pattern
  rw [UnitScale.ofRule, usesGrouping, areTokens, noPhrases]
  rfl

/-- The tokens of a rule with a phrase for each are counted by units. -/
theorem scale_withPhrases
    (pattern : rule.pattern = .tokens tokens precede)
    (own : AreOwnNames names)
    (nameForEach : names.length = tokens.length)
    (someTokens : tokens ≠ []) :
    UnitScale.ofRule (rule.withPhrases names) = .ofSingleUnits tokens.length := by
  have areTokens := tokens_of_pattern (pattern_withPhrases pattern names)
  have sameLength : (Token.withPhrases tokens names).length = tokens.length := by
    rw [Token.withPhrases, List.length_zipWith, nameForEach, Nat.min_self]
  rw [UnitScale.ofRule, usesGrouping, unitSizes, areTokens, sameLength,
    usesGrouping_withPhrases own nameForEach someTokens, unitSizes_withPhrases own nameForEach,
    unitOffsets_replicate_one]
  rfl

@[simp] theorem id_withPhrases
    (rule : Rule)
    (names : List String) :
    (rule.withPhrases names).id = rule.id :=
  rfl

@[simp] theorem startCorrection_withPhrases
    (rule : Rule)
    (names : List String) :
    (rule.withPhrases names).startCorrection = rule.startCorrection :=
  rfl

@[simp] theorem endCorrection_withPhrases
    (rule : Rule)
    (names : List String) :
    (rule.withPhrases names).endCorrection = rule.endCorrection :=
  rfl

/-- Candidates of which the same words are marked are immunized alike. -/
theorem withoutImmunized_withPhrases
    {scale other : UnitScale}
    {candidates : List Candidate}
    (sameMarked :
      ∀ candidate ∈ candidates,
        other.marked rule.startCorrection rule.endCorrection candidate =
          scale.marked rule.startCorrection rule.endCorrection candidate)
    (names : List String)
    (sentence : Sentence) :
    (rule.withPhrases names).withoutImmunized other sentence candidates =
      rule.withoutImmunized scale sentence candidates := by
  induction candidates with
  | nil =>
      rfl
  | cons candidate candidates inductionHypothesis =>
      obtain ⟨first, later⟩ := List.forall_mem_cons.mp sameMarked
      rw [withoutImmunized, withoutImmunized, inductionHypothesis later,
        startCorrection_withPhrases, endCorrection_withPhrases, id_withPhrases, first]

/-- A candidate of which the same words are marked has the same match. -/
theorem matchOfCandidate_withPhrases
    {scale other : UnitScale}
    (sameText : other.unitText = scale.unitText)
    {candidate : Candidate}
    (sameMarked :
      other.marked rule.startCorrection rule.endCorrection candidate =
        scale.marked rule.startCorrection rule.endCorrection candidate)
    (names : List String)
    (sentence : Sentence) :
    (rule.withPhrases names).matchOfCandidate other sentence candidate =
      rule.matchOfCandidate scale sentence candidate := by
  have sameMatch (span wordSpan : Int × Int) (reference : Nat → String) :
      (rule.withPhrases names).buildMatch sentence span wordSpan reference =
        rule.buildMatch sentence span wordSpan reference :=
    rfl
  simp only [matchOfCandidate, startCorrection_withPhrases, endCorrection_withPhrases, sameMarked,
    sameText, sameMatch]

theorem matchTokens_nil
    (rule : Rule)
    (sentence : Sentence) :
    rule.matchTokens [] sentence = .ok [] :=
  rfl

/-- The steps by which a pattern with tokens is matched. -/
theorem matchTokens_of_ne_nil
    (rule : Rule)
    (someTokens : tokens ≠ [])
    (sentence : Sentence) :
    rule.matchTokens tokens sentence =
      (do
        let accepted ← acceptedCandidates tokens sentence.words
        let allowed ← rule.withoutImmunized (.ofRule rule) sentence accepted
        (Candidate.longestFirst allowed).mapM (rule.matchOfCandidate (.ofRule rule) sentence)) := by
  rw [matchTokens, List.isEmpty_eq_false_iff.mpr someTokens]
  rfl

/-- A rule that is given phrases has the same matches if its corrections fit. -/
theorem matchTokens_withPhrases
    (pattern : rule.pattern = .tokens tokens precede)
    (noPhrases : Token.usesGrouping tokens = false)
    (own : AreOwnNames names)
    (nameForEach : names.length = tokens.length)
    (alike : tokens = [] ∨ AccountsAlike tokens.length rule.startCorrection rule.endCorrection)
    (sentence : Sentence) :
    (rule.withPhrases names).matchTokens (Token.withPhrases tokens names) sentence =
      rule.matchTokens tokens sentence := by
  by_cases someTokens : tokens = []
  · subst someTokens
    rw [Token.withPhrases, List.zipWith_nil_left, matchTokens_nil, matchTokens_nil]
  replace alike := alike.resolve_left someTokens
  have stillSome : Token.withPhrases tokens names ≠ [] := by
    rw [← List.length_pos_iff, Token.withPhrases, List.length_zipWith, nameForEach, Nat.min_self]
    exact List.length_pos_iff.mpr someTokens
  rw [matchTokens_of_ne_nil _ stillSome, matchTokens_of_ne_nil _ someTokens,
    scale_of_no_phrases pattern noPhrases, scale_withPhrases pattern own nameForEach someTokens,
    acceptedCandidates_withPhrases nameForEach]
  refine Outcome.bind_congr_of_eq_ok fun accepted areAccepted => ?_
  have sameMarked :
      ∀ candidate ∈ accepted,
        (UnitScale.ofSingleUnits tokens.length).marked rule.startCorrection rule.endCorrection
            candidate =
          (UnitScale.ofTokens tokens.length).marked rule.startCorrection rule.endCorrection
            candidate := by
    intro candidate isAccepted
    obtain ⟨steps, compiled, result⟩ := Outcome.bind_eq_ok_iff.mp areAccepted
    cases result
    have stepsLeft := Step.ofTokens_ne_nil someTokens compiled
    have isCandidate := (List.mem_filter.mp isAccepted).1
    refine UnitScale.marked_ofSingleUnits (List.length_pos_iff.mpr someTokens) alike
      (range_of_mem_candidates (by simpa using stepsLeft) isCandidate).1 ?_
    exact fun token owner => Candidate.lt_of_mem_alignment compiled stepsLeft isCandidate owner
  rw [withoutImmunized_withPhrases sameMarked]
  refine Outcome.bind_congr_of_eq_ok fun allowed areAllowed => ?_
  refine Outcome.mapM_congr fun candidate kept => ?_
  have isAccepted := mem_of_mem_withoutImmunized areAllowed (Candidate.mem_of_mem_longestFirst kept)
  exact matchOfCandidate_withPhrases (UnitScale.unitText_ofSingleUnits _)
    (sameMarked candidate isAccepted) names sentence

/-- Where the corrections fit, phrases change nothing of what is matched in a sentence. -/
theorem matchesIn_withPhrases
    (pattern : rule.pattern = .tokens tokens precede)
    (noPhrases : Token.usesGrouping tokens = false)
    (own : AreOwnNames names)
    (nameForEach : names.length = tokens.length)
    (alike : tokens = [] ∨ AccountsAlike tokens.length rule.startCorrection rule.endCorrection)
    (sentence : Sentence) :
    (rule.withPhrases names).matchesIn sentence = rule.matchesIn sentence := by
  have named := pattern_withPhrases pattern names
  have sameMatched :
      ((rule.withPhrases names).immunizer sentence >>= (rule.withPhrases names).matchPattern) =
        (rule.immunizer sentence >>= rule.matchPattern) := by
    refine congrArg (rule.immunizer sentence >>= ·) (funext fun immunized => ?_)
    rw [matchPattern, matchPattern, named, pattern]
    exact matchTokens_withPhrases pattern noPhrases own nameForEach alike immunized
  rw [matchesIn, matchesIn, sameMatched, hasPattern, hasPattern, named, pattern]
  rfl

end Named

end Rule

/-- The same matches were found, or the failures are of one class. -/
inductive SameOutcome :
    Except Failure (List RuleMatch) → Except Failure (List RuleMatch) → Prop where
  | found (found : List RuleMatch) :
      SameOutcome (.ok found) (.ok found)
  | unreadable (sentence other : String) :
      SameOutcome (.error (.sentenceUnreadable sentence)) (.error (.sentenceUnreadable other))
  | unmatched (sentence other : String) (cause otherCause : Failure) :
      SameOutcome (.error (.sentenceUnmatched sentence cause))
        (.error (.sentenceUnmatched other otherCause))

/-- What a rule with a pattern finds, or how it fails, is the same as itself. -/
theorem SameOutcome.of_hasPattern
    {rule : Rule}
    (hasPattern : rule.hasPattern = true)
    (sentence : Sentence) :
    SameOutcome (rule.matchesIn sentence) (rule.matchesIn sentence) := by
  rw [Rule.matchesIn, if_pos hasPattern]
  split
  · exact .found _
  · split
    · exact .unreadable _ _
    · exact .unmatched _ _ _ _

/-! ## Corrections that do not fit -/

/-- Tokens that take one word of any kind each. -/
def anyWords (count : Nat) : List Token :=
  List.replicate count (.placeholder (.text ""))

theorem referencesPrecede_anyWords
    (count : Nat) :
    referencesPrecede (anyWords count) := by
  rintro entry member reference isReference
  have isPlaceholder := List.eq_of_mem_replicate (List.fst_mem_of_mem_zipIdx member)
  rw [isPlaceholder] at isReference
  cases isReference

theorem length_anyWords
    (count : Nat) :
    (anyWords count).length = count :=
  List.length_replicate

theorem anyWords_ne_nil
    {count : Nat}
    (someTokens : 0 < count) :
    anyWords count ≠ [] := by
  rw [← List.length_pos_iff, length_anyWords]
  exact someTokens

theorem usesGrouping_anyWords
    (count : Nat) :
    Token.usesGrouping (anyWords count) = false := by
  rw [Token.usesGrouping, List.any_eq_false]
  intro token member
  rw [List.eq_of_mem_replicate member]
  decide

/-- The rule of such tokens with some units dropped from what is flagged. -/
def correctedAnyWords (count : Nat) (fromStart fromEnd : Int) : Rule :=
  { Rule.withTokens (anyWords count) (referencesPrecede_anyWords count) with
    startCorrection := fromStart
    endCorrection := fromEnd }

/-- A sentence with a word for each token. -/
def wordForEach (count : Nat) : Sentence where
  words := List.replicate count { text := "x" }

/-- Names of different lengths. -/
def namesByLength (count : Nat) : List String :=
  (List.range count).map fun place => String.ofList (List.replicate (place + 1) 'x')

theorem areOwnNames_namesByLength
    (count : Nat) :
    AreOwnNames (namesByLength count) where
  someName := by
    intro member
    obtain ⟨place, _, isEmpty⟩ := List.mem_map.mp member
    have noLetters := congrArg (·.toList.length) isEmpty
    simp [String.toList_ofList] at noLetters
  distinct := by
    refine List.nodup_range.map fun first second sameName => ?_
    have sameLength := congrArg (·.toList.length) sameName
    simpa [String.toList_ofList] using sameLength

/-- Runs of one word each give the words to the tokens one by one. -/
theorem alignmentOf_of_single_words
    {runs : List (List Word)}
    (single : ∀ run ∈ runs, run.length = 1)
    (index : Nat) :
    alignmentOf index runs = List.range' index runs.length := by
  induction runs generalizing index with
  | nil =>
      rfl
  | cons run runs inductionHypothesis =>
      obtain ⟨first, later⟩ := List.forall_mem_cons.mp single
      rw [alignmentOf, first, inductionHypothesis later]
      rfl

/-- A candidate of such tokens in such a sentence takes all words, one for each token. -/
theorem eq_oneWordEach_of_mem_candidates
    {count : Nat}
    (someTokens : 0 < count)
    {steps : List Step}
    (compiled : Step.ofTokens (anyWords count) = .ok steps)
    {candidate : Candidate}
    (member : candidate ∈ candidates [steps] (wordForEach count).words) :
    candidate = .oneWordEach count := by
  have stepsLeft := Step.ofTokens_ne_nil (anyWords_ne_nil someTokens) compiled
  obtain ⟨runs, cut, cuts⟩ := Candidate.exists_cut_of_mem_candidates compiled stepsLeft member
  obtain ⟨_, inside⟩ := range_of_mem_candidates (by simpa using stepsLeft) member
  have single : ∀ run ∈ runs, run.length = 1 := by
    intro run isRun
    obtain ⟨token, isToken, takes⟩ := Outcome.exists_related_of_mem cuts.taken.flip isRun
    rw [List.eq_of_mem_replicate isToken] at takes
    exact (Token.takesRun_iff_admits rfl).mp takes
  have runForEach : runs.length = count := by
    rw [← cuts.taken.length_eq, length_anyWords]
  have alignment : candidate.alignment = List.range count := by
    rw [cut.alignment, alignmentOf_of_single_words single, runForEach, List.range_eq_range']
  have start : candidate.start = 0 := by
    rw [Candidate.stop, alignment, List.length_range, wordForEach, List.length_replicate] at inside
    omega
  obtain ⟨_, _⟩ := candidate
  cases alignment
  cases start
  rfl

theorem exists_steps_of_anyWords
    (count : Nat)
    (index : Nat) :
    ∃ steps, Step.ofTokensFrom index (anyWords count) = .ok steps := by
  induction count generalizing index with
  | zero =>
      exact ⟨[], rfl⟩
  | succ count inductionHypothesis =>
      obtain ⟨steps, compiled⟩ := inductionHypothesis (index + 1)
      rw [anyWords] at compiled ⊢
      rw [List.replicate_succ]
      exact ⟨_, Outcome.bind_eq_ok_iff.mpr ⟨.any, rfl, Outcome.bind_eq_ok_iff.mpr
        ⟨steps, compiled, rfl⟩⟩⟩

/-- The words of such a sentence can be cut into one word for each token. -/
theorem cuts_wordForEach
    (count : Nat) :
    Cuts (anyWords count) (wordForEach count).words (List.replicate count [{ text := "x" }]) where
  together := by
    simp [wordForEach]
  taken := by
    have takes : (Token.placeholder (.text "")).TakesRun [{ text := "x" }] :=
      (Token.takesRun_iff_admits rfl).mpr rfl
    induction count with
    | zero =>
        exact .nil
    | succ count inductionHypothesis =>
        exact .cons takes inductionHypothesis

/-- The rule of such tokens has a match in such a sentence, whatever is dropped. -/
theorem exists_matchesIn_correctedAnyWords
    {count : Nat}
    (someTokens : 0 < count)
    (fromStart fromEnd : Int) :
    ∃ found,
      (correctedAnyWords count fromStart fromEnd).matchesIn (wordForEach count) = .ok found ∧
        found ≠ [] := by
  obtain ⟨steps, compiled⟩ := exists_steps_of_anyWords count 0
  have takes := (Step.takes_ofTokensFrom_iff compiled).mpr ⟨_, cuts_wordForEach count, rfl⟩
  have flagsWords (candidate : Candidate) :
      ∃ span,
        (UnitScale.ofRule (correctedAnyWords count fromStart fromEnd)).marked fromStart fromEnd
          candidate = .ok span := by
    rw [Rule.scale_of_no_phrases rfl (usesGrouping_anyWords count), length_anyWords]
    exact UnitScale.exists_marked_ofTokens count fromStart fromEnd candidate
  have someWords : (wordForEach count).words ≠ [] := by
    rw [← List.length_pos_iff, wordForEach, List.length_replicate]
    exact someTokens
  have noReference : ∀ token ∈ anyWords count, token.reference = none := by
    intro token member
    rw [List.eq_of_mem_replicate member]
    rfl
  have allWords : (wordForEach count).words <+: (wordForEach count).words.drop 0 := by
    rw [List.drop_zero]
  obtain ⟨found, matched, someFound⟩ :=
    Rule.exists_matchTokens_of_takes flagsWords rfl
      (Rule.exists_buildMatch_withTokens (referencesPrecede_anyWords count) (wordForEach count))
      (anyWords_ne_nil someTokens) noReference compiled allWords takes someWords
  exact ⟨found, Rule.matchesIn_of_matchTokens rfl rfl rfl matched, someFound⟩

/-- A match of such a rule flags what is marked of the candidate with one word for each token. -/
theorem marked_of_mem_matchesIn
    {count : Nat}
    (someTokens : 0 < count)
    {rule : Rule}
    {tokens : List Token}
    {precede : referencesPrecede tokens}
    (pattern : rule.pattern = .tokens tokens precede)
    (defaultImmunizer : rule.ownImmunizer = none)
    (sameSteps : Step.ofTokens tokens = Step.ofTokens (anyWords count))
    {found : List RuleMatch}
    (succeeds : rule.matchesIn (wordForEach count) = .ok found)
    {ruleMatch : RuleMatch}
    (member : ruleMatch ∈ found) :
    ∃ first last : Nat,
      (UnitScale.ofRule rule).marked rule.startCorrection rule.endCorrection
          (.oneWordEach count) = .ok (first, last) ∧
        ruleMatch.wordSpan = ((first : Int), (last : Int)) := by
  obtain ⟨immunized, sameWords, matched⟩ :=
    Rule.exists_matchTokens_of_matchesIn pattern defaultImmunizer succeeds
  obtain ⟨steps, compiled, _, candidate, isCandidate, _, ofCandidate⟩ :=
    Rule.exists_candidate_of_mem_matchTokens matched member
  rw [sameSteps] at compiled
  rw [sameWords] at isCandidate
  have isWhole := eq_oneWordEach_of_mem_candidates someTokens compiled isCandidate
  rw [isWhole] at ofCandidate
  exact Rule.wordSpan_of_matchOfCandidate ofCandidate

/-- The same outcome with names needs the same words to be flagged. -/
theorem marked_eq_of_sameOutcome
    {count : Nat}
    (someTokens : 0 < count)
    {fromStart fromEnd : Int}
    (same :
      SameOutcome ((correctedAnyWords count fromStart fromEnd).matchesIn (wordForEach count))
        (((correctedAnyWords count fromStart fromEnd).withPhrases (namesByLength count)).matchesIn
          (wordForEach count))) :
    (UnitScale.ofSingleUnits count).marked fromStart fromEnd (.oneWordEach count) =
      (UnitScale.ofTokens count).marked fromStart fromEnd (.oneWordEach count) := by
  obtain ⟨found, succeeds, someFound⟩ :=
    exists_matchesIn_correctedAnyWords someTokens fromStart fromEnd
  obtain ⟨ruleMatch, member⟩ := List.exists_mem_of_ne_nil found someFound
  have nameForEach : (namesByLength count).length = (anyWords count).length := by
    simp [namesByLength, length_anyWords]
  have namedSucceeds :
      ((correctedAnyWords count fromStart fromEnd).withPhrases (namesByLength count)).matchesIn
          (wordForEach count) =
        .ok found := by
    rw [succeeds] at same
    generalize Rule.matchesIn _ _ = outcome at same
    cases same
    rfl
  obtain ⟨first, last, marked, wordSpan⟩ :=
    marked_of_mem_matchesIn someTokens rfl rfl rfl succeeds member
  obtain ⟨first', last', namedMarked, namedSpan⟩ :=
    marked_of_mem_matchesIn someTokens (Rule.pattern_withPhrases rfl (namesByLength count)) rfl
      (ofTokens_withPhrases nameForEach) namedSucceeds member
  have sameSpan : first' = first ∧ last' = last := by
    rw [namedSpan, Prod.mk.injEq] at wordSpan
    omega
  rw [Rule.scale_of_no_phrases rfl (usesGrouping_anyWords count), length_anyWords] at marked
  rw [Rule.scale_withPhrases rfl (areOwnNames_namesByLength count) nameForEach
    (anyWords_ne_nil someTokens), length_anyWords, sameSpan.1, sameSpan.2] at namedMarked
  exact namedMarked.trans marked.symm

/--
A rule whose tokens belong to no phrase finds the same in every sentence if each token is given
a phrase of its own, or fails alike, exactly if its corrections fit.
-/
theorem sameOutcome_withPhrases_iff
    (count : Nat)
    (fromStart fromEnd : Int) :
    (∀ (rule : Rule) (tokens : List Token) (precede : referencesPrecede tokens)
        (names : List String),
        rule.pattern = .tokens tokens precede →
          Token.usesGrouping tokens = false →
            tokens.length = count →
              rule.startCorrection = fromStart →
                rule.endCorrection = fromEnd →
                  AreOwnNames names →
                    names.length = count →
                      ∀ sentence,
                        SameOutcome (rule.matchesIn sentence)
                          ((rule.withPhrases names).matchesIn sentence)) ↔
      count = 0 ∨ AccountsAlike count fromStart fromEnd := by
  constructor
  · intro always
    rcases Nat.eq_zero_or_pos count with noTokens | someTokens
    · exact .inl noTokens
    · refine .inr (UnitScale.accountsAlike_of_marked_eq (marked_eq_of_sameOutcome someTokens ?_))
      exact always _ (anyWords count) (referencesPrecede_anyWords count) (namesByLength count) rfl
        (usesGrouping_anyWords count) (length_anyWords count) rfl rfl
        (areOwnNames_namesByLength count) (by simp [namesByLength]) _
  · rintro alike rule tokens precede names pattern noPhrases rfl rfl rfl own nameForEach sentence
    rw [Rule.matchesIn_withPhrases pattern noPhrases own nameForEach
      (alike.imp_left List.eq_nil_of_length_eq_zero)]
    exact .of_hasPattern (by rw [Rule.hasPattern, pattern]) sentence

/-- The word is found if it is counted as a token. As a unit it has no neighbour to look up. -/
theorem not_sameOutcome_withPhrases_oneWord :
    AreOwnNames ["p"] ∧
      (∃ found,
        (correctedAnyWords 1 0 (-1)).matchesIn (wordForEach 1) = .ok found ∧
          found.map (·.wordSpan) = [(0, 1)]) ∧
        ((correctedAnyWords 1 0 (-1)).withPhrases ["p"]).matchesIn (wordForEach 1) =
            .error (.sentenceUnmatched "x" .outOfRange) ∧
          ¬SameOutcome ((correctedAnyWords 1 0 (-1)).matchesIn (wordForEach 1))
            (((correctedAnyWords 1 0 (-1)).withPhrases ["p"]).matchesIn (wordForEach 1)) := by
  have evaluated :
      ((correctedAnyWords 1 0 (-1)).matchesIn (wordForEach 1)).toOption.map
          (·.map (·.wordSpan)) =
        some [(0, 1)] := by
    decide +kernel
  obtain ⟨found, given, spans⟩ := Option.map_eq_some_iff.mp evaluated
  have finds := Outcome.eq_ok_of_toOption given
  have fails :
      ((correctedAnyWords 1 0 (-1)).withPhrases ["p"]).matchesIn (wordForEach 1) =
        .error (.sentenceUnmatched "x" .outOfRange) :=
    rfl
  refine ⟨⟨by decide, by decide⟩, ⟨found, finds, spans⟩, fails, fun same => ?_⟩
  rw [finds, fails] at same
  cases same

end ProseRules
