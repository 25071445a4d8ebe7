import Mathlib.Logic.Function.Basic
import ProseRules.Command.Run
import ProseRules.Pattern.Cache

namespace ProseRules

/-!
# Checking with caches

The patterns of a rule are prepared once for a vocabulary and kept for later sentences, and so
are its anti-patterns. Here a check carries what its rules keep from sentence to sentence and
from text to text. Whatever was kept before, it ends like a check that prepares everything anew.
-/

/-- A check at once with a given outcome. -/
def Check.ofOutcome {α : Type} (outcome : Except Failure α) : Check α :=
  ⟨0, [], outcome⟩

/-- A check that starts with what is kept and says what is kept after it. -/
abbrev Keeping (σ α : Type) : Type :=
  σ → Check α × σ

namespace Keeping

variable {σ α β : Type}

/-- A check that leaves alone what is kept. -/
def ofCheck (check : Check α) : Keeping σ α :=
  fun kept => (check, kept)

/-- One check after another; the second one starts with what the first one kept. -/
def andThen (first : Keeping σ α) (next : α → Keeping σ β) : Keeping σ β := fun kept =>
  let started := first kept
  match started.1.outcome with
  | .error failure => (⟨started.1.skipped, started.1.notices, .error failure⟩, started.2)
  | .ok value =>
      let ended := next value started.2
      (⟨started.1.skipped + ended.1.skipped, started.1.notices ++ ended.1.notices,
          ended.1.outcome⟩,
        ended.2)

/-- The findings of several checks in order. -/
def concat (check : α → Keeping σ (List β)) : List α → Keeping σ (List β)
  | [] => ofCheck (.found [])
  | first :: rest =>
      (check first).andThen fun found =>
        (concat check rest).andThen fun others => ofCheck (.found (found ++ others))

/-- A check whose outcome is made into another check. -/
def settle (check : Keeping σ α) (settled : Except Failure α → Check β) : Keeping σ β :=
  fun kept => (settled (check kept).1.outcome, (check kept).2)

end Keeping

/-- The prepared patterns of a rule that are kept from one sentence to the next. -/
structure RuleCaches where
  pattern : PatternCache
  antipatterns : PatternCache

namespace RuleCaches

/-- The patterns of the rule, prepared for a vocabulary. -/
def ownPatterns (vocabulary : String) : Keeping RuleCaches (List (List Step)) := fun caches =>
  let answer := caches.pattern.get vocabulary
  (.ofOutcome (answer.1.map (·.patterns)), { caches with pattern := answer.2 })

/-- The anti-patterns of the rule, prepared for a vocabulary. -/
def preparedAntipatterns (vocabulary : String) : Keeping RuleCaches (List (List Step)) :=
  fun caches =>
    let answer := caches.antipatterns.get vocabulary
    (.ofOutcome (answer.1.map (·.patterns)), { caches with antipatterns := answer.2 })

end RuleCaches

namespace Rule

/-- The caches of a rule that was matched with nothing yet. -/
def freshCaches (rule : Rule) : RuleCaches where
  pattern := .create [rule.tokens]
  antipatterns := .create rule.antipatterns

/-- The sentence without the words that the prepared anti-patterns take. -/
def immunizedBy (patterns : List (List Step)) (sentence : Sentence) : Sentence :=
  let indices := (candidates patterns sentence.words).flatMap Candidate.indices
  if indices.isEmpty then sentence else sentence.immunize indices

/-- The step before matching, with the anti-patterns as they are kept. -/
def immunizeKeeping (rule : Rule) (vocabulary : String) (sentence : Sentence) :
    Keeping RuleCaches Sentence :=
  match rule.ownImmunizer with
  | some own => .ofCheck (.ofOutcome (own sentence))
  | none =>
      if (rule.antipatterns.filter (!·.isEmpty)).isEmpty then
        .ofCheck (.found sentence)
      else
        (RuleCaches.preparedAntipatterns vocabulary).andThen fun patterns =>
          .ofCheck (.found (immunizedBy patterns sentence))

/-- The matches of the ranges that a prepared token pattern takes. -/
def matchesOfPrepared (rule : Rule) (tokens : List Token) (sentence : Sentence)
    (patterns : List (List Step)) : Except Failure (List RuleMatch) := do
  let scale := UnitScale.ofRule rule
  let accepted := (candidates patterns sentence.words).filter (referencesHold sentence.words tokens)
  let allowed ← rule.withoutImmunized scale sentence accepted
  (Candidate.longestFirst allowed).mapM (rule.matchOfCandidate scale sentence)

/-- The matches of the pattern of a rule as it is kept; an expression needs no cache. -/
def matchPatternKeeping (rule : Rule) (vocabulary : String) (sentence : Sentence) :
    Keeping RuleCaches (List RuleMatch) :=
  match rule.pattern with
  | .tokens tokens _ =>
      if tokens.isEmpty then
        .ofCheck (.found [])
      else
        (RuleCaches.ownPatterns vocabulary).andThen fun patterns =>
          .ofCheck (.ofOutcome (rule.matchesOfPrepared tokens sentence patterns))
  | _ => .ofCheck (.ofOutcome (rule.matchPattern sentence))

/-- A failure while a sentence is matched, as it is reported. -/
def failureIn (sentence : Sentence) (failure : Failure) : Failure :=
  if failure.isInputOutput then .sentenceUnreadable sentence.text
  else .sentenceUnmatched sentence.text failure

/-- The matches of a rule that uses its caches. -/
def matchesKeeping (rule : Rule) (vocabulary : String) (sentence : Sentence) :
    Keeping RuleCaches (List RuleMatch) :=
  if rule.hasPattern then
    ((rule.immunizeKeeping vocabulary sentence).andThen
      (rule.matchPatternKeeping vocabulary)).settle fun outcome =>
        .ofOutcome (outcome.mapError (failureIn sentence))
  else
    .ofCheck (.ofOutcome (rule.matchesIn sentence))

/-- What a checker makes of the outcome of a rule: an unreadable rule is named in a notice. -/
def checked (rule : Rule) (outcome : Except Failure (List RuleMatch)) :
    Check (List RuleMatch) :=
  match outcome with
  | .ok found => .found found
  | .error (.sentenceUnreadable text) =>
      match rule.fullId with
      | .ok id => ⟨0, [.ruleSkipped id text], .ok []⟩
      | .error failure => .failed failure
  | .error failure => .failed failure

end Rule

namespace Checker

/-- What the rules of a checker keep, by their numbers. -/
abbrev Kept : Type :=
  Nat → RuleCaches

/-- What is kept before the first check. -/
def nothingKept (checker : Checker) : Kept := fun number =>
  match checker.rules[number]? with
  | some rule => rule.freshCaches
  | none => ⟨.create [], .create []⟩

/-- A check with the caches of one rule. -/
def withRule {α : Type} (number : Nat) (check : Keeping RuleCaches α) : Keeping Kept α :=
  fun kept => ((check (kept number)).1, Function.update kept number (check (kept number)).2)

/-- The check of a rule with a number. -/
def checkRuleKeeping (checker : Checker) (vocabulary : String) (sentence : Sentence)
    (entry : Rule × Nat) : Keeping Kept (List RuleMatch) :=
  if checker.fastReject && entry.1.canBeIgnoredFor sentence then
    .ofCheck ⟨1, [], .ok []⟩
  else
    withRule entry.2 ((entry.1.matchesKeeping vocabulary sentence).settle entry.1.checked)

/-- The matches of all rules in a sentence. -/
def checkSentenceKeeping (checker : Checker) (vocabulary : String) (sentence : Sentence) :
    Keeping Kept (List RuleMatch) :=
  Keeping.concat (checker.checkRuleKeeping vocabulary sentence) checker.rules.zipIdx

/-- The entries of one sentence. -/
def analyzeSentenceKeeping (checker : Checker) (vocabulary : String) (sentence : Sentence) :
    Keeping Kept (List ReportEntry) :=
  (checker.checkSentenceKeeping vocabulary sentence).andThen fun found =>
    .ofCheck ⟨0, [], checker.entriesOf found⟩

/-- The entries of a document that was cut into words. -/
def analyzeKeeping (checker : Checker) (vocabulary : String) (words : List Word) :
    Keeping Kept (List ReportEntry) :=
  Keeping.concat (checker.analyzeSentenceKeeping vocabulary) (Document.sentences words)

end Checker

namespace Command

/-- The entries of a text, with its name. -/
def entriesOfTextKeeping (checker : Checker) (files : Files) (vocabulary : String)
    (text : String × List Word) : Keeping Checker.Kept (List ReportEntry) :=
  match requireText files text.1 with
  | .error failure => .ofCheck (.failed failure)
  | .ok () =>
      (checker.analyzeKeeping vocabulary text.2).andThen fun entries =>
        .ofCheck (.found (entries.map fun entry => entry.withSource text.1))

/-- The entries of several texts, each checked with what the ones before it left behind. -/
def entriesOfTextsKeeping (checker : Checker) (files : Files) (vocabulary : String)
    (texts : List (String × List Word)) : Keeping Checker.Kept (List ReportEntry) :=
  Keeping.concat (entriesOfTextKeeping checker files vocabulary) texts

end Command

/-! ## What is kept does not change what is found -/

namespace Keeping

variable {σ α β : Type} {inOrder : σ → Prop}

/-- A check ends in a given way whatever is kept, and leaves in order what is kept. -/
def EndsIn (inOrder : σ → Prop) (check : Keeping σ α) (ended : Check α) : Prop :=
  ∀ kept, inOrder kept → (check kept).1 = ended ∧ inOrder (check kept).2

theorem endsIn_ofCheck
    (check : Check α) :
    EndsIn inOrder (ofCheck check) check :=
  fun _ isInOrder => ⟨rfl, isInOrder⟩

/-- Checks that end in a given way do so one after the other. -/
theorem EndsIn.andThen
    {first : Keeping σ α}
    {next : α → Keeping σ β}
    {ended : Check α}
    {later : α → Check β}
    (starts : EndsIn inOrder first ended)
    (goesOn : ∀ value, EndsIn inOrder (next value) (later value)) :
    EndsIn inOrder (first.andThen next) (ended.andThen later) := by
  intro kept isInOrder
  obtain ⟨rfl, stillInOrder⟩ := starts kept isInOrder
  unfold Keeping.andThen Check.andThen
  cases outcome : (first kept).1.outcome with
  | error failure =>
      simpa only [outcome, true_and] using stillInOrder
  | ok value =>
      obtain ⟨sameLater, inOrderLater⟩ := goesOn value _ stillInOrder
      simpa only [outcome, sameLater, true_and] using inOrderLater

theorem EndsIn.concat
    {check : α → Keeping σ (List β)}
    {ended : α → Check (List β)}
    {items : List α}
    (each : ∀ item ∈ items, EndsIn inOrder (check item) (ended item)) :
    EndsIn inOrder (Keeping.concat check items) (Check.concat ended items) := by
  induction items with
  | nil =>
      exact endsIn_ofCheck _
  | cons item items inductionHypothesis =>
      obtain ⟨first, later⟩ := List.forall_mem_cons.mp each
      exact first.andThen fun found =>
        (inductionHypothesis later).andThen fun others => endsIn_ofCheck _

theorem EndsIn.settle
    {check : Keeping σ α}
    {ended : Check α}
    (ends : EndsIn inOrder check ended)
    (settled : Except Failure α → Check β) :
    EndsIn inOrder (check.settle settled) (settled ended.outcome) := by
  intro kept isInOrder
  obtain ⟨rfl, stillInOrder⟩ := ends kept isInOrder
  exact ⟨rfl, stillInOrder⟩

end Keeping

open Keeping

/-- Checks of the images of a list are those of the list. -/
theorem Check.concat_map
    {α β γ : Type}
    (check : β → Check (List γ))
    (image : α → β)
    (items : List α) :
    concat check (items.map image) = concat (fun item => check (image item)) items := by
  induction items with
  | nil =>
      rfl
  | cons item items inductionHypothesis =>
      simp only [List.map_cons, concat, inductionHypothesis]

theorem Check.andThen_ofOutcome
    {α β : Type}
    (first : Except Failure α)
    (next : α → Except Failure β) :
    (ofOutcome first).andThen (fun value => ofOutcome (next value)) =
      ofOutcome (first >>= next) := by
  cases first <;> rfl

namespace PatternCache

variable {cache : PatternCache} {patterns : List (List Token)}

/-- A cache has given patterns, room for them, and nothing but what is prepared from them. -/
structure IsFor (cache : PatternCache) (patterns : List (List Token)) : Prop where
  has_patterns : cache.patterns = patterns
  has_room : 0 ≤ cache.capacity
  prepared : ∀ entry ∈ cache.entries, patterns.mapM Step.ofTokens = .ok entry.patterns

theorem isFor_create
    (patterns : List (List Token)) :
    (create patterns).IsFor (patterns.filter (!·.isEmpty)) where
  has_patterns := rfl
  has_room := Int.natCast_nonneg 4
  prepared := by
    intro entry member
    cases member

/-- A cache answers with what a new preparation gives, whatever it was asked before. -/
theorem IsFor.get
    (isFor : cache.IsFor patterns)
    (vocabulary : String) :
    (cache.get vocabulary).1.map (·.patterns) = patterns.mapM Step.ofTokens ∧
      (cache.get vocabulary).2.IsFor patterns := by
  unfold PatternCache.get
  cases found : cache.entries.find? (·.vocabulary = vocabulary) with
  | some entry =>
      have member := List.mem_of_find?_eq_some found
      refine ⟨(isFor.prepared entry member).symm, isFor.has_patterns, isFor.has_room, ?_⟩
      intro other isOther
      simp only [List.mem_append, List.mem_filter, List.mem_singleton] at isOther
      rcases isOther with ⟨isOld, _⟩ | rfl
      · exact isFor.prepared other isOld
      · exact isFor.prepared other member
  | none =>
      have room : ¬cache.capacity < 0 := Int.not_lt.mpr isFor.has_room
      rw [isFor.has_patterns]
      cases prepares : patterns.mapM Step.ofTokens with
      | error failure =>
          exact ⟨rfl, isFor⟩
      | ok steps =>
          simp only [add, room, if_false]
          refine ⟨rfl, isFor.has_patterns, isFor.has_room, ?_⟩
          intro other isOther
          have among := List.mem_of_mem_drop isOther
          simp only [List.mem_append, List.mem_singleton] at among
          rcases among with isOld | rfl
          · exact isFor.prepared other isOld
          · exact prepares

end PatternCache

namespace Rule

variable {rule : Rule}

/-- The caches are for the pattern of a rule and for its anti-patterns. -/
structure OwnCaches (rule : Rule) (caches : RuleCaches) : Prop where
  pattern : caches.pattern.IsFor ([rule.tokens].filter (!·.isEmpty))
  antipatterns : caches.antipatterns.IsFor (rule.antipatterns.filter (!·.isEmpty))

theorem ownCaches_freshCaches
    (rule : Rule) :
    rule.OwnCaches rule.freshCaches where
  pattern := PatternCache.isFor_create _
  antipatterns := PatternCache.isFor_create _

theorem endsIn_ownPatterns
    (rule : Rule)
    (vocabulary : String) :
    EndsIn rule.OwnCaches (RuleCaches.ownPatterns vocabulary)
      (.ofOutcome (([rule.tokens].filter (!·.isEmpty)).mapM Step.ofTokens)) := by
  intro caches own
  obtain ⟨same, stillFor⟩ := own.pattern.get vocabulary
  exact ⟨congrArg Check.ofOutcome same, stillFor, own.antipatterns⟩

theorem endsIn_preparedAntipatterns
    (rule : Rule)
    (vocabulary : String) :
    EndsIn rule.OwnCaches (RuleCaches.preparedAntipatterns vocabulary)
      (.ofOutcome ((rule.antipatterns.filter (!·.isEmpty)).mapM Step.ofTokens)) := by
  intro caches own
  obtain ⟨same, stillFor⟩ := own.antipatterns.get vocabulary
  exact ⟨congrArg Check.ofOutcome same, own.pattern, stillFor⟩

theorem immunizeByAntipatterns_eq
    {antipatterns : List (List Token)}
    (some : (antipatterns.filter (!·.isEmpty)).isEmpty = false)
    (sentence : Sentence) :
    immunizeByAntipatterns antipatterns sentence =
      (antipatterns.filter (!·.isEmpty)).mapM Step.ofTokens >>= fun patterns =>
        .ok (immunizedBy patterns sentence) := by
  unfold immunizeByAntipatterns antipatternIndices
  simp only [some]
  cases (antipatterns.filter (!·.isEmpty)).mapM Step.ofTokens <;> rfl

theorem endsIn_immunizeKeeping
    (rule : Rule)
    (vocabulary : String)
    (sentence : Sentence) :
    EndsIn rule.OwnCaches (rule.immunizeKeeping vocabulary sentence)
      (.ofOutcome (rule.immunizer sentence)) := by
  unfold immunizeKeeping immunizer
  cases rule.ownImmunizer with
  | some own =>
      exact endsIn_ofCheck _
  | none =>
      rw [Option.getD_none]
      cases isEmpty : (rule.antipatterns.filter (!·.isEmpty)).isEmpty with
      | true =>
          simp only [immunizeByAntipatterns, isEmpty, if_true]
          exact endsIn_ofCheck _
      | false =>
          rw [immunizeByAntipatterns_eq isEmpty, ← Check.andThen_ofOutcome]
          exact (endsIn_preparedAntipatterns rule vocabulary).andThen fun patterns =>
            endsIn_ofCheck _

/-- The matches of a token pattern depend on it only through its preparation. -/
theorem matchTokens_eq
    (rule : Rule)
    {tokens : List Token}
    (some : tokens.isEmpty = false)
    (sentence : Sentence) :
    rule.matchTokens tokens sentence =
      ([tokens].filter (!·.isEmpty)).mapM Step.ofTokens >>=
        rule.matchesOfPrepared tokens sentence := by
  have isKept : [tokens].filter (!·.isEmpty) = [tokens] :=
    List.filter_cons_of_pos (by rw [some]; rfl)
  unfold matchTokens acceptedCandidates matchesOfPrepared
  rw [isKept, List.mapM_cons, List.mapM_nil]
  simp only [some]
  cases Step.ofTokens tokens <;> rfl

theorem endsIn_matchPatternKeeping
    (rule : Rule)
    (vocabulary : String)
    (sentence : Sentence) :
    EndsIn rule.OwnCaches (rule.matchPatternKeeping vocabulary sentence)
      (.ofOutcome (rule.matchPattern sentence)) := by
  unfold matchPatternKeeping matchPattern
  cases isPattern : rule.pattern with
  | absent =>
      exact endsIn_ofCheck _
  | expression expression mark markExists =>
      exact endsIn_ofCheck _
  | tokens tokens precede =>
      have isTokens : rule.tokens = tokens := by
        rw [Rule.tokens, isPattern]
      cases isEmpty : tokens.isEmpty with
      | true =>
          simp only [matchTokens, isEmpty, if_true]
          exact endsIn_ofCheck _
      | false =>
          have asked := endsIn_ownPatterns rule vocabulary
          rw [isTokens] at asked
          simp only [matchTokens_eq rule isEmpty, ← Check.andThen_ofOutcome, isEmpty]
          exact asked.andThen fun patterns => endsIn_ofCheck _

/-- A rule that uses its caches matches like one that prepares its patterns anew. -/
theorem endsIn_matchesKeeping
    (rule : Rule)
    (vocabulary : String)
    (sentence : Sentence) :
    EndsIn rule.OwnCaches (rule.matchesKeeping vocabulary sentence)
      (.ofOutcome (rule.matchesIn sentence)) := by
  unfold matchesKeeping matchesIn
  cases rule.hasPattern with
  | false =>
      exact endsIn_ofCheck _
  | true =>
      have ends :=
        ((endsIn_immunizeKeeping rule vocabulary sentence).andThen
          (endsIn_matchPatternKeeping rule vocabulary)).settle fun outcome =>
            .ofOutcome (outcome.mapError (failureIn sentence))
      rw [Check.andThen_ofOutcome] at ends
      simp only [if_true]
      cases outcome : rule.immunizer sentence >>= rule.matchPattern with
      | error failure =>
          rw [outcome] at ends
          exact ends
      | ok found =>
          rw [outcome] at ends
          exact ends

end Rule

namespace Checker

variable {checker : Checker}

/-- The caches kept for each rule are its own. -/
def KeepsOwn (checker : Checker) (kept : Kept) : Prop :=
  ∀ (number : Nat) (rule : Rule),
    checker.rules[number]? = some rule → rule.OwnCaches (kept number)

theorem keepsOwn_nothingKept
    (checker : Checker) :
    checker.KeepsOwn checker.nothingKept := by
  intro number rule isRule
  unfold nothingKept
  rw [isRule]
  exact rule.ownCaches_freshCaches

/-- A check with the caches of one rule leaves those of the others alone. -/
theorem endsIn_withRule
    {α : Type}
    {rule : Rule}
    {number : Nat}
    (isRule : checker.rules[number]? = some rule)
    {check : Keeping RuleCaches α}
    {ended : Check α}
    (ends : EndsIn rule.OwnCaches check ended) :
    EndsIn checker.KeepsOwn (withRule number check) ended := by
  intro kept keepsOwn
  obtain ⟨same, own⟩ := ends (kept number) (keepsOwn number rule isRule)
  refine ⟨same, fun other otherRule isOther => ?_⟩
  by_cases isSame : other = number
  · subst isSame
    cases isRule.symm.trans isOther
    simpa only [withRule, Function.update_self] using own
  · simpa only [withRule, Function.update_of_ne isSame] using keepsOwn other otherRule isOther

theorem endsIn_checkRuleKeeping
    (vocabulary : String)
    (sentence : Sentence)
    {entry : Rule × Nat}
    (isRule : checker.rules[entry.2]? = some entry.1) :
    EndsIn checker.KeepsOwn (checker.checkRuleKeeping vocabulary sentence entry)
      (checker.checkRule sentence entry.1) := by
  unfold checkRuleKeeping checkRule
  split
  · exact endsIn_ofCheck _
  · exact endsIn_withRule isRule
      ((entry.1.endsIn_matchesKeeping vocabulary sentence).settle entry.1.checked)

theorem endsIn_checkSentenceKeeping
    (checker : Checker)
    (vocabulary : String)
    (sentence : Sentence) :
    EndsIn checker.KeepsOwn (checker.checkSentenceKeeping vocabulary sentence)
      (checker.checkSentence sentence) := by
  have numbered := Check.concat_map (checker.checkRule sentence) Prod.fst checker.rules.zipIdx
  rw [List.zipIdx_map_fst] at numbered
  unfold checkSentence
  rw [numbered]
  refine EndsIn.concat fun entry member => ?_
  exact endsIn_checkRuleKeeping vocabulary sentence (List.mem_zipIdx_iff_getElem?.mp member)

theorem endsIn_analyzeKeeping
    (checker : Checker)
    (vocabulary : String)
    (words : List Word) :
    EndsIn checker.KeepsOwn (checker.analyzeKeeping vocabulary words)
      (checker.analyze .null (some words)) := by
  refine EndsIn.concat fun sentence _ => ?_
  exact (endsIn_checkSentenceKeeping checker vocabulary sentence).andThen fun found =>
    endsIn_ofCheck _

end Checker

namespace Command

/-- Texts checked one after the other end like texts for which everything is prepared anew. -/
theorem endsIn_entriesOfTextsKeeping
    (checker : Checker)
    (files : Files)
    (vocabulary : String)
    (texts : List (String × List Word)) :
    EndsIn checker.KeepsOwn (entriesOfTextsKeeping checker files vocabulary texts)
      (entriesOfTexts checker files texts) := by
  refine EndsIn.concat fun text _ => ?_
  unfold entriesOfTextKeeping entriesOfText
  cases requireText files text.1 with
  | error failure =>
      exact endsIn_ofCheck _
  | ok found =>
      exact (checker.endsIn_analyzeKeeping vocabulary text.2).andThen fun entries =>
        endsIn_ofCheck _

end Command

end ProseRules
