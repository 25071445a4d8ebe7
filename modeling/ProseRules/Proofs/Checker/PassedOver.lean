import ProseRules.Proofs.Checker.FastReject
import ProseRules.Proofs.Report.FurtherData
import ProseRules.Proofs.Rule.Suggestions

namespace ProseRules

/-!
# Rules that a check passes over

A checker goes through its rules in order. A rule that can be ignored is counted, and a rule
that cannot be read for a sentence is named in a notice: neither adds a match. Any other
failure ends the check, and so does an unreadable rule whose id cannot be written. The
entries of a document are those of its sentences in order.
-/

namespace Rule

variable {rule : Rule} {sentence : Sentence}

/-- Reading or writing fails while the rule is matched with the sentence. -/
def isUnreadableIn (rule : Rule) (sentence : Sentence) : Bool :=
  match rule.matchesIn sentence with
  | .error (.sentenceUnreadable _) => true
  | _ => false

/-- A rule without a name has an id that is no text or an id that is too long to be written. -/
theorem eq_wrongKind_or_tooLongToWrite_of_fullId
    {failure : Failure}
    (unnamed : rule.fullId = .error failure) :
    failure = .wrongKind ∨ failure = .tooLongToWrite := by
  unfold fullId at unnamed
  split at unnamed
  · cases idIsShown : rule.id.canBeShown <;> cases subIdIsShown : rule.subId.canBeShown <;>
      simp_all [Value.shown, bind, Except.bind, pure, Except.pure]
  · split at unnamed
    · cases unnamed
    · exact .inl (Except.error.inj unnamed).symm

/-- A sentence that is called unreadable is the one at hand. -/
theorem eq_text_of_matchesIn
    {text : String}
    (fails : rule.matchesIn sentence = .error (.sentenceUnreadable text)) :
    text = sentence.text := by
  unfold matchesIn at fails
  split at fails
  · split at fails
    · cases fails
    · split at fails
      · cases fails
        rfl
      · cases fails
  · -- A rule without a pattern fails for another cause, whether or not its id can be written.
    cases named : rule.fullId with
    | error failure =>
        rw [named] at fails
        cases fails
        obtain impossible | impossible := eq_wrongKind_or_tooLongToWrite_of_fullId named <;>
          cases impossible
    | ok id =>
        rw [named] at fails
        cases fails

theorem isUnreadableIn_iff :
    rule.isUnreadableIn sentence = true ↔
      rule.matchesIn sentence = .error (.sentenceUnreadable sentence.text) := by
  unfold isUnreadableIn
  constructor
  · intro isUnreadable
    split at isUnreadable
    · rename_i text fails
      rw [fails, eq_text_of_matchesIn fails]
    · cases isUnreadable
  · intro fails
    rw [fails]

end Rule

namespace Check

variable {α β : Type} {check : α → Check (List β)}

/-- Checks that all find something find it in order, and what they count adds up. -/
theorem concat_of_found
    {items : List α}
    {results : List (List β)}
    (each : List.Forall₂ (fun item result => (check item).outcome = .ok result) items results) :
    concat check items =
      ⟨(items.map fun item => (check item).skipped).sum,
        items.flatMap fun item => (check item).notices, .ok results.flatten⟩ := by
  induction each with
  | nil =>
      rfl
  | cons first _ inductionHypothesis =>
      simp [concat, andThen, found, first, inductionHypothesis]

/-- Checks end with the first one that fails, and what was counted up to it stays. -/
theorem concat_of_failed
    {earlier later : List α}
    {item : α}
    {failure : Failure}
    {results : List (List β)}
    (each : List.Forall₂ (fun item result => (check item).outcome = .ok result) earlier results)
    (fails : (check item).outcome = .error failure) :
    concat check (earlier ++ item :: later) =
      ⟨(earlier.map fun item => (check item).skipped).sum + (check item).skipped,
        (earlier.flatMap fun item => (check item).notices) ++ (check item).notices,
        .error failure⟩ := by
  induction each with
  | nil =>
      simp [concat, andThen, fails]
  | cons first _ inductionHypothesis =>
      simp [concat, andThen, first, inductionHypothesis, Nat.add_assoc]

/-- What several checks find is found by one of them. -/
theorem exists_item_of_mem
    {items : List α}
    {results : List β}
    (succeeds : (concat check items).outcome = .ok results)
    {result : β}
    (member : result ∈ results) :
    ∃ item ∈ items, ∃ part, (check item).outcome = .ok part ∧ result ∈ part := by
  induction items generalizing results with
  | nil =>
      cases succeeds
      cases member
  | cons first rest inductionHypothesis =>
      cases finds : (check first).outcome with
      | error failure =>
          simp [concat, andThen, finds] at succeeds
      | ok part =>
          cases restFinds : (concat check rest).outcome with
          | error failure =>
              simp [concat, andThen, finds, restFinds] at succeeds
          | ok others =>
              simp only [concat, andThen, finds, restFinds, found, Except.ok.injEq] at succeeds
              subst succeeds
              rcases List.mem_append.mp member with inPart | inOthers
              · exact ⟨first, List.mem_cons_self, part, finds, inPart⟩
              · obtain ⟨item, isItem, isPart⟩ := inductionHypothesis restFinds inOthers
                exact ⟨item, List.mem_cons_of_mem _ isItem, isPart⟩

/-- A check that finds nothing can be left out. -/
theorem outcome_concat_without
    {earlier later : List α}
    {item : α}
    (nothing : (check item).outcome = .ok []) :
    (concat check (earlier ++ item :: later)).outcome =
      (concat check (earlier ++ later)).outcome := by
  induction earlier with
  | nil =>
      simp only [List.nil_append, concat, andThen, nothing, found]
      cases (concat check later).outcome <;> rfl
  | cons first earlier inductionHypothesis =>
      simp only [List.cons_append, concat, andThen, inductionHypothesis]
      cases (check first).outcome with
      | error failure =>
          rfl
      | ok result =>
          cases (concat check (earlier ++ later)).outcome <;> rfl

end Check

namespace Checker

variable {checker : Checker} {sentence : Sentence} {rule : Rule}

/-- The rule is not matched with the sentence because it can be ignored. -/
def rejects (checker : Checker) (sentence : Sentence) (rule : Rule) : Bool :=
  checker.fastReject && rule.canBeIgnoredFor sentence

/-- The rule ends the check: it fails otherwise, or the notice about it cannot be written. -/
def StopsAt (checker : Checker) (sentence : Sentence) (rule : Rule) (failure : Failure) : Prop :=
  checker.rejects sentence rule = false ∧
    ((rule.isUnreadableIn sentence = false ∧ rule.matchesIn sentence = .error failure) ∨
      (rule.isUnreadableIn sentence = true ∧ rule.fullId = .error failure))

/--
What is counted, noticed and found while some rules are gone through: a rejected rule is
counted, an unreadable one is named, and each other one has its matches, in order.
-/
structure GoneThrough (checker : Checker) (sentence : Sentence) (rules : List Rule)
    (skipped : Nat) (notices : List Notice) (found : List RuleMatch) : Prop where
  skipped : skipped = rules.countP (checker.rejects sentence)
  notices :
    List.Forall₂
      (fun rule notice => ∃ id, rule.fullId = .ok id ∧ notice = .ruleSkipped id sentence.text)
      (rules.filter fun rule => !checker.rejects sentence rule && rule.isUnreadableIn sentence)
      notices
  found :
    ∃ parts,
      List.Forall₂ (fun rule part => rule.matchesIn sentence = .ok part)
          (rules.filter fun rule =>
            !checker.rejects sentence rule && !rule.isUnreadableIn sentence)
          parts ∧
        found = parts.flatten

/-- Rules that are gone through one part after the other are gone through. -/
theorem GoneThrough.append
    {first second : List Rule}
    {skipped moreSkipped : Nat}
    {notices moreNotices : List Notice}
    {found others : List RuleMatch}
    (throughFirst : checker.GoneThrough sentence first skipped notices found)
    (throughSecond : checker.GoneThrough sentence second moreSkipped moreNotices others) :
    checker.GoneThrough sentence (first ++ second) (skipped + moreSkipped)
      (notices ++ moreNotices) (found ++ others) := by
  obtain ⟨rfl, named, parts, matched, rfl⟩ := throughFirst
  obtain ⟨rfl, moreNamed, moreParts, moreMatched, rfl⟩ := throughSecond
  refine ⟨?_, ?_, parts ++ moreParts, ?_, ?_⟩
  · rw [List.countP_append]
  · rw [List.filter_append]
    exact List.rel_append named moreNamed
  · rw [List.filter_append]
    exact List.rel_append matched moreMatched
  · rw [List.flatten_append]

theorem checkRule_of_rejects
    (rejected : checker.rejects sentence rule = true) :
    checker.checkRule sentence rule = ⟨1, [], .ok []⟩ := by
  unfold checkRule
  exact if_pos rejected

theorem checkRule_of_not_rejects
    (kept : checker.rejects sentence rule = false) :
    checker.checkRule sentence rule =
      match rule.matchesIn sentence with
      | .ok found => .found found
      | .error (.sentenceUnreadable text) =>
          match rule.fullId with
          | .ok id => ⟨0, [.ruleSkipped id text], .ok []⟩
          | .error failure => .failed failure
      | .error failure => .failed failure := by
  unfold rejects at kept
  unfold checkRule
  rw [kept]
  rfl

/-- A rule that does not end the check is gone through. -/
theorem goneThrough_of_not_stopsAt
    (goesOn : ∀ failure, ¬checker.StopsAt sentence rule failure) :
    ∃ result,
      (checker.checkRule sentence rule).outcome = .ok result ∧
        checker.GoneThrough sentence [rule] (checker.checkRule sentence rule).skipped
          (checker.checkRule sentence rule).notices result := by
  cases rejected : checker.rejects sentence rule with
  | true =>
      rw [checkRule_of_rejects rejected]
      exact ⟨[], rfl, by simp [rejected], by simp [rejected], [], by simp [rejected], rfl⟩
  | false =>
      rw [checkRule_of_not_rejects rejected]
      cases unreadable : rule.isUnreadableIn sentence with
      | true =>
          cases named : rule.fullId with
          | error failure =>
              exact (goesOn failure ⟨rejected, .inr ⟨unreadable, named⟩⟩).elim
          | ok id =>
              rw [Rule.isUnreadableIn_iff.mp unreadable]
              refine ⟨[], rfl, by simp [rejected], ?_, [], by simp [unreadable], rfl⟩
              simp [rejected, unreadable, named]
      | false =>
          cases outcome : rule.matchesIn sentence with
          | error failure =>
              exact (goesOn failure ⟨rejected, .inl ⟨unreadable, outcome⟩⟩).elim
          | ok found =>
              refine ⟨found, rfl, by simp [rejected, Check.found], ?_, [found], ?_, ?_⟩
              · simp [unreadable, Check.found]
              · simp [rejected, unreadable, outcome]
              · simp

/-- A rule that ends the check counts and notices nothing. -/
theorem checkRule_of_stopsAt
    {failure : Failure}
    (stops : checker.StopsAt sentence rule failure) :
    checker.checkRule sentence rule = .failed failure := by
  obtain ⟨kept, causes⟩ := stops
  rw [checkRule_of_not_rejects kept]
  rcases causes with ⟨readable, fails⟩ | ⟨unreadable, unnamed⟩
  · rw [fails]
    cases failure with
    | sentenceUnreadable text =>
        simp [Rule.isUnreadableIn, fails] at readable
    | _ =>
        rfl
  · rw [Rule.isUnreadableIn_iff.mp unreadable, unnamed]

/-- Rules none of which ends the check are gone through one after the other. -/
theorem goneThrough_of_none_stopsAt
    {rules : List Rule}
    (goOn : ∀ rule ∈ rules, ∀ failure, ¬checker.StopsAt sentence rule failure) :
    ∃ results,
      List.Forall₂ (fun rule result => (checker.checkRule sentence rule).outcome = .ok result)
          rules results ∧
        checker.GoneThrough sentence rules
          (rules.map fun rule => (checker.checkRule sentence rule).skipped).sum
          (rules.flatMap fun rule => (checker.checkRule sentence rule).notices)
          results.flatten := by
  induction rules with
  | nil =>
      exact ⟨[], .nil, rfl, .nil, [], .nil, rfl⟩
  | cons rule rules inductionHypothesis =>
      obtain ⟨first, later⟩ := List.forall_mem_cons.mp goOn
      obtain ⟨result, succeeds, through⟩ := goneThrough_of_not_stopsAt first
      obtain ⟨results, eachSucceeds, throughLater⟩ := inductionHypothesis later
      exact ⟨result :: results, .cons succeeds eachSucceeds, through.append throughLater⟩

/-- How a sentence is checked: up to the first rule that ends the check, or to the last rule. -/
structure GoesThroughRules (checker : Checker) (sentence : Sentence) : Prop where
  toLast :
    (∀ rule ∈ checker.rules, ∀ failure, ¬checker.StopsAt sentence rule failure) →
      ∃ found,
        (checker.checkSentence sentence).outcome = .ok found ∧
          checker.GoneThrough sentence checker.rules (checker.checkSentence sentence).skipped
            (checker.checkSentence sentence).notices found
  toFirstStop :
    ∀ earlier rule later failure,
      checker.rules = earlier ++ rule :: later →
        (∀ other ∈ earlier, ∀ cause, ¬checker.StopsAt sentence other cause) →
          checker.StopsAt sentence rule failure →
            (checker.checkSentence sentence).outcome = .error failure ∧
              ∃ found,
                checker.GoneThrough sentence earlier (checker.checkSentence sentence).skipped
                  (checker.checkSentence sentence).notices found

theorem goesThroughRules
    (checker : Checker)
    (sentence : Sentence) :
    checker.GoesThroughRules sentence := by
  constructor
  case toLast =>
    intro goOn
    obtain ⟨results, eachSucceeds, through⟩ := goneThrough_of_none_stopsAt goOn
    unfold checkSentence
    rw [Check.concat_of_found eachSucceeds]
    exact ⟨results.flatten, rfl, through⟩
  case toFirstStop =>
    intro earlier rule later failure isRules goOn stops
    obtain ⟨results, eachSucceeds, through⟩ := goneThrough_of_none_stopsAt goOn
    have fails : (checker.checkRule sentence rule).outcome = .error failure := by
      rw [checkRule_of_stopsAt stops]
      rfl
    unfold checkSentence
    rw [isRules, Check.concat_of_failed eachSucceeds fails, checkRule_of_stopsAt stops]
    refine ⟨rfl, results.flatten, ?_⟩
    simpa [Check.failed] using through

/-- The match is of a text that is never reported. -/
def isExcepted (checker : Checker) (found : RuleMatch) : Bool :=
  match checker.exceptions.excepts (.text ruleTypeName) found.flaggedText with
  | .ok excepted => excepted
  | .error _ => false

/-- The exceptions of a checker are a mapping of terms that can be written, or there are none. -/
def HasReadableExceptions (checker : Checker) : Prop :=
  checker.exceptions.document.isTruthy = true →
    ∃ entries,
      checker.exceptions.document = .mapping entries ∧
        (∃ terms, ExceptionList.globalTerms entries = .ok terms) ∧
          ∃ terms, ExceptionList.specificTerms (.text ruleTypeName) entries = .ok terms

theorem HasReadableExceptions.excepts_eq
    (readable : checker.HasReadableExceptions)
    (found : RuleMatch) :
    checker.exceptions.excepts (.text ruleTypeName) found.flaggedText =
      .ok (checker.isExcepted found) := by
  have decides :
      ∃ excepted,
        checker.exceptions.excepts (.text ruleTypeName) found.flaggedText = .ok excepted := by
    unfold ExceptionList.excepts
    split
    · exact ⟨_, rfl⟩
    · rename_i someExceptions
      have isTruthy : checker.exceptions.document.isTruthy = true := by
        simp only [Bool.or_eq_true, not_or, Bool.not_eq_true', Bool.not_eq_false] at someExceptions
        exact someExceptions.1
      obtain ⟨entries, isMapping, ⟨forAll, areForAll⟩, forType, areForType⟩ := readable isTruthy
      simp only [isMapping, areForAll, areForType, bind, Except.bind]
      split
      · exact ⟨_, rfl⟩
      · exact ⟨_, rfl⟩
  obtain ⟨excepted, isDecided⟩ := decides
  rw [isExcepted, isDecided]

/-- A match has an entry exactly if the ids of its rule can be written. -/
theorem exists_entryOf_iff
    {found : RuleMatch} :
    (∃ entry, checker.entryOf found = .ok entry) ↔
      (Datum.ofValue found.ruleId).CanBeWritten ∧ (Datum.ofValue found.subId).CanBeWritten := by
  have suggestionsShown :
      (found.suggestions.map Value.text).mapM Value.shown = .ok found.suggestions :=
    Outcome.mapM_map_eq_self fun _ _ => rfl
  have number (n : Int) : (Datum.int n).CanBeWritten := .scalar rfl
  have span : (Datum.tuple [.int found.span.1, .int found.span.2]).CanBeWritten :=
    .row rfl (by simp [number])
  have text (s : String) : (Datum.text s).CanBeWritten := .scalar rfl
  rw [entryOf, ReportEntry.exists_ofParts_iff]
  simp [ReportEntry.fieldsOf, Value.elements, Value.toInteger, suggestionsShown, span, text, bind,
    Except.bind, pure, Except.pure]

/-- What a checker finds can be reported: its exceptions can be read and its rules be named. -/
structure CanReport (checker : Checker) : Prop where
  exceptions : checker.HasReadableExceptions
  ids :
    ∀ rule ∈ checker.rules,
      (Datum.ofValue rule.id).CanBeWritten ∧ (Datum.ofValue rule.subId).CanBeWritten

/-- What is found in a sentence has entries if its rules can be named. -/
theorem CanReport.exists_entryOf
    (reports : checker.CanReport)
    {found : List RuleMatch}
    (succeeds : (checker.checkSentence sentence).outcome = .ok found)
    {ruleMatch : RuleMatch}
    (member : ruleMatch ∈ found) :
    ∃ entry, checker.entryOf ruleMatch = .ok entry := by
  obtain ⟨rule, isRule, part, finds, inPart⟩ := Check.exists_item_of_mem succeeds member
  have matched : rule.matchesIn sentence = .ok part := by
    cases rejected : checker.rejects sentence rule with
    | true =>
        rw [checkRule_of_rejects rejected] at finds
        cases finds
        cases inPart
    | false =>
        rw [checkRule_of_not_rejects rejected] at finds
        split at finds
        · rename_i outcome
          rw [outcome, ← finds]
          rfl
        · split at finds
          · cases finds
            cases inPart
          · cases finds
        · cases finds
  obtain ⟨sameId, sameSubId⟩ := Rule.ids_of_mem_matchesIn matched inPart
  rw [exists_entryOf_iff, sameId, sameSubId]
  exact reports.ids rule isRule

/-- The entries of matches are those of the ones that are not excepted, in order. -/
theorem exists_entriesOf
    (readable : checker.HasReadableExceptions)
    {found : List RuleMatch}
    (haveEntries : ∀ ruleMatch ∈ found, ∃ entry, checker.entryOf ruleMatch = .ok entry) :
    ∃ entries,
      checker.entriesOf found = .ok entries ∧
        List.Forall₂ (fun ruleMatch entry => checker.entryOf ruleMatch = .ok entry)
          (found.filter fun ruleMatch => !checker.isExcepted ruleMatch) entries := by
  induction found with
  | nil =>
      exact ⟨[], rfl, .nil⟩
  | cons first rest inductionHypothesis =>
      obtain ⟨⟨entry, isEntry⟩, laterHave⟩ := List.forall_mem_cons.mp haveEntries
      obtain ⟨entries, succeeds, areEntries⟩ := inductionHypothesis laterHave
      unfold entriesOf
      rw [readable.excepts_eq first, succeeds]
      cases excepted : checker.isExcepted first with
      | true =>
          refine ⟨entries, rfl, ?_⟩
          rw [List.filter_cons_of_neg (by simp [excepted])]
          exact areEntries
      | false =>
          refine ⟨entry :: entries, by rw [isEntry]; rfl, ?_⟩
          rw [List.filter_cons_of_pos (by simp [excepted])]
          exact .cons isEntry areEntries

/-- What is found in a sentence becomes its entries. -/
theorem exists_analyzeSentence
    (reports : checker.CanReport)
    {found : List RuleMatch}
    (succeeds : (checker.checkSentence sentence).outcome = .ok found) :
    ∃ entries,
      (checker.analyzeSentence sentence).outcome = .ok entries ∧
        List.Forall₂ (fun ruleMatch entry => checker.entryOf ruleMatch = .ok entry)
          (found.filter fun ruleMatch => !checker.isExcepted ruleMatch) entries := by
  obtain ⟨entries, isEntries, areEntries⟩ :=
    exists_entriesOf reports.exceptions fun _ member => reports.exists_entryOf succeeds member
  refine ⟨entries, ?_, areEntries⟩
  simp [analyzeSentence, Check.andThen, succeeds, isEntries]

/-- Making entries counts and notices nothing. -/
theorem skipped_notices_analyzeSentence
    (checker : Checker)
    (sentence : Sentence) :
    (checker.analyzeSentence sentence).skipped = (checker.checkSentence sentence).skipped ∧
      (checker.analyzeSentence sentence).notices = (checker.checkSentence sentence).notices := by
  unfold analyzeSentence Check.andThen
  cases (checker.checkSentence sentence).outcome with
  | error failure =>
      exact ⟨rfl, rfl⟩
  | ok found =>
      exact ⟨Nat.add_zero _, List.append_nil _⟩

theorem exists_analyzeSentences
    (reports : checker.CanReport)
    {sentences : List Sentence}
    {founds : List (List RuleMatch)}
    (eachFinds :
      List.Forall₂ (fun sentence found => (checker.checkSentence sentence).outcome = .ok found)
        sentences founds) :
    ∃ results,
      List.Forall₂
          (fun sentence result => (checker.analyzeSentence sentence).outcome = .ok result)
          sentences results ∧
        List.Forall₂ (fun ruleMatch entry => checker.entryOf ruleMatch = .ok entry)
          (founds.flatten.filter fun ruleMatch => !checker.isExcepted ruleMatch)
          results.flatten := by
  induction eachFinds with
  | nil =>
      exact ⟨[], .nil, .nil⟩
  | cons finds _ inductionHypothesis =>
      obtain ⟨entries, succeeds, areEntries⟩ := exists_analyzeSentence reports finds
      obtain ⟨results, eachSucceeds, areResults⟩ := inductionHypothesis
      refine ⟨entries :: results, .cons succeeds eachSucceeds, ?_⟩
      rw [List.flatten_cons, List.flatten_cons, List.filter_append]
      exact List.rel_append areEntries areResults

/-- Leaving a rule out changes nothing if it is rejected or unreadable in every sentence. -/
theorem outcome_analyze_without
    {earlier later : List Rule}
    (isRules : checker.rules = earlier ++ rule :: later)
    (context : Value)
    (words : List Word)
    (passedOver :
      ∀ sentence ∈ Document.sentences words,
        checker.rejects sentence rule = true ∨
          (rule.isUnreadableIn sentence = true ∧ ∃ id, rule.fullId = .ok id)) :
    ({ checker with rules := earlier ++ later }.analyze context (some words)).outcome =
      (checker.analyze context (some words)).outcome := by
  have sameMatches :
      ∀ sentence ∈ Document.sentences words,
        ({ checker with rules := earlier ++ later }.checkSentence sentence).outcome =
          (checker.checkSentence sentence).outcome := by
    intro sentence isSentence
    have findsNothing : (checker.checkRule sentence rule).outcome = .ok [] := by
      cases rejected : checker.rejects sentence rule with
      | true =>
          rw [checkRule_of_rejects rejected]
      | false =>
          rcases passedOver sentence isSentence with isRejected | ⟨unreadable, id, named⟩
          · rw [rejected] at isRejected
            cases isRejected
          · rw [checkRule_of_not_rejects rejected, Rule.isUnreadableIn_iff.mp unreadable, named]
    unfold checkSentence
    rw [isRules, Check.outcome_concat_without findsNothing]
    rfl
  have endsLike :
      Check.EndsLike (fun _ => False)
        ({ checker with rules := earlier ++ later }.analyze context (some words))
        (checker.analyze context (some words)) := by
    unfold analyze
    cases isCodeBlock context with
    | error failure =>
        exact .refl _
    | ok isCode =>
        cases isCode with
        | true =>
            exact .refl _
        | false =>
            refine .concat fun sentence isSentence => ?_
            have starts :
                Check.EndsLike (fun _ => False)
                  ({ checker with rules := earlier ++ later }.checkSentence sentence)
                  (checker.checkSentence sentence) :=
              .inl (sameMatches sentence isSentence)
            refine starts.andThen fun found => .inl ?_
            have sameEntries :=
              @entriesOf_congr checker { checker with rules := earlier ++ later } rfl rfl found
            exact sameEntries
  rcases endsLike with same | ⟨_, impossible, _⟩
  · exact same
  · exact impossible.elim

/--
How a document is analyzed: sentence by sentence up to the first one whose check fails, with
the entries of what is not excepted. A rule that is passed over in every sentence may as well
be missing.
-/
structure AnalyzesSentences (checker : Checker) (context : Value) (words : List Word) :
    Prop where
  toLast :
    ∀ founds,
      List.Forall₂ (fun sentence found => (checker.checkSentence sentence).outcome = .ok found)
          (Document.sentences words) founds →
        ∃ entries,
          checker.analyze context (some words) =
              ⟨((Document.sentences words).map fun sentence =>
                    (checker.checkSentence sentence).skipped).sum,
                (Document.sentences words).flatMap fun sentence =>
                  (checker.checkSentence sentence).notices,
                .ok entries⟩ ∧
            List.Forall₂ (fun ruleMatch entry => checker.entryOf ruleMatch = .ok entry)
              (founds.flatten.filter fun ruleMatch => !checker.isExcepted ruleMatch) entries
  toFirstFailure :
    ∀ earlier sentence later failure founds,
      Document.sentences words = earlier ++ sentence :: later →
        List.Forall₂ (fun sentence found => (checker.checkSentence sentence).outcome = .ok found)
            earlier founds →
          (checker.checkSentence sentence).outcome = .error failure →
            checker.analyze context (some words) =
              ⟨(earlier.map fun sentence => (checker.checkSentence sentence).skipped).sum
                  + (checker.checkSentence sentence).skipped,
                (earlier.flatMap fun sentence => (checker.checkSentence sentence).notices)
                  ++ (checker.checkSentence sentence).notices,
                .error failure⟩
  without :
    ∀ earlier rule later,
      checker.rules = earlier ++ rule :: later →
        (∀ sentence ∈ Document.sentences words,
            checker.rejects sentence rule = true ∨
              (rule.isUnreadableIn sentence = true ∧ ∃ id, rule.fullId = .ok id)) →
          ({ checker with rules := earlier ++ later }.analyze context (some words)).outcome =
            (checker.analyze context (some words)).outcome

theorem analyzesSentences
    (reports : checker.CanReport)
    {context : Value}
    (isProse : isCodeBlock context = .ok false)
    (words : List Word) :
    checker.AnalyzesSentences context words := by
  have isConcat :
      checker.analyze context (some words) =
        Check.concat checker.analyzeSentence (Document.sentences words) := by
    simp only [analyze, isProse]
  have sameSkipped (sentence : Sentence) :=
    (skipped_notices_analyzeSentence checker sentence).1
  have sameNotices (sentence : Sentence) :=
    (skipped_notices_analyzeSentence checker sentence).2
  constructor
  case toLast =>
    intro founds eachFinds
    obtain ⟨results, eachSucceeds, areEntries⟩ := exists_analyzeSentences reports eachFinds
    refine ⟨results.flatten, ?_, areEntries⟩
    rw [isConcat, Check.concat_of_found eachSucceeds]
    simp only [sameSkipped, sameNotices]
  case toFirstFailure =>
    intro earlier sentence later failure founds isSentences eachFinds fails
    obtain ⟨results, eachSucceeds, _⟩ := exists_analyzeSentences reports eachFinds
    have analysisFails : (checker.analyzeSentence sentence).outcome = .error failure := by
      simp only [analyzeSentence, Check.andThen, fails]
    rw [isConcat, isSentences, Check.concat_of_failed eachSucceeds analysisFails]
    simp only [sameSkipped, sameNotices]
  case without =>
    intro earlier rule later isRules passedOver
    exact outcome_analyze_without isRules context words passedOver

/--
A checker goes through its rules in order for each sentence and through the sentences of a
document in order, and a rule that it passes over with a notice changes nothing else.
-/
theorem goesThroughRules_and_analyzesSentences
    (checker : Checker) :
    (∀ sentence, checker.GoesThroughRules sentence) ∧
      (checker.CanReport →
        ∀ context words,
          isCodeBlock context = .ok false → checker.AnalyzesSentences context words) := by
  constructor
  · intro sentence
    exact goesThroughRules checker sentence
  · intro reports context words isProse
    exact analyzesSentences reports isProse words

/-- The rule of one literal, with an id and with a step before matching that cannot read. -/
def unreadableWithId (id : Value) : Rule :=
  { Rule.withTokens [.literal "save" false false]
      (Rule.badReference?_eq_none_iff.mp (by decide)) with
    id := id
    ownImmunizer := some fun _ => .error .fileNotFound }

/-- A checker of a rule that can be ignored, one that cannot be read and one with a match. -/
def threeRulesChecker : Checker where
  rules :=
    [.withTokens [.literal "absent" false false] (Rule.badReference?_eq_none_iff.mp (by decide)),
      unreadableWithId (.text "broken"),
      .withTokens [.literal "save" false false] (Rule.badReference?_eq_none_iff.mp (by decide))]
  fastReject := true
  severity := .text "medium"
  exceptions := .none

/-- The first two rules are passed over, and the third one makes the only entry. -/
theorem analyzesSentences_threeRules :
    threeRulesChecker.CanReport ∧
      isCodeBlock .null = .ok false ∧
        threeRulesChecker.GoesThroughRules { words := [{ text := "save" }] } ∧
          threeRulesChecker.AnalyzesSentences .null [{ text := "save" }] ∧
            (threeRulesChecker.analyze .null (some [{ text := "save" }])).skipped = 1 ∧
              (threeRulesChecker.analyze .null (some [{ text := "save" }])).notices =
                  [.ruleSkipped "broken" "save"] ∧
                (threeRulesChecker.analyze .null
                      (some [{ text := "save" }])).outcome.toOption.map List.length =
                  some 1 := by
  obtain ⟨goesThrough, analyzes⟩ := goesThroughRules_and_analyzesSentences threeRulesChecker
  have reports : threeRulesChecker.CanReport := by
    constructor
    case exceptions => exact fun _ => ⟨[], rfl, ⟨_, rfl⟩, _, rfl⟩
    case ids =>
      intro rule isRule
      simp only [threeRulesChecker, List.mem_cons, List.not_mem_nil, or_false] at isRule
      rcases isRule with rfl | rfl | rfl <;> exact ⟨.scalar rfl, .scalar rfl⟩
  refine ⟨reports, rfl, goesThrough _, analyzes reports .null _ rfl, ?_, ?_, ?_⟩
  · decide +kernel
  · decide +kernel
  · decide +kernel

/-- A rule whose id is no text ends the check where it should be passed over with a notice. -/
theorem checkSentence_stops_at_unnamed_rule :
    ∃ checker : Checker,
      checker.rules = [unreadableWithId (.int 12)] ∧
        checker.rejects { words := [{ text := "save" }] } (unreadableWithId (.int 12)) = false ∧
          (unreadableWithId (.int 12)).isUnreadableIn { words := [{ text := "save" }] } = true ∧
            checker.checkSentence { words := [{ text := "save" }] } =
              ⟨0, [], .error .wrongKind⟩ := by
  refine ⟨{ threeRulesChecker with rules := [unreadableWithId (.int 12)] }, rfl, ?_, rfl, ?_⟩
  · decide
  · rfl

end Checker

end ProseRules
