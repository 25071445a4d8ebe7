import ProseRules.Proofs.Checker.Caches
import ProseRules.Proofs.Checker.PassedOver
import ProseRules.Proofs.Definition.NumberedRule
import ProseRules.Proofs.Report.Writing

namespace ProseRules

/-!
# The report of a run

A run over several texts reports what the check of each text alone finds, in the order of the
texts and with their names. It does so all at once: a text that cannot be read or a rule that
ends its check leaves nothing printed.
-/

namespace Check

variable {α β : Type}

/-- One check that fails makes the whole row fail. -/
theorem exists_error_of_mem
    {check : α → Check (List β)}
    {items : List α}
    {item : α}
    (member : item ∈ items)
    (fails : ∃ failure, (check item).outcome = .error failure) :
    ∃ failure, (concat check items).outcome = .error failure := by
  induction items with
  | nil =>
      cases member
  | cons first rest inductionHypothesis =>
      cases outcome : (check first).outcome with
      | error failure =>
          exact ⟨failure, by simp only [concat, andThen, outcome]⟩
      | ok found =>
          have inRest : item ∈ rest := by
            rcases List.mem_cons.mp member with rfl | inRest
            · obtain ⟨failure, isFailure⟩ := fails
              cases outcome.symm.trans isFailure
            · exact inRest
          obtain ⟨failure, isFailure⟩ := inductionHypothesis inRest
          exact ⟨failure, by simp only [concat, andThen, outcome, isFailure]⟩

end Check

namespace Checker

variable {checker : Checker}

/-- The entry of a match, field by field. -/
theorem entryOf_eq
    {found : RuleMatch}
    {ruleId subId : Value}
    (isRuleId : (Datum.ofValue found.ruleId).plain = .ok ruleId)
    (isSubId : (Datum.ofValue found.subId).plain = .ok subId) :
    checker.entryOf found =
      .ok
        [(.text "type", .text ruleTypeName),
          (.text "message", .text found.message),
          (.text "suggestions", .list (found.suggestions.map Value.text)),
          (.text "sentence", .text found.sentence),
          (.text "sentence_index", .int found.sentenceIndex),
          (.text "severity", settledSeverity checker.severity),
          (.text "rule_id", ruleId),
          (.text "sub_id", subId),
          (.text "short_message", .text found.shortMessage),
          (.text "span", .list [.int found.span.1, .int found.span.2]),
          (.text "flagged_text", .text found.flaggedText)] := by
  have areSuggestions :
      (found.suggestions.map Value.text).mapM Value.shown = .ok found.suggestions :=
    Outcome.mapM_map_eq_self fun _ _ => rfl
  simp [entryOf, ReportEntry.ofParts, ReportEntry.fieldsOf, ReportEntry.plainData,
    Value.elements, Value.toInteger, areSuggestions, Datum.plainEntries, Datum.Key.written,
    Datum.plain, Datum.plainElements, isRuleId, isSubId, Value.update, Value.insert, bind,
    Except.bind, pure, Except.pure, Except.map]

/-- The entry of a match has no field for the name of its text. -/
theorem withSource_of_entryOf
    {found : RuleMatch}
    {entry : ReportEntry}
    (isEntry : checker.entryOf found = .ok entry)
    (source : String) :
    entry.withSource source = entry ++ [(.text "source", .text source)] := by
  obtain ⟨idIsWritten, subIdIsWritten⟩ := exists_entryOf_iff.mp ⟨entry, isEntry⟩
  obtain ⟨ruleId, isRuleId⟩ := Datum.exists_plain_iff_canBeWritten.mpr idIsWritten
  obtain ⟨subId, isSubId⟩ := Datum.exists_plain_iff_canBeWritten.mpr subIdIsWritten
  rw [entryOf_eq isRuleId isSubId] at isEntry
  cases isEntry
  exact ReportEntry.withSource_eq (by simp) source

/-- The entries of matches are made of one of them each. -/
theorem exists_match_of_mem_entriesOf
    {found : List RuleMatch}
    {entries : List ReportEntry}
    (succeeds : checker.entriesOf found = .ok entries)
    {entry : ReportEntry}
    (member : entry ∈ entries) :
    ∃ ruleMatch ∈ found, checker.entryOf ruleMatch = .ok entry := by
  induction found generalizing entries with
  | nil =>
      cases succeeds
      cases member
  | cons first rest inductionHypothesis =>
      obtain ⟨excepted, _, afterExcepted⟩ := Outcome.bind_eq_ok_iff.mp succeeds
      have later {others : List ReportEntry} (areOthers : checker.entriesOf rest = .ok others)
          (inOthers : entry ∈ others) :
          ∃ ruleMatch ∈ first :: rest, checker.entryOf ruleMatch = .ok entry := by
        obtain ⟨ruleMatch, isFound, isEntry⟩ := inductionHypothesis areOthers inOthers
        exact ⟨ruleMatch, List.mem_cons_of_mem _ isFound, isEntry⟩
      cases excepted with
      | true =>
          obtain ⟨_, isNothing, afterNothing⟩ := Outcome.bind_eq_ok_iff.mp afterExcepted
          obtain ⟨others, areOthers, isAll⟩ := Outcome.bind_eq_ok_iff.mp afterNothing
          cases isNothing
          cases isAll
          exact later areOthers member
      | false =>
          obtain ⟨own, isOwn, afterOwn⟩ := Outcome.bind_eq_ok_iff.mp afterExcepted
          obtain ⟨others, areOthers, isAll⟩ := Outcome.bind_eq_ok_iff.mp afterOwn
          obtain ⟨made, isMade, rfl⟩ := Outcome.map_eq_ok_iff.mp isOwn
          cases isAll
          rcases List.mem_cons.mp member with rfl | inOthers
          · exact ⟨first, List.mem_cons_self, isMade⟩
          · exact later areOthers inOthers

/-- The entries of a document are made of one match each. -/
theorem exists_match_of_mem_analyze
    {words : List Word}
    {entries : List ReportEntry}
    (isAnalysis : (checker.analyze .null (some words)).outcome = .ok entries)
    {entry : ReportEntry}
    (member : entry ∈ entries) :
    ∃ found, checker.entryOf found = .ok entry := by
  obtain ⟨sentence, _, part, isPart, inPart⟩ := Check.exists_item_of_mem isAnalysis member
  unfold analyzeSentence Check.andThen at isPart
  cases finds : (checker.checkSentence sentence).outcome with
  | error failure =>
      rw [finds] at isPart
      cases isPart
  | ok found =>
      rw [finds] at isPart
      obtain ⟨ruleMatch, _, isEntry⟩ := exists_match_of_mem_entriesOf isPart inPart
      exact ⟨ruleMatch, isEntry⟩

/-- Some rule ends the check of some sentence of a document. -/
def StopsIn (checker : Checker) (words : List Word) : Prop :=
  ∃ sentence ∈ Document.sentences words, ∃ rule ∈ checker.rules, ∃ failure,
    checker.StopsAt sentence rule failure

/-- A document has entries if no rule ends its check and what is found can be reported. -/
theorem exists_analyze_of_not_stopsIn
    (reports : checker.CanReport)
    {words : List Word}
    (goesOn : ¬checker.StopsIn words) :
    ∃ entries, (checker.analyze .null (some words)).outcome = .ok entries := by
  have eachFinds :
      ∀ sentence ∈ Document.sentences words,
        ∃ found, (checker.checkSentence sentence).outcome = .ok found := by
    intro sentence isSentence
    obtain ⟨found, finds, _⟩ := (goesThroughRules checker sentence).toLast
      fun rule isRule failure stops => goesOn ⟨sentence, isSentence, rule, isRule, failure, stops⟩
    exact ⟨found, finds⟩
  have isProse : isCodeBlock .null = .ok false := rfl
  obtain ⟨founds, areFound, _⟩ := Outcome.exists_mapM_eq_ok eachFinds
  obtain ⟨entries, isAnalysis, _⟩ :=
    (analyzesSentences reports isProse words).toLast founds (Outcome.mapM_eq_ok_iff.mp areFound)
  exact ⟨entries, by rw [isAnalysis]⟩

/-- A document in which some rule ends the check has no entries. -/
theorem exists_error_of_stopsIn
    {words : List Word}
    (stops : checker.StopsIn words) :
    ∃ failure, (checker.analyze .null (some words)).outcome = .error failure := by
  obtain ⟨sentence, isSentence, rule, isRule, failure, stopsAt⟩ := stops
  have sentenceFails : ∃ failure, (checker.checkSentence sentence).outcome = .error failure :=
    Check.exists_error_of_mem isRule ⟨failure, by rw [checkRule_of_stopsAt stopsAt]; rfl⟩
  obtain ⟨cause, isCause⟩ := sentenceFails
  refine Check.exists_error_of_mem isSentence ⟨cause, ?_⟩
  simp only [analyzeSentence, Check.andThen, isCause]

/-- A document that has entries goes on to its end. -/
theorem not_stopsIn_of_analyze
    {words : List Word}
    {entries : List ReportEntry}
    (isAnalysis : (checker.analyze .null (some words)).outcome = .ok entries) :
    ¬checker.StopsIn words := by
  intro stops
  obtain ⟨failure, isFailure⟩ := exists_error_of_stopsIn stops
  cases isFailure.symm.trans isAnalysis

end Checker

namespace Command

variable {checker : Checker} {files : Files} {texts : List (String × List Word)}

/-- The entries of several texts in order, each extended by the name of its text. -/
def namedEntries (texts : List (String × List Word)) (reports : List (List ReportEntry)) :
    List ReportEntry :=
  (List.zipWith
    (fun text entries => entries.map fun entry => entry ++ [(.text "source", .text text.1)])
    texts reports).flatten

/-- What a run does that has found some entries. -/
structure Run.Reports (run : Run) (entries : List ReportEntry) : Prop where
  /-- All entries are printed as one list, and the run ends with 1 unless there are none. -/
  whole :
    (∀ entry ∈ entries, entry.IsWritable) →
      run.printed = ReportEntry.listText entries ++ "\n" ∧
        run.ending = .code (if entries.isEmpty then 0 else 1)
  /-- A number with too many digits ends the run. -/
  partly :
    (∃ entry ∈ entries, ¬entry.IsWritable) →
      run.ending = .failed (.badValue (.integer .tooLongToWrite))

/-- The report of a run is that of its texts, one after the other. -/
structure ReportsEachText (checker : Checker) (files : Files) (model : String)
    (texts : List (String × List Word)) (run : Run) : Prop where
  /-- The texts are checked in turn, each with what the ones before it left in the caches. -/
  carries :
    entriesOfTexts checker files texts =
      (entriesOfTextsKeeping checker files model texts checker.nothingKept).1
  /-- The entries are those of each text alone, checked with nothing in the caches. -/
  sum :
    (∀ text ∈ texts, requireText files text.1 = .ok ()) →
      ∀ reports,
        List.Forall₂
            (fun text entries =>
              (checker.analyzeKeeping model text.2 checker.nothingKept).1.outcome = .ok entries)
            texts reports →
          run.Reports (namedEntries texts reports)
  /-- A text has entries if no rule ends its check and what is found can be reported. -/
  alone :
    checker.CanReport →
      ∀ text ∈ texts,
        ¬checker.StopsIn text.2 →
          ∃ entries,
            (checker.analyzeKeeping model text.2 checker.nothingKept).1.outcome = .ok entries
  /-- A text that cannot be read or in which a rule ends the check leaves nothing printed. -/
  nothing :
    ∀ text ∈ texts,
      (∃ failure, requireText files text.1 = .error failure) ∨ checker.StopsIn text.2 →
        run.printed = "" ∧ ∃ failure, run.ending = .failed failure

/-- The entries of a text that can be read are those of its words, with its name. -/
theorem entriesOfText_of_analyze
    {text : String × List Word}
    (isThere : requireText files text.1 = .ok ())
    {entries : List ReportEntry}
    (isAnalysis : (checker.analyze .null (some text.2)).outcome = .ok entries) :
    (entriesOfText checker files text.1 text.2).outcome =
      .ok (entries.map fun entry => entry ++ [(.text "source", .text text.1)]) := by
  have named :
      (entries.map fun entry => entry.withSource text.1) =
        entries.map fun entry => entry ++ [(.text "source", .text text.1)] := by
    refine List.map_congr_left fun entry member => ?_
    obtain ⟨found, isEntry⟩ := Checker.exists_match_of_mem_analyze isAnalysis member
    exact Checker.withSource_of_entryOf isEntry text.1
  simp only [entriesOfText, isThere, Check.andThen, isAnalysis, Check.found, named]

theorem entriesOfTexts_of_analyze
    (areThere : ∀ text ∈ texts, requireText files text.1 = .ok ())
    {reports : List (List ReportEntry)}
    (areAnalyses :
      List.Forall₂
        (fun text entries => (checker.analyze .null (some text.2)).outcome = .ok entries)
        texts reports) :
    (entriesOfTexts checker files texts).outcome = .ok (namedEntries texts reports) := by
  induction areAnalyses with
  | nil =>
      rfl
  | cons isAnalysis _ inductionHypothesis =>
      obtain ⟨isThere, laterThere⟩ := List.forall_mem_cons.mp areThere
      have areEntries := entriesOfText_of_analyze isThere isAnalysis
      have areLater := inductionHypothesis laterThere
      unfold entriesOfTexts at areLater ⊢
      simp only [Check.concat, Check.andThen, areEntries, areLater, Check.found]
      rfl

/-- A text that cannot be checked makes the check of all texts fail. -/
theorem exists_error_entriesOfTexts
    {text : String × List Word}
    (member : text ∈ texts)
    (fails :
      (∃ failure, requireText files text.1 = .error failure) ∨ checker.StopsIn text.2) :
    ∃ failure, (entriesOfTexts checker files texts).outcome = .error failure := by
  refine Check.exists_error_of_mem member ?_
  unfold entriesOfText
  cases isThere : requireText files text.1 with
  | error failure =>
      exact ⟨failure, rfl⟩
  | ok found =>
      rcases fails with ⟨failure, isMissing⟩ | stops
      · cases isThere.symm.trans isMissing
      · obtain ⟨failure, isFailure⟩ := checker.exists_error_of_stopsIn stops
        exact ⟨failure, by simp only [Check.andThen, isFailure]⟩

section CheckRun

variable {options : Options} {documents : List (List Word)} {notices : List Notice}

theorem checkRun_of_found
    {entries : List ReportEntry}
    (finds :
      (entriesOfTexts checker files (withWords (textsOf options) documents)).outcome =
        .ok entries) :
    (checkRun checker files options documents notices).Reports entries := by
  unfold checkRun
  simp only [finds]
  constructor
  case whole =>
    intro writable
    rw [ReportEntry.report_of_writable writable]
    exact ⟨rfl, rfl⟩
  case partly =>
    rintro ⟨entry, member, unwritable⟩
    rw [ReportEntry.failure_report_of_not_writable member unwritable]

theorem checkRun_of_failed
    {failure : Failure}
    (fails :
      (entriesOfTexts checker files (withWords (textsOf options) documents)).outcome =
        .error failure) :
    (checkRun checker files options documents notices).printed = "" ∧
      (checkRun checker files options documents notices).ending = .failed failure := by
  unfold checkRun
  simp only [fails, and_self]

end CheckRun

/-- A run without another request checks its texts with a checker of the rules it loads. -/
theorem run_eq_checkRun
    {settings : Settings}
    {documents : List (List Word)}
    {arguments : List String}
    {options : Options}
    {loaded : Loaded}
    {notices : List Notice}
    (isOptions : optionsOf settings arguments = .ok options)
    (checks : options.listRules = false)
    (loads : Settings.rulesOf files options.rules = .ok loaded)
    (isChecker :
      Checker.create settings files
          { rules := some loaded.rules, fastReject := some options.fastReject } =
        .ok (checker, notices)) :
    run settings files documents arguments =
      checkRun checker files options documents (loaded.notices ++ notices) := by
  unfold run runOptions
  simp only [isOptions, loads, checks, isChecker]
  rfl

/-! ## Runs with one rule whose id is a number -/

/-- The settings of an environment whose list of exceptions does not exist. -/
def unexceptingSettings : Settings :=
  .ofEnvironment fun name => if name = "RULE_EXCEPTIONS_FILE" then some "e.yaml" else none

/-- The arguments that name a rule file and one text. -/
def fileArguments : List String :=
  ["--rules", "r.yaml", "a.txt"]

/-- The options these arguments stand for. -/
def fileOptions : Options where
  texts := ["a.txt"]
  rules := .file "r.yaml"
  model := Settings.usualModel

theorem optionsOf_fileArguments :
    optionsOf unexceptingSettings fileArguments = .ok fileOptions := by
  decide +kernel

/-- A text of one word. -/
def oneWord : List Word :=
  [{ text := "a" }]

/-- The text of one word and a rule file, whose rule has a power of 16 as its id. -/
def numberedFiles (exponent : Nat) : Files := fun path =>
  if path = "r.yaml" then .holding (String.ofList (Yaml.numberedRule (Yaml.hexPower exponent)))
  else if path = "a.txt" then .holding "a"
  else .missing

/-- What the rule file defines. -/
def numberedRules (exponent : Nat) : Loaded :=
  (rulesOfEntries "r.yaml" "" (numberedRuleEntries (.int (Yaml.powerOf16 exponent)))).toOption.getD
    .none

/-- The checker with the rule. -/
def numberedChecker (exponent : Nat) : Checker where
  rules := (numberedRules exponent).rules
  fastReject := true
  severity := .text "medium"
  exceptions := .none

section Numbered

variable {exponent : Nat}

theorem rulesOf_numberedFiles
    (leads : Yaml.leadsToId (Yaml.hexPower exponent) = true)
    (defines :
      (rulesOfEntries "r.yaml" ""
          (numberedRuleEntries (.int (Yaml.powerOf16 exponent)))).toOption.isSome =
        true) :
    Settings.rulesOf (numberedFiles exponent) fileOptions.rules =
      .ok (numberedRules exponent) := by
  obtain ⟨loaded, isLoaded⟩ := Option.isSome_iff_exists.mp defines
  change rulesOfText "r.yaml" "" _ = _
  rw [rulesOfText_numberedRule (Yaml.writesNumber_hexPower exponent) leads, numberedRules, isLoaded]
  exact Outcome.eq_ok_of_toOption isLoaded

theorem create_numberedChecker :
    Checker.create unexceptingSettings (numberedFiles exponent)
        { rules := some (numberedRules exponent).rules
          fastReject := some fileOptions.fastReject } =
      .ok (numberedChecker exponent, [.exceptionsMissing "e.yaml"]) :=
  rfl

/-- What the checker finds can be reported, since its rule has a number for an id. -/
theorem canReport_numberedChecker
    (areNumbered :
      ((numberedRules exponent).rules.all fun rule =>
          (Datum.ofValue rule.id).isScalar && (Datum.ofValue rule.subId).isScalar) =
        true) :
    (numberedChecker exponent).CanReport := by
  constructor
  case exceptions =>
    exact fun _ => ⟨[], rfl, ⟨_, rfl⟩, _, rfl⟩
  case ids =>
    intro rule isRule
    obtain ⟨idIsScalar, subIdIsScalar⟩ :=
      Bool.and_eq_true_iff.mp (List.all_eq_true.mp areNumbered rule isRule)
    exact ⟨.scalar idIsScalar, .scalar subIdIsScalar⟩

/-- The run reports what the rule finds in the text. -/
theorem reports_of_numberedFiles
    (loads :
      Settings.rulesOf (numberedFiles exponent) fileOptions.rules = .ok (numberedRules exponent))
    {entries : List ReportEntry}
    (isAnalysis :
      ((numberedChecker exponent).analyze .null (some oneWord)).outcome = .ok entries) :
    (run unexceptingSettings (numberedFiles exponent) [oneWord] fileArguments).Reports
      (entries.map fun entry => entry ++ [(.text "source", .text "a.txt")]) := by
  have isThere : requireText (numberedFiles exponent) "a.txt" = .ok () := rfl
  have areNamed :=
    @entriesOfText_of_analyze (numberedChecker exponent) _ ("a.txt", oneWord) isThere _ isAnalysis
  rw [run_eq_checkRun optionsOf_fileArguments rfl loads create_numberedChecker]
  refine checkRun_of_found ?_
  change (entriesOfTexts _ _ [("a.txt", oneWord)]).outcome = _
  simp only [entriesOfTexts, Check.concat, Check.andThen, areNamed, Check.found, List.append_nil]

end Numbered

/-! ## What a run reports -/

/-- A run reports on its texts what the check of each of them alone finds, or prints nothing. -/
theorem run_reportsEachText
    {settings : Settings}
    {documents : List (List Word)}
    {arguments : List String}
    {options : Options}
    {loaded : Loaded}
    {notices : List Notice}
    (isOptions : optionsOf settings arguments = .ok options)
    (checks : options.listRules = false)
    (loads : Settings.rulesOf files options.rules = .ok loaded)
    (isChecker :
      Checker.create settings files
          { rules := some loaded.rules, fastReject := some options.fastReject } =
        .ok (checker, notices)) :
    ReportsEachText checker files options.model (withWords (textsOf options) documents)
      (run settings files documents arguments) := by
  have nothingKept := checker.keepsOwn_nothingKept
  have sameAlone (words : List Word) :
      (checker.analyzeKeeping options.model words checker.nothingKept).1 =
        checker.analyze .null (some words) :=
    (checker.endsIn_analyzeKeeping options.model words _ nothingKept).1
  rw [run_eq_checkRun isOptions checks loads isChecker]
  constructor
  case carries =>
    exact (endsIn_entriesOfTextsKeeping checker files options.model _ _ nothingKept).1.symm
  case sum =>
    intro areThere reports areAnalyses
    refine checkRun_of_found (entriesOfTexts_of_analyze areThere ?_)
    simpa only [sameAlone] using areAnalyses
  case alone =>
    intro reports text _ goesOn
    rw [sameAlone]
    exact checker.exists_analyze_of_not_stopsIn reports goesOn
  case nothing =>
    intro text member fails
    obtain ⟨failure, isFailure⟩ := exists_error_entriesOfTexts member fails
    obtain ⟨printed, ending⟩ := checkRun_of_failed isFailure
    exact ⟨printed, failure, ending⟩

/-- With a short number for an id the run reports what the check of the text finds. -/
theorem run_reportsEachText_of_shortNumber :
    optionsOf unexceptingSettings fileArguments = .ok fileOptions ∧
      fileOptions.listRules = false ∧
        Settings.rulesOf (numberedFiles 1) fileOptions.rules = .ok (numberedRules 1) ∧
          Checker.create unexceptingSettings (numberedFiles 1)
              { rules := some (numberedRules 1).rules
                fastReject := some fileOptions.fastReject } =
              .ok (numberedChecker 1, [.exceptionsMissing "e.yaml"]) ∧
            (numberedChecker 1).CanReport ∧
              ReportsEachText (numberedChecker 1) (numberedFiles 1) fileOptions.model
                (withWords (textsOf fileOptions) [oneWord])
                (run unexceptingSettings (numberedFiles 1) [oneWord] fileArguments) := by
  have loads : Settings.rulesOf (numberedFiles 1) fileOptions.rules = .ok (numberedRules 1) :=
    rulesOf_numberedFiles (by decide +kernel) (by decide +kernel)
  exact ⟨optionsOf_fileArguments, rfl, loads, create_numberedChecker,
    canReport_numberedChecker (by decide +kernel),
    run_reportsEachText optionsOf_fileArguments rfl loads create_numberedChecker⟩

/-- An id of 4335 digits ends a run that finds its rule in a text. -/
theorem run_failed_of_longNumber :
    optionsOf unexceptingSettings fileArguments = .ok fileOptions ∧
      fileOptions.listRules = false ∧
        Settings.rulesOf (numberedFiles 3600) fileOptions.rules = .ok (numberedRules 3600) ∧
          Checker.create unexceptingSettings (numberedFiles 3600)
              { rules := some (numberedRules 3600).rules
                fastReject := some fileOptions.fastReject } =
              .ok (numberedChecker 3600, [.exceptionsMissing "e.yaml"]) ∧
            requireText (numberedFiles 3600) "a.txt" = .ok () ∧
              ¬(numberedChecker 3600).StopsIn oneWord ∧
                (run unexceptingSettings (numberedFiles 3600) [oneWord] fileArguments).ending =
                  .failed (.badValue (.integer .tooLongToWrite)) := by
  have loads :
      Settings.rulesOf (numberedFiles 3600) fileOptions.rules = .ok (numberedRules 3600) :=
    rulesOf_numberedFiles (by decide +kernel) (by decide +kernel)
  have isFound :
      ((numberedChecker 3600).analyze .null (some oneWord)).outcome.toOption.isSome = true := by
    decide +kernel
  obtain ⟨entries, areEntries⟩ := Option.isSome_iff_exists.mp isFound
  have someUnwritable :
      (((numberedChecker 3600).analyze .null (some oneWord)).outcome.toOption.getD []).any
          (fun entry => entry.any fun field => !field.2.isWritable) =
        true := by
    decide +kernel
  rw [areEntries] at someUnwritable
  obtain ⟨entry, isEntry, unwritable⟩ := List.any_eq_true.mp someUnwritable
  obtain ⟨field, isField, tooLong⟩ := List.any_eq_true.mp unwritable
  have isAnalysis := Outcome.eq_ok_of_toOption areEntries
  refine ⟨optionsOf_fileArguments, rfl, loads, create_numberedChecker, rfl,
    Checker.not_stopsIn_of_analyze isAnalysis,
    (reports_of_numberedFiles loads isAnalysis).partly
      ⟨_, List.mem_map_of_mem isEntry, fun writable => ?_⟩⟩
  rw [writable field (List.mem_append_left _ isField)] at tooLong
  cases tooLong

end Command

end ProseRules
