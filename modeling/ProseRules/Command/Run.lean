import ProseRules.Checker
import ProseRules.Command.Arguments

namespace ProseRules.Command

/-!
# Running the command

The command lists the rules, or it checks the named texts one after the other and
prints one report on all of them, up to the first number that cannot be written. It
ends with 1 if something was reported and with 0 if nothing was.
-/

/-- How a run of the command ends. -/
inductive Ending where
  | code (number : Nat)
  | refused (refusal : Refusal)
  | failed (failure : Failure)

/-- What a run of the command does. -/
structure Run where
  printed : String
  /-- The language models that were loaded. -/
  models : List String
  notices : List Notice
  ending : Ending

/-- The line that lists a rule. -/
def lineOf (rule : Rule) : Except Failure String := do
  let id ← rule.fullId
  let pattern :=
    match rule.expression? with
    | some (expression, _) => expression.source
    | none => rule.patternString
  let description ← rule.description.shown
  return id ++ "\t" ++ description ++ "\t" ++ pattern ++ "\n"

/-- The lines that list rules, up to the first rule that cannot be listed. -/
def listing : List Rule → String × Option Failure
  | [] => ("", none)
  | rule :: rest =>
      match lineOf rule with
      | .error failure => ("", some failure)
      | .ok line =>
          let (others, failure) := listing rest
          (line ++ others, failure)

/-- The name of the standard input among the texts. -/
def standardInput : String :=
  "-"

/-- A text can be read. -/
def requireText (files : Files) (source : String) : Except Failure Unit :=
  if source = standardInput then .ok () else (files.read source).map fun _ => ()

/-- The entries of a text, with its name. -/
def entriesOfText (checker : Checker) (files : Files) (source : String) (words : List Word) :
    Check (List ReportEntry) :=
  match requireText files source with
  | .error failure => .failed failure
  | .ok () =>
      (checker.analyze .null (some words)).andThen fun entries =>
        .found (entries.map fun entry => entry.withSource source)

/-- The entries of several texts; each text comes with its words. -/
def entriesOfTexts (checker : Checker) (files : Files) (texts : List (String × List Word)) :
    Check (List ReportEntry) :=
  Check.concat (fun text => entriesOfText checker files text.1 text.2) texts

/-- The texts to check: the standard input if none is named. -/
def textsOf (options : Options) : List String :=
  if options.texts.isEmpty then [standardInput] else options.texts

/-- Each text with its words; a text without words is empty. -/
def withWords : List String → List (List Word) → List (String × List Word)
  | [], _ => []
  | text :: rest, [] => (text, []) :: withWords rest []
  | text :: rest, words :: others => (text, words) :: withWords rest others

/-- The run that lists rules. -/
def listRun (loaded : Loaded) : Run :=
  let (lines, failure) := listing loaded.rules
  let ending :=
    match failure with
    | none => Ending.code 0
    | some failure => .failed failure
  ⟨lines, [], loaded.notices, ending⟩

/-- The run that checks texts with a checker. -/
def checkRun (checker : Checker) (files : Files) (options : Options)
    (documents : List (List Word)) (notices : List Notice) : Run :=
  let check := entriesOfTexts checker files (withWords (textsOf options) documents)
  let all := notices ++ check.notices
  match check.outcome with
  | .error failure => ⟨"", [options.model], all, .failed failure⟩
  | .ok entries =>
      let report := ReportEntry.report entries
      let ending :=
        match report.failure with
        | none => Ending.code (if entries.isEmpty then 0 else 1)
        | some failure => .failed failure
      ⟨report.text, [options.model], all, ending⟩

/-- The run that the options ask for. `documents` holds the words of the texts in order. -/
def runOptions (settings : Settings) (files : Files) (documents : List (List Word))
    (options : Options) : Run :=
  match Settings.rulesOf files options.rules with
  | .error failure => ⟨"", [], [], .failed failure⟩
  | .ok loaded =>
      if options.listRules then
        listRun loaded
      else
        let request : Checker.Request :=
          { rules := some loaded.rules, fastReject := some options.fastReject }
        match Checker.create settings files request with
        | .error failure => ⟨"", [options.model], loaded.notices, .failed failure⟩
        | .ok (checker, notices) =>
            checkRun checker files options documents (loaded.notices ++ notices)

/-- The help text of the command. -/
def helpText : String :=
  Bundled.textOfLines
    [ "usage: prose-rules [-h] [--rules RULES] [--model MODEL] [--no-fast-reject]",
      "                   [--list-rules]",
      "                   [files ...]",
      "",
      "Check text against declarative pattern rules.",
      "",
      "positional arguments:",
      "  files             Text files to check (default: stdin)",
      "",
      "options:",
      "  -h, --help        show this help message and exit",
      "  --rules RULES     YAML rule definition file",
      "  --model MODEL     Language model to load",
      "  --no-fast-reject  Match every rule against every sentence",
      "  --list-rules      Print the loaded rules and exit" ]

/-- The run that the arguments ask for. -/
def run (settings : Settings) (files : Files) (documents : List (List Word))
    (arguments : List String) : Run :=
  match optionsOf settings arguments with
  | .error .help => ⟨helpText, [], [], .refused .help⟩
  | .error .misuse => ⟨"", [], [], .refused .misuse⟩
  | .ok options => runOptions settings files documents options

end ProseRules.Command
