import ProseRules.Bundled
import ProseRules.Definition.Load
import ProseRules.Text.Case

namespace ProseRules

/-!
# Settings

What is not said on a single run comes from the environment, and what the
environment does not say has a usual value.
-/

/-- The variables of the environment. -/
abbrev Environment : Type :=
  String → Option String

/-- A document that is bundled or stands in a file. -/
inductive DocumentChoice where
  | bundled
  | file (path : String)
  deriving Repr, DecidableEq

namespace DocumentChoice

/-- The document a variable of the environment names. -/
def ofVariable (value : Option String) : DocumentChoice :=
  match value with
  | none => bundled
  | some path => .file path

/-- The path of a document; `bundledPath` is that of the bundled one. -/
def path (bundledPath : String) : DocumentChoice → String
  | bundled => bundledPath
  | .file path => path

/-- What stands at the place of a document. -/
def stored (files : Files) (content : String) : DocumentChoice → StoredFile
  | bundled => .holding content
  | .file path => files path

end DocumentChoice

/-- The settings of a run. -/
structure Settings where
  logLevel : String
  /-- The name of the language model that cuts texts into words. -/
  model : String
  ruleDocument : DocumentChoice
  exceptionDocument : DocumentChoice
  /-- Rules are skipped for a sentence that lacks one of their words. -/
  fastReject : Bool
  severity : String
  deriving Repr, DecidableEq

namespace Settings

/-- The model that is used where no other is asked for. -/
def usualModel : String :=
  "en_core_web_sm"

/-- The model of a given name; an empty name is none. -/
def modelNamed (name : String) : String :=
  if name = "" then usualModel else name

/-- The path of the bundled rules. -/
def bundledRulePath : String :=
  "rules/config/pattern_rules.yaml"

/-- The path of the bundled exceptions. -/
def bundledExceptionPath : String :=
  "rules/config/exceptions.yaml"

/-- The settings that an environment asks for. -/
def ofEnvironment (environment : Environment) : Settings where
  logLevel := (environment "LOG_LEVEL").getD "INFO"
  model := (environment "SPACY_MODEL").getD usualModel
  ruleDocument := .ofVariable (environment "PATTERN_RULES_FILE")
  exceptionDocument := .ofVariable (environment "RULE_EXCEPTIONS_FILE")
  fastReject := Text.lower ((environment "ENABLE_FAST_REJECT").getD "true") = "true"
  severity := (environment "DEFAULT_SEVERITY").getD "medium"

/-- The settings for tests: much is logged, and the usual model and the fast rejection are used. -/
def forTests (settings : Settings) : Settings :=
  { settings with logLevel := "DEBUG", model := usualModel, fastReject := true }

/-- The path of the rules. -/
def rulePath (settings : Settings) : String :=
  settings.ruleDocument.path bundledRulePath

/-- The path of the exceptions. -/
def exceptionPath (settings : Settings) : String :=
  settings.exceptionDocument.path bundledExceptionPath

/-- The analysis part of the settings. -/
def analysisEntries (settings : Settings) : List (Value × Value) :=
  [(.text "spacy_model", .text settings.model)]

/-- The part of the settings that concerns the rules. -/
def ruleEntries (settings : Settings) : List (Value × Value) :=
  [(.text "rules_file", .text settings.rulePath),
    (.text "exceptions_file", .text settings.exceptionPath),
    (.text "enable_fast_reject", .bool settings.fastReject),
    (.text "default_severity", .text settings.severity)]

/-- The rules of a document that is bundled or stands in a file. -/
def rulesOf (files : Files) (choice : DocumentChoice) : Except Failure Loaded :=
  rulesOfStored (choice.path bundledRulePath) "" (choice.stored files Bundled.rules)

end Settings

end ProseRules
