import ProseRules.Definition.Rules
import ProseRules.Yaml.Reader

namespace ProseRules

/-!
# Loading rules

Rules are read from the text of a document or from a file. A file that does not
exist defines no rules.
-/

/-- What stands at a path. -/
inductive StoredFile where
  | missing
  | directory
  | holding (content : String)
  deriving Repr, DecidableEq

/-- The files that can be read, by their paths. -/
abbrev Files : Type :=
  String → StoredFile

/-- The text of a file that has to be there. -/
def Files.read (files : Files) (path : String) : Except Failure String :=
  match files path with
  | .missing => .error .fileNotFound
  | .directory => .error .isDirectory
  | .holding content => .ok content

/-- The name of a document that has no source. -/
def unnamedSource : String :=
  "<string>"

/-- The rules that a text defines. -/
def rulesOfText (source : String) (language : String) (document : String) :
    Except Failure Loaded :=
  match Yaml.read document with
  | .error .malformed => .error (.definition (.malformedMarkup source))
  | .error (.failed failure) => .error failure
  | .ok (.mapping entries) => rulesOfEntries source language entries
  | .ok value =>
      if value.isTruthy then .error (.definition (.topLevel source))
      else rulesOfEntries source language []

/-- The rules that what stands at a path defines. -/
def rulesOfStored (path : String) (language : String) : StoredFile → Except Failure Loaded
  | .missing => .ok ⟨[], [.ruleFileMissing path]⟩
  | .directory => .error .isDirectory
  | .holding document => rulesOfText path language document

/-- The rules that a file defines. -/
def rulesOfFile (files : Files) (path : String) (language : String) : Except Failure Loaded :=
  rulesOfStored path language (files path)

end ProseRules
