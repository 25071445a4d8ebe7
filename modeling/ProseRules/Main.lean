import ProseRules.Command.Run
import ProseRules.Sentence.Words

namespace ProseRules.Command

/-!
# The command

Reads the files that the arguments name and the standard input, runs the command
on them, and prints what it says.
-/

/-- What stands at a path of the file system. -/
def storedAt (path : String) : IO StoredFile := do
  if path.isEmpty then
    return .missing
  try
    let content ← IO.FS.readFile path
    return .holding content
  catch failure =>
    match failure with
    | .noFileOrDirectory .. => return .missing
    | _ => return .directory

/-- The paths of all files that a run may read. -/
def neededPaths (settings : Settings) (options : Options) : List String :=
  let documents := [options.rules, settings.exceptionDocument].filterMap fun choice =>
    match choice with
    | .bundled => none
    | .file path => some path
  documents ++ (textsOf options).filter (· ≠ standardInput)

/-- The words of a text that is named or comes from the standard input. -/
def wordsAt (files : List (String × StoredFile)) (path : String) : IO (List Word) := do
  if path = standardInput then
    let stream ← IO.getStdin
    let bytes ← stream.readBinToEnd
    return Document.wordsOf ((String.fromUTF8? bytes).getD "")
  else
    match files.lookup path with
    | some (.holding content) => return Document.wordsOf content
    | _ => return []

/-- The variables of the environment that settings depend on. -/
def environmentOf (names : List String) : IO Environment := do
  let values ← names.mapM fun name => return (name, ← IO.getEnv name)
  return fun name => (values.lookup name).join

/-- The words for what ends a run early. -/
def wordsOfFailure (failure : Failure) : String :=
  failure.message?.getD "the command cannot go on"

end ProseRules.Command

open ProseRules ProseRules.Command in
/-- Run the command with its arguments. -/
def main (arguments : List String) : IO UInt32 := do
  let environment ← environmentOf
    ["LOG_LEVEL", "SPACY_MODEL", "PATTERN_RULES_FILE", "RULE_EXCEPTIONS_FILE",
      "ENABLE_FAST_REJECT", "DEFAULT_SEVERITY"]
  let settings := Settings.ofEnvironment environment
  let options? := (optionsOf settings arguments).toOption
  let paths := (options?.map (neededPaths settings)).getD []
  let files ← paths.mapM fun path => return (path, ← storedAt path)
  let reading := fun path => (files.lookup path).getD .missing
  let texts := (options?.map fun options => if options.listRules then [] else textsOf options)
  let documents ← (texts.getD []).mapM (wordsAt files)
  let result := run settings reading documents arguments
  (← IO.getStdout).putStr result.printed
  for notice in result.notices do
    (← IO.getStderr).putStrLn notice.message
  match result.ending with
  | .code number => return number.toUInt32
  | .refused .help => return 0
  | .refused .misuse =>
      (← IO.getStderr).putStrLn "the arguments are misused"
      return 2
  | .failed failure =>
      (← IO.getStderr).putStrLn (wordsOfFailure failure)
      return 1
