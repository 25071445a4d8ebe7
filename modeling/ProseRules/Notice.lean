import ProseRules.Failure

namespace ProseRules

/-!
# Notices

A notice tells the user of something that was passed over without a failure.
-/

/-- Something that was passed over. -/
inductive Notice where
  | ruleFileMissing (path : String)
  | nothingToMatch (source id : String)
  | ruleSkipped (id sentence : String)
  | exceptionsMissing (path : String)
  | exceptionsUnusable (path : String)
  deriving Repr, DecidableEq

namespace Notice

/-- The words of a notice. -/
def message : Notice → String
  | ruleFileMissing path =>
      "Pattern rule file " ++ path ++ " not found. No pattern rules loaded."
  | nothingToMatch source id =>
      source ++ ": rule " ++ id ++ " defines neither a pattern nor a regex"
  | ruleSkipped id sentence =>
      "Rule " ++ id ++ " skipped: " ++ Failure.sentenceMessage sentence
  | exceptionsMissing path =>
      "Exceptions file not found at " ++ path ++ ". No exceptions will be applied."
  | exceptionsUnusable path =>
      "Exceptions file at " ++ path ++ " is not a valid dictionary. Disabling exceptions."

end Notice

end ProseRules
