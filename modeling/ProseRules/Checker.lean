import ProseRules.Exceptions
import ProseRules.Report.Entry
import ProseRules.Rule.Matching
import ProseRules.Settings

namespace ProseRules

/-!
# Checking

A checker runs its rules over the sentences of a document. A rule that cannot be
read for a sentence is passed over with a notice; any other failure ends the
check, and what was counted up to it stays.
-/

/-- The outcome of a check with what was counted and noticed on the way. -/
structure Check (α : Type) where
  /-- How often a rule was skipped because a required word is missing. -/
  skipped : Nat
  notices : List Notice
  outcome : Except Failure α

namespace Check

/-- A check that finds something at once. -/
def found {α : Type} (value : α) : Check α :=
  ⟨0, [], .ok value⟩

/-- A check that fails at once. -/
def failed {α : Type} (failure : Failure) : Check α :=
  ⟨0, [], .error failure⟩

/-- One check after another; the second one is not begun if the first one fails. -/
def andThen {α β : Type} (first : Check α) (next : α → Check β) : Check β :=
  match first.outcome with
  | .error failure => ⟨first.skipped, first.notices, .error failure⟩
  | .ok value =>
      let second := next value
      ⟨first.skipped + second.skipped, first.notices ++ second.notices, second.outcome⟩

/-- The findings of several checks in order. -/
def concat {α β : Type} (check : α → Check (List β)) : List α → Check (List β)
  | [] => found []
  | first :: rest =>
      (check first).andThen fun found =>
        (concat check rest).andThen fun others => .found (found ++ others)

end Check

/-- The block types that hold no prose. -/
def codeBlockTypes : List String :=
  ["listing", "literal", "code_block", "inline_code"]

/-- A context tells that a text is no prose. -/
def isCodeBlock (context : Value) : Except Failure Bool :=
  match context with
  | .mapping entries =>
      .ok
        (match Value.field? "block_type" entries with
        | some (.text name) => codeBlockTypes.contains name
        | _ => false)
  | _ => if context.isTruthy then .error .noMember else .ok false

/-- The type of the rules of this library. -/
def ruleTypeName : String :=
  "pattern_rules"

/-- A set of rules with how they are applied. -/
structure Checker where
  rules : List Rule
  fastReject : Bool
  severity : Value
  exceptions : ExceptionList

namespace Checker

/-- The check of one rule with one sentence. -/
def checkRule (checker : Checker) (sentence : Sentence) (rule : Rule) : Check (List RuleMatch) :=
  if checker.fastReject && rule.canBeIgnoredFor sentence then
    ⟨1, [], .ok []⟩
  else
    match rule.matchesIn sentence with
    | .ok found => .found found
    | .error (.sentenceUnreadable text) =>
        match rule.fullId with
        | .ok id => ⟨0, [.ruleSkipped id text], .ok []⟩
        | .error failure => .failed failure
    | .error failure => .failed failure

/-- The matches of all rules in a sentence, in the order of the rules. -/
def checkSentence (checker : Checker) (sentence : Sentence) : Check (List RuleMatch) :=
  Check.concat (checker.checkRule sentence) checker.rules

/-- The entry of a match. -/
def entryOf (checker : Checker) (found : RuleMatch) : Except Failure ReportEntry :=
  ReportEntry.ofParts (.text ruleTypeName)
    { sentence := .text found.sentence
      sentenceIndex := .int found.sentenceIndex
      message := .text found.message
      suggestions := .list (found.suggestions.map Value.text)
      severity := checker.severity
      further :=
        [("rule_id", .ofValue found.ruleId),
          ("sub_id", .ofValue found.subId),
          ("short_message", .text found.shortMessage),
          ("span", .tuple [.int found.span.1, .int found.span.2]),
          ("flagged_text", .text found.flaggedText)] }

/-- The entries of the matches that are not excepted. -/
def entriesOf (checker : Checker) : List RuleMatch → Except Failure (List ReportEntry)
  | [] => .ok []
  | found :: rest => do
      let excepted ← checker.exceptions.excepts (.text ruleTypeName) found.flaggedText
      let entries ← if excepted then .ok [] else (checker.entryOf found).map fun entry => [entry]
      let others ← entriesOf checker rest
      return entries ++ others

/-- The entries of one sentence. -/
def analyzeSentence (checker : Checker) (sentence : Sentence) : Check (List ReportEntry) :=
  (checker.checkSentence sentence).andThen fun found =>
    ⟨0, [], checker.entriesOf found⟩

/-- The entries of a document that was cut into words; without a document there are none. -/
def analyze (checker : Checker) (context : Value) (document : Option (List Word)) :
    Check (List ReportEntry) :=
  match isCodeBlock context, document with
  | .error failure, _ => .failed failure
  | .ok true, _ | .ok false, none => .found []
  | .ok false, some words => Check.concat checker.analyzeSentence (Document.sentences words)

/-- What is asked for when a checker is made; the settings say the rest. -/
structure Request where
  rules : Option (List Rule) := none
  fastReject : Option Bool := none
  severity : Value := .null
  exceptions : Option ExceptionList := none

/-- The checker that is asked for. -/
def create (settings : Settings) (files : Files) (request : Request) :
    Except Failure (Checker × List Notice) := do
  let (exceptions, exceptionNotices) ←
    match request.exceptions with
    | some exceptions => .ok (exceptions, [])
    | none =>
        ExceptionList.ofStored settings.exceptionPath
          (settings.exceptionDocument.stored files Bundled.exceptions)
  let loaded ←
    match request.rules with
    | some rules => .ok ⟨rules, []⟩
    | none => Settings.rulesOf files settings.ruleDocument
  let checker : Checker :=
    { rules := loaded.rules
      fastReject := request.fastReject.getD settings.fastReject
      severity :=
        if request.severity.isTruthy then request.severity else .text settings.severity
      exceptions := exceptions }
  return (checker, exceptionNotices ++ loaded.notices)

end Checker

end ProseRules
