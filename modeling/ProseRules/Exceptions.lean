import ProseRules.Definition.Load

namespace ProseRules

/-!
# Exceptions

An exception list names texts that are never reported: some for all types of
rules, some for one type only. Upper and lower case are not told apart.
-/

/-- A list of exceptions as it was read. -/
structure ExceptionList where
  document : Value

namespace ExceptionList

/-- The list without exceptions. -/
def none : ExceptionList :=
  ⟨.mapping []⟩

/-- The terms of a list, in small letters; what is no list has none. -/
def termsOf : Value → Except Failure (List String)
  | .list entries => entries.mapM fun entry => entry.shown.map Text.lower
  | _ => .ok []

/-- The terms for all types of rules. -/
def globalTerms (entries : List (Value × Value)) : Except Failure (List String) :=
  termsOf (Value.fieldOr "global_exceptions" (.list []) entries)

/-- The terms for one type of rules. -/
def specificTerms (ruleType : Value) (entries : List (Value × Value)) :
    Except Failure (List String) :=
  match Value.fieldOr "rule_specific_exceptions" (.mapping []) entries with
  | .mapping byType => termsOf ((Value.lookup? ruleType byType).getD (.list []))
  | _ => .ok []

/-- A text as it is compared with the terms. -/
def normalForm (span : String) : String :=
  String.ofList (Text.dropBlanksAround (Text.lower span).toList)

/-- A text is not reported by the rules of a type. The terms for one type are read last. -/
def excepts (exceptions : ExceptionList) (ruleType : Value) (span : String) :
    Except Failure Bool :=
  if !exceptions.document.isTruthy || span = "" then
    .ok false
  else
    match exceptions.document with
    | .mapping entries => do
        if (← globalTerms entries).contains (normalForm span) then
          return true
        return (← specificTerms ruleType entries).contains (normalForm span)
    | _ => .error .noMember

/-- The list that what stands at a path holds. A malformed document holds no exceptions. -/
def ofStored (path : String) : StoredFile → Except Failure (ExceptionList × List Notice)
  | .missing => .ok (none, [.exceptionsMissing path])
  | .directory => .error .isDirectory
  | .holding document =>
      match Yaml.read document with
      | .ok (.mapping entries) => .ok (⟨.mapping entries⟩, [])
      | .ok _ => .ok (none, [.exceptionsUnusable path])
      | .error .malformed => .ok (none, [])
      | .error (.failed failure) => .error failure

/-- The list in a file. -/
def ofFile (files : Files) (path : String) : Except Failure (ExceptionList × List Notice) :=
  ofStored path (files path)

end ExceptionList

end ProseRules
