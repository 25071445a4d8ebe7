import ProseRules.Settings

namespace ProseRules.Command

/-!
# Arguments

The arguments of the command name the texts to check and the options. An option
may be shortened as long as it is clear, its value may follow an equals sign, and
after two hyphens every argument names a text. All texts have to be named in one
row.
-/

/-- The options of the command. -/
inductive Switch where
  | help
  | rules
  | model
  | noFastReject
  | listRules
  deriving Repr, DecidableEq

namespace Switch

/-- All options. -/
def all : List Switch :=
  [help, rules, model, noFastReject, listRules]

/-- The name of an option. -/
def name : Switch → List Char
  | help => "--help".toList
  | rules => "--rules".toList
  | model => "--model".toList
  | noFastReject => "--no-fast-reject".toList
  | listRules => "--list-rules".toList

/-- The options whose names begin with the given characters. -/
def startingWith (characters : List Char) : List Switch :=
  all.filter fun option => characters.isPrefixOf option.name

end Switch

/-- What an argument is taken for. -/
inductive Argument where
  /-- The name of a text, or the value of the option before it. -/
  | plain (text : String)
  /-- Two hyphens. -/
  | separator
  /-- An option, with the value after an equals sign. -/
  | switch (option : Switch) (value : Option String)
  /-- Letters after the hyphen of a short option, and whether an equals sign stands between. -/
  | shortHelp (letters : List Char) (afterEquals : Bool)
  | unknown
  deriving Repr, DecidableEq

/-- The arguments ask for something else than a check. -/
inductive Refusal where
  /-- The arguments are misused. -/
  | misuse
  /-- The help text is asked for. -/
  | help
  deriving Repr, DecidableEq

/-- What the arguments ask for. -/
structure Options where
  /-- The names of the texts; a hyphen is the standard input. -/
  texts : List String := []
  rules : DocumentChoice
  model : String
  fastReject : Bool := true
  listRules : Bool := false
  deriving Repr, DecidableEq

/-- Digits only, at least one. -/
def areDigits (characters : List Char) : Bool :=
  !characters.isEmpty && characters.all fun c => (Text.digitValue? c).isSome

/-- The characters after a hyphen make a negative number. -/
def isNumber (characters : List Char) : Bool :=
  let characters :=
    if characters.getLast? = some '\n' then characters.dropLast else characters
  let fraction := (characters.dropWhile fun c => c ≠ '.').drop 1
  areDigits characters
    || areDigits fraction
      && (characters.takeWhile fun c => c ≠ '.').all fun c => (Text.digitValue? c).isSome

/-- The characters before the first equals sign and those after it, if there is one. -/
def splitAtEquals (characters : List Char) : List Char × Option (List Char) :=
  match characters.dropWhile (· ≠ '=') with
  | [] => (characters, none)
  | _ :: value => (characters.takeWhile (· ≠ '='), some value)

/-- What an argument that is no option counts as. -/
def otherArgument (characters : List Char) : Argument :=
  if isNumber (characters.drop 1) || characters.contains ' ' then .plain (String.ofList characters)
  else .unknown

/-- What an argument before any separator is taken for. -/
def argumentOf (text : String) : Except Refusal Argument :=
  match text.toList with
  | '-' :: '-' :: rest =>
      let (name, value) := splitAtEquals ('-' :: '-' :: rest)
      match Switch.startingWith name with
      | [option] => .ok (.switch option (value.map String.ofList))
      | [] => .ok (otherArgument text.toList)
      | _ => .error .misuse
  | '-' :: 'h' :: '=' :: letters => .ok (.shortHelp letters true)
  | '-' :: 'h' :: letters => .ok (.shortHelp letters false)
  | '-' :: c :: rest => .ok (otherArgument ('-' :: c :: rest))
  | _ => .ok (.plain text)

/-- What the arguments are taken for. -/
def argumentsOf : List String → Except Refusal (List Argument)
  | [] => .ok []
  | "--" :: rest => .ok (.separator :: rest.map Argument.plain)
  | text :: rest => do
      let first ← argumentOf text
      return first :: (← argumentsOf rest)

/-- Letters after the hyphen of the short help option ask for help. -/
def asksForHelp : List Char → Bool
  | [] => true
  | '-' :: _ | 'h' :: '=' :: _ => false
  | 'h' :: rest => asksForHelp rest
  | _ => true

/-- How far the row of texts is. -/
inductive Row where
  | ahead
  | underway
  | closed
  deriving Repr, DecidableEq

/-- The state of reading the arguments. -/
structure Progress where
  options : Options
  row : Row := .ahead
  /-- Some argument is of no use. -/
  hasExtra : Bool := false

namespace Progress

/-- A text is named, or nothing is behind two hyphens: that is of no use after the row. -/
def name (progress : Progress) (texts : List String) : Progress :=
  match progress.row with
  | .closed => { progress with hasExtra := true }
  | _ =>
      { progress with
        row := .underway
        options := { progress.options with texts := progress.options.texts ++ texts } }

/-- An option ends the row of texts. -/
def closeRow (progress : Progress) : Progress :=
  match progress.row with
  | .underway => { progress with row := .closed }
  | _ => progress

/-- An option without a value is read. -/
def setFlag (progress : Progress) : Switch → Progress
  | .noFastReject => { progress with options := { progress.options with fastReject := false } }
  | .listRules => { progress with options := { progress.options with listRules := true } }
  | _ => progress

/-- An option with a value is read. -/
def setValue (progress : Progress) (value : String) : Switch → Progress
  | .rules => { progress with options := { progress.options with rules := .file value } }
  | .model => { progress with options := { progress.options with model := value } }
  | _ => progress

end Progress

/-- Read the arguments from left to right. -/
def read (progress : Progress) : List Argument → Except Refusal Progress
  | [] => .ok progress
  | .plain text :: rest => read (progress.name [text]) rest
  | .separator :: rest => read (progress.name []) rest
  | .unknown :: rest => read { progress.closeRow with hasExtra := true } rest
  | .shortHelp letters afterEquals :: _ =>
      .error (if !afterEquals && asksForHelp letters then .help else .misuse)
  | .switch .help none :: _ => .error .help
  | .switch option (some value) :: rest =>
      if option = .rules ∨ option = .model then
        read (progress.closeRow.setValue value option) rest
      else
        .error .misuse
  | .switch option none :: rest =>
      if option = .rules ∨ option = .model then
        match rest with
        | .plain value :: rest => read (progress.closeRow.setValue value option) rest
        | _ => .error .misuse
      else
        read (progress.closeRow.setFlag option) rest

/-- The options that the arguments ask for. -/
def optionsOf (settings : Settings) (arguments : List String) : Except Refusal Options := do
  let given ← argumentsOf arguments
  let usual : Options := { rules := settings.ruleDocument, model := settings.model }
  let progress ← read { options := usual } given
  if progress.hasExtra then throw .misuse
  return progress.options

end ProseRules.Command
