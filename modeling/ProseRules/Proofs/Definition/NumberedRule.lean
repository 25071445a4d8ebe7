import ProseRules.Definition.Load
import ProseRules.Proofs.Outcome
import ProseRules.Proofs.Value.Fields
import ProseRules.Proofs.Yaml.PlainScalar

namespace ProseRules

/-!
# A rule whose id is a number

A document may hold one rule whose id is a number of any length, written with a leading zero at
the very end. Its rules are those of the number. What stands before the id is read by evaluation,
the digits themselves by what is known of plain scalars.
-/

/-- The entries of a document with one rule. -/
def numberedRuleEntries (id : Value) : List (Value × Value) :=
  [(.text "rules",
    .list
      [.mapping
        [(.text "message", .text "m"), (.text "pattern", .list [.text "a"]), (.text "id", id)]])]

namespace Yaml

/-- The start of a document with one rule, up to the id of the rule. -/
def beforeId : List Char :=
  "rules:\n- message: m\n  pattern: [a]\n  id: ".toList

/-- A document with one rule, which ends in the id of the rule. -/
def numberedRule (id : List Char) : List Char :=
  beforeId ++ id

/-- The lexemes before the id. -/
def lexemesBeforeId : List Lexeme :=
  [.blockMappingStart, .key, .scalar "rules" true, .value, .blockEntry, .blockMappingStart,
    .key, .scalar "message" true, .value, .scalar "m" true, .key, .scalar "pattern" true, .value,
    .flowSequenceStart, .scalar "a" true, .flowSequenceEnd, .key, .scalar "id" true, .value]

/-- The outline with the place after the sign of the last value. -/
def outlineAtId (place : Place) (lexemes : List Lexeme) : Outline where
  place := place
  lexemes := lexemes.toArray
  indent := 2
  outerIndents := [0, -1]
  mayBeKey := false

/-- The tree of the document. -/
def numberedRuleTree (id : Node) : Node :=
  .mapping .mapping
    [(.scalar .text "rules",
      .sequence .sequence
        [.mapping .mapping
          [(.scalar .text "message", .scalar .text "m"),
            (.scalar .text "pattern", .sequence .sequence [.scalar .text "a"]),
            (.scalar .text "id", id)]])]

/-- Characters that write a whole number and begin with a zero. -/
structure WritesNumber (digits : List Char) (number : Int) : Prop where
  beginsWithZero : digits.head? = some '0'
  inner : digits.all isInner = true
  allowed : digits.all isAllowed = true
  unspaced : digits.all (· ≠ '_') = true
  noFloat : isFloatForm digits = false
  isInt : isIntForm digits = true
  isNumber : (intMagnitude digits).toOption = some number

/-- A plain scalar that begins with a zero stands for a number if it has the form of one. -/
theorem Tag.ofPlain_of_writesNumber
    {digits : List Char}
    {number : Int}
    (written : WritesNumber digits number) :
    Tag.ofPlain (String.ofList digits) = .int := by
  have noWord : String.ofList digits ∉ boolWords := by
    intro member
    have noZero : ∀ word ∈ boolWords, word.toList.head? ≠ some '0' := by
      decide
    exact noZero _ member (by rw [String.toList_ofList, written.beginsWithZero])
  simp [Tag.ofPlain, noWord, written.noFloat, written.isInt]

theorem intOf_of_writesNumber
    {digits : List Char}
    {number : Int}
    (written : WritesNumber digits number) :
    intOf (String.ofList digits) = .ok number := by
  obtain ⟨word, rfl⟩ := List.head?_eq_some_iff.mp written.beginsWithZero
  have unspaced : ('0' :: word).filter (· ≠ '_') = '0' :: word :=
    List.filter_eq_self.mpr (List.all_eq_true.mp written.unspaced)
  unfold intOf
  rw [String.toList_ofList, unspaced]
  change intMagnitude ('0' :: word) >>= _ = _
  rw [Outcome.eq_ok_of_toOption written.isNumber]
  rfl

/-! ## Numbers of any length -/

/-- The digits of a power of 16 to the base of 16. -/
def hexPower (exponent : Nat) : List Char :=
  '0' :: 'x' :: '1' :: List.replicate exponent '0'

/-- A power of 16. -/
def powerOf16 (exponent : Nat) : Int :=
  Int.ofNat (Nat.pow 16 exponent)

theorem all_hexPower
    {holds : Char → Bool}
    (zero : holds '0' = true)
    (mark : holds 'x' = true)
    (one : holds '1' = true)
    (exponent : Nat) :
    (hexPower exponent).all holds = true := by
  simp [hexPower, zero, mark, one]

theorem positional_one_replicate
    (base exponent : Nat) :
    Text.positional base (1 :: List.replicate exponent 0) = Nat.pow base exponent := by
  induction exponent with
  | zero =>
      simp [Text.positional]
  | succ exponent inductionHypothesis =>
      rw [List.replicate_succ', ← List.cons_append]
      unfold Text.positional at inductionHypothesis ⊢
      rw [List.foldl_append, inductionHypothesis]
      exact Nat.mul_comm _ _

theorem basedNumber_hexPower
    (exponent : Nat) :
    basedNumber 16 ('1' :: List.replicate exponent '0') = .ok (powerOf16 exponent) := by
  have noBlanks :
      Text.dropBlanksAround ('1' :: List.replicate exponent '0') =
        '1' :: List.replicate exponent '0' := by
    have noBlank : Text.isBlank '0' = false ∧ Text.isBlank '1' = false := by decide
    cases exponent with
    | zero =>
        decide
    | succ exponent =>
        simp [Text.dropBlanksAround, Text.dropBlanksAtEnd, noBlank, List.replicate_succ']
  have digits :
      ('1' :: List.replicate exponent '0').filterMap Text.hexValue? =
        1 :: List.replicate exponent 0 := by
    have one : Text.hexValue? '1' = some 1 := by decide
    have zero : Text.hexValue? '0' = some 0 := by decide
    rw [List.filterMap_cons_some one, List.filterMap_replicate_of_some zero]
  simp [basedNumber, noBlanks, Text.takeSign, withoutBaseMark, digits, positional_one_replicate,
    Real64.signed, powerOf16]

/-- A power of 16 is written with these digits. -/
theorem writesNumber_hexPower
    (exponent : Nat) :
    WritesNumber (hexPower exponent) (powerOf16 exponent) where
  beginsWithZero := rfl
  inner := all_hexPower (by decide) (by decide) (by decide) exponent
  allowed := all_hexPower (by decide) (by decide) (by decide) exponent
  unspaced := all_hexPower (by decide) (by decide) (by decide) exponent
  noFloat := by
    have noPoint : (hexPower exponent).dropWhile (· ≠ '.') = [] := by
      simp [hexPower]
    simp [isFloatForm, afterSign, hexPower] at noPoint ⊢
  isInt := by
    have areDigits : (Text.hexValue? '1').isSome ∧ (Text.hexValue? '0').isSome := by decide
    simp [isIntForm, afterSign, hexPower, isSomeOf, areDigits]
  isNumber := by
    change (basedNumber 16 ('1' :: List.replicate exponent '0')).toOption = _
    rw [basedNumber_hexPower]
    rfl

/-! ## The document of a number -/

section Reading

variable {digits : List Char} {number : Int}

theorem length_numberedRule :
    (numberedRule digits).length = 41 + digits.length := by
  have isLength : beforeId.length = 41 := by decide
  rw [numberedRule, List.length_append, isLength]

/--
The steps through the document lead to its id. What is left of the document is compared on its
own, as a comparison that stops at the first difference does not recurse along it.
-/
def leadsToId (digits : List Char) : Bool :=
  match Tracing.steps 13 { place := ⟨numberedRule digits, 0, 0, 0⟩ } with
  | .ok outline =>
      outline.place.rest == ' ' :: digits &&
        { outline with place := { outline.place with rest := [] } } ==
          outlineAtId ⟨[], 40, 3, 5⟩ lexemesBeforeId
  | .error _ => false

theorem steps_of_leadsToId
    (leads : leadsToId digits = true) :
    Tracing.steps 13 { place := ⟨numberedRule digits, 0, 0, 0⟩ } =
      .ok (outlineAtId ⟨' ' :: digits, 40, 3, 5⟩ lexemesBeforeId) := by
  unfold leadsToId at leads
  split at leads
  next outline taken =>
    rw [Bool.and_eq_true] at leads
    have isRest := eq_of_beq leads.1
    have isOutline := eq_of_beq leads.2
    rw [taken]
    obtain ⟨⟨rest, index, line, column⟩, lexemes, flowDepth, indent, outerIndents, mayBeKey,
      keys⟩ := outline
    cases isRest
    cases isOutline
    rfl
  next => cases leads

/-- The number is one lexeme, and the blocks around it end with it. -/
theorem lexemesOf_numberedRule
    (written : WritesNumber digits number)
    (leads : leadsToId digits = true) :
    lexemesOf (numberedRule digits) =
      .ok (lexemesBeforeId ++
        [.scalar (String.ofList digits) true, .blockEnd, .blockEnd, .streamEnd]) := by
  obtain ⟨word, rfl⟩ := List.head?_eq_some_iff.mp written.beginsWithZero
  let scalar := Lexeme.scalar (String.ofList ('0' :: word)) true
  let place : Place := ⟨[], 41 + (word.length + 1), 3, 6 + (word.length + 1)⟩
  have toWord :
      Tracing.step.run (outlineAtId ⟨' ' :: '0' :: word, 40, 3, 5⟩ lexemesBeforeId) =
        .ok (true, outlineAtId place (lexemesBeforeId ++ [scalar])) := by
    have isRead := readPlain_of_inner written.inner (by decide) 2 41 3 6
    have skipped :
        (Tracing.skipSpace (' ' :: '0' :: word).length.succ).run
            (outlineAtId ⟨' ' :: '0' :: word, 40, 3, 5⟩ lexemesBeforeId) =
          .ok ((), outlineAtId ⟨'0' :: word, 41, 3, 6⟩ lexemesBeforeId) :=
      rfl
    exact Tracing.step_zero skipped rfl rfl (Int.le_of_lt (by decide : (2 : Int) < 6)) rfl
      (Tracing.run_takePlain rfl isRead)
  have left :
      Tracing.leaveBlocks.run (outlineAtId place (lexemesBeforeId ++ [scalar])) =
        .ok ((),
          { outlineAtId place (lexemesBeforeId ++ [scalar, .blockEnd, .blockEnd]) with
            indent := -1
            outerIndents := [] }) := by
    rfl
  have within : (2 : Int) ≤ (6 + (word.length + 1) : Nat) := by
    omega
  have allowed : (numberedRule ('0' :: word)).all isAllowed = true := by
    have allowedBefore : beforeId.all isAllowed = true := by decide
    simp only [numberedRule, List.all_append, allowedBefore, written.allowed, Bool.and_self]
  have enough : 13 + 1 ≤ (numberedRule ('0' :: word)).length := by
    rw [length_numberedRule]
    omega
  have unmarked : (numberedRule ('0' :: word)).headD '\x00' ≠ '\ufeff' := by
    have first : (numberedRule ('0' :: word)).headD '\x00' = 'r' := rfl
    rw [first]
    decide
  have taken := Tracing.steps_succ (steps_of_leadsToId leads) toWord
  exact lexemesOf_of_steps allowed unmarked enough taken
    (Tracing.step_end rfl rfl rfl within left)

/-- The root of a document whose lexemes can be read without a loop. -/
theorem rootOf_of_lexemes
    {document : List Char}
    {lexemes : List Lexeme}
    {root : Option Node}
    {after : Reading}
    (areLexemes : lexemesOf document = .ok lexemes)
    (isRoot :
      (NodeReader.root (lexemes.length + 1) (4 * lexemes.length + 8)).run
          { rest := lexemes, handles := usualHandles } =
        .ok (root, after))
    (noLoop : after.hasLoop = false) :
    rootOf document = .ok root := by
  unfold rootOf
  rw [areLexemes]
  change (NodeReader.root _ _).run _ >>= _ = _
  rw [isRoot]
  change (if after.hasLoop then _ else _) = _
  rw [noLoop]
  rfl

/-- The tree of the document has a number in the place of the id. -/
theorem rootOf_numberedRule
    (written : WritesNumber digits number)
    (leads : leadsToId digits = true) :
    rootOf (numberedRule digits) =
      .ok (some (numberedRuleTree (.scalar .int (String.ofList digits)))) := by
  have isRoot :
      (NodeReader.root 24 100).run
          { rest :=
              lexemesBeforeId ++
                [.scalar (String.ofList digits) true, .blockEnd, .blockEnd, .streamEnd]
            handles := usualHandles } =
        .ok (some (numberedRuleTree
            (.scalar (Tag.ofPlain (String.ofList digits)) (String.ofList digits))),
          { rest := [], handles := usualHandles }) :=
    rfl
  rw [Tag.ofPlain_of_writesNumber written] at isRoot
  exact rootOf_of_lexemes (lexemesOf_numberedRule written leads) isRoot rfl

theorem value_numberedRuleTree
    (isNumber : intOf (String.ofList digits) = .ok number)
    (depth : Nat) :
    (numberedRuleTree (.scalar .int (String.ofList digits))).value (depth + 5) =
      .ok (.mapping (numberedRuleEntries (.int number))) := by
  simp [numberedRuleTree, numberedRuleEntries, Node.value, Node.tag, Node.requireEntries,
    Node.requireElements, Node.flattened, Node.mergesOf, bind, Except.bind, pure, Except.pure,
    Node.plainKey, Node.requireText, Node.text?, Value.insert, Value.isKey, isNumber]

/-- The value of the document. -/
theorem read_numberedRule
    (written : WritesNumber digits number)
    (leads : leadsToId digits = true) :
    read (String.ofList (numberedRule digits)) =
      .ok (.mapping (numberedRuleEntries (.int number))) := by
  obtain ⟨depth, isDepth⟩ : ∃ depth, Node.depthBound (numberedRule digits) = depth + 5 :=
    ⟨2 * digits.length + 79, by rw [Node.depthBound, length_numberedRule]; omega⟩
  unfold read
  simp only [String.toList_ofList, rootOf_numberedRule written leads, isDepth]
  exact value_numberedRuleTree (intOf_of_writesNumber written) depth

end Reading

end Yaml

/-- The rules of the document are those of its entries. -/
theorem rulesOfText_numberedRule
    {digits : List Char}
    {number : Int}
    (written : Yaml.WritesNumber digits number)
    (leads : Yaml.leadsToId digits = true)
    (source language : String) :
    rulesOfText source language (String.ofList (Yaml.numberedRule digits)) =
      rulesOfEntries source language (numberedRuleEntries (.int number)) := by
  unfold rulesOfText
  rw [Yaml.read_numberedRule written leads]

end ProseRules
