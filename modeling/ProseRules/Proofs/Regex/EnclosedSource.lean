import ProseRules.Proofs.Regex.SourceDepth
import ProseRules.Regex.Expression

namespace ProseRules.Regex

/-!
# A source between parentheses

A source that is an expression of its own is read between parentheses up to the closing one, and
in the same way whatever comes after it.
-/

namespace Lexeme

/-- What comes after the source is read by itself. -/
def EndsWhole (source : List Char) : Prop :=
  ∀ rest, ofSource (source ++ rest) = ofSource source ++ ofSource rest

/--
What comes after a source is read by itself, unless a lone backslash ends the source, which then
goes with the next character.
-/
theorem endsWhole_or_dangling
    (source : List Char) :
    EndsWhole source ∨
      ∃ front,
        ofSource source = front ++ [.dangling] ∧
          ∀ c rest, ofSource (source ++ c :: rest) = front ++ .escaped c :: ofSource rest := by
  fun_induction ofSource source with
  | case1 =>
      exact .inl fun _ => rfl
  | case2 c later inductionHypothesis =>
      rcases inductionHypothesis with whole | ⟨front, isDangling, goesOn⟩
      · exact .inl fun rest => congrArg (Lexeme.escaped c :: ·) (whole rest)
      · refine .inr ⟨.escaped c :: front, congrArg (Lexeme.escaped c :: ·) isDangling, ?_⟩
        exact fun next rest => congrArg (Lexeme.escaped c :: ·) (goesOn next rest)
  | case3 =>
      exact .inr ⟨[], rfl, fun _ _ => rfl⟩
  | case4 c later notEscape notDangling inductionHypothesis =>
      have notBackslash : c ≠ '\\' := by
        rintro rfl
        cases later with
        | nil => exact notDangling rfl rfl
        | cons next rest => exact notEscape next rest rfl rfl
      have first (rest : List Char) :
          ofSource (c :: later ++ rest) = .plain c :: ofSource (later ++ rest) :=
        ofSource_cons_of_ne notBackslash _
      rcases inductionHypothesis with whole | ⟨front, isDangling, goesOn⟩
      · refine .inl fun rest => ?_
        rw [first, whole rest, ofSource_cons_of_ne notBackslash, List.cons_append]
      · refine .inr ⟨.plain c :: front, ?_, fun next rest => ?_⟩
        · rw [isDangling, List.cons_append]
        · rw [first, goesOn, List.cons_append]

end Lexeme

/-- The reading of a source from its start on. -/
def Reading.atStart (flags : Flags) (lexemes : List Lexeme) : Reading :=
  ⟨lexemes, flags, [], [], none, []⟩

namespace Expression

/-- A source is an expression if it is read up to its end and nothing is wrong with the whole. -/
theorem ofSource_eq_ok_iff
    {source : String}
    {expression : Expression} :
    ofSource source = .ok expression ↔
      Lexeme.ofSource source.toList ≠ [.dangling] ∧
        ∃ branch reading settled,
          (Parser.choice true {} (4 * (Lexeme.ofSource source.toList).length + 4)).run
              (.atStart {} (Lexeme.ofSource source.toList)) = .ok (branch, reading) ∧
            reading.rest = [] ∧
              settledFlags reading.flags = some settled ∧
                missingGroup? reading = none ∧
                  branch.1.defect? settled.template = none ∧
                    expression = ⟨source, settled, reading.widths.length, branch.1⟩ := by
  unfold ofSource
  by_cases isDangling : Lexeme.ofSource source.toList = [.dangling]
  · simp [isDangling]
    rintro ⟨⟩
  · simp only [isDangling, if_false, ne_eq, not_false_eq_true, true_and]
    change _ ↔ ∃ branch reading settled,
      (Parser.choice true {} (4 * (Lexeme.ofSource source.toList).length + 4)).run
        ⟨Lexeme.ofSource source.toList, {}, [], [], none, []⟩ = _ ∧ _
    cases (Parser.choice true {} (4 * (Lexeme.ofSource source.toList).length + 4)).run
        ⟨Lexeme.ofSource source.toList, {}, [], [], none, []⟩ with
    | error flaw =>
        simp only [reduceCtorEq, false_and, exists_false]
    | ok outcome =>
        obtain ⟨⟨tree, width⟩, reading⟩ := outcome
        simp only [Except.ok.injEq, Prod.mk.injEq]
        constructor
        · intro read
          cases settled : settledFlags reading.flags with
          | none =>
              rw [settled] at read
              cases read
          | some flags =>
              cases missing : missingGroup? reading with
              | some missed =>
                  simp only [settled, missing] at read
                  split at read <;> cases read
              | none =>
                  cases defect : tree.defect? flags.template with
                  | some defect =>
                      simp only [settled, missing, defect] at read
                      split at read <;> cases read
                  | none =>
                      simp only [settled, missing, defect] at read
                      split at read
                      · rename_i atEnd
                        exact
                          ⟨_, _, _, ⟨rfl, rfl⟩, List.isEmpty_iff.mp atEnd, settled, missing, defect,
                            (Except.ok.inj read).symm⟩
                      · cases read
        · rintro ⟨_, _, flags, ⟨rfl, rfl⟩, atEnd, settled, missing, defect, rfl⟩
          simp only [settled, missing, defect, atEnd]
          rfl

end Expression

namespace Parser

/-- Two sources of which the same part comes up to a closing parenthesis. -/
theorem alike_atStart
    (pair : SourcePair)
    (flags : Flags)
    (body : List Lexeme) :
    pair.Alike body
      (.atStart flags (body ++ .plain ')' :: pair.firstTail))
      (.atStart pair.secondFlags (body ++ .plain ')' :: pair.secondTail)) where
  firstRest := rfl
  secondRest := rfl
  flags := rfl
  names := rfl
  widths := rfl
  lookbehindGroups := rfl
  awaited := rfl

/-- A choice that stops before the parenthesis is the same whatever comes after it. -/
theorem choice_before_parenthesis
    {flags : Flags}
    {body firstTail : List Lexeme}
    {depth : Nat}
    {branch : Tree × Width}
    {later : Reading}
    (ran :
      (choice false flags depth).run (.atStart flags (body ++ .plain ')' :: firstTail)) =
        .ok (branch, later))
    (stops : later.rest = .plain ')' :: firstTail)
    (secondTail : List Lexeme)
    (depth' : Nat)
    (enough : 4 * (body.length + 1 + secondTail.length) + 2 < depth)
    (enough' : 4 * (body.length + 1 + secondTail.length) + 2 < depth') :
    ∃ later',
      (choice false flags depth').run (.atStart flags (body ++ .plain ')' :: secondTail)) =
          .ok (branch, later') ∧
        later'.rest = .plain ')' :: secondTail ∧
          later'.flags = flags ∧
            later'.widths = later.widths ∧
              later'.awaited.map Prod.fst = later.awaited.map Prod.fst := by
  let pair : SourcePair := ⟨firstTail, secondTail, flags, True⟩
  have flagsAlike : Flags.Alike pair.sameTrees flags flags := ⟨rfl, fun _ => rfl⟩
  have follows :=
    ((tracksTo pair depth).choice false flagsAlike).follows _ _ _ (alike_atStart pair flags body)
  obtain ⟨branch', later', front, ran', branchAlike, alike⟩ :=
    follows branch later ran (stops ▸ List.suffix_rfl)
  obtain rfl : branch = branch' := Prod.ext (branchAlike.tree trivial) branchAlike.width
  obtain rfl := alike.front_eq_nil stops
  have length :
      (Reading.atStart flags (body ++ .plain ')' :: secondTail)).rest.length =
        body.length + 1 + secondTail.length := by
    simp only [Reading.atStart, List.length_append, List.length_cons]
    omega
  have agree :
      (choice false flags depth).run (.atStart flags (body ++ .plain ')' :: secondTail)) =
        (choice false flags depth').run (.atStart flags (body ++ .plain ')' :: secondTail)) :=
    (depthsAgree depth depth').choice flags (length ▸ enough) (length ▸ enough')
  exact
    ⟨later', agree ▸ ran', alike.secondRest, alike.flags, alike.widths.symm, alike.awaited.symm⟩

/-- An expression of its own does not stop at a closing parenthesis inside of it. -/
theorem rest_ne_of_ofSource
    {source : String}
    {expression : Expression}
    (own : Expression.ofSource source = .ok expression)
    {front back : List Lexeme}
    (lexemes : Lexeme.ofSource source.toList = front ++ .plain ')' :: back)
    {flags : Flags}
    (notVerbose : flags.verbose = false)
    {tail : List Lexeme}
    {depth : Nat}
    (enough : 4 * (front.length + 1) + 2 < depth)
    {branch : Tree × Width}
    {later : Reading}
    (ran :
      (choice false flags depth).run (.atStart flags (front ++ .plain ')' :: tail)) =
        .ok (branch, later)) :
    later.rest ≠ .plain ')' :: tail := by
  intro stops
  obtain ⟨-, ownBranch, reading, settled, ofOwn, atEnd, -⟩ :=
    Expression.ofSource_eq_ok_iff.mp own
  rw [lexemes] at ofOwn
  generalize isDepth : 4 * (front ++ .plain ')' :: back).length + 4 = ownDepth at ofOwn
  have enoughOwn : 4 * (front.length + 1) + 2 < ownDepth := by
    rw [← isDepth, List.length_append, List.length_cons]
    omega
  -- The bound on the depth of the own source is too low for the longer one, so the part up to
  -- the parenthesis is read alone in between.
  obtain ⟨between, ofPart, stopsBetween, -⟩ :=
    choice_before_parenthesis ran stops [] ownDepth enough enoughOwn
  let pair : SourcePair := ⟨[], back, {}, False⟩
  have flagsAlike : Flags.Alike pair.sameTrees flags (if true then pair.secondFlags else {}) :=
    ⟨notVerbose, False.elim⟩
  have follows :=
    ((tracksTo pair ownDepth).choice true flagsAlike).follows _ _ _ (alike_atStart pair flags front)
  obtain ⟨_, reading', front', ofOwn', -, alike⟩ :=
    follows branch between ofPart (stopsBetween ▸ List.suffix_rfl)
  obtain ⟨-, rfl⟩ := Prod.mk.inj (Except.ok.inj (ofOwn'.symm.trans ofOwn))
  have notAtEnd := alike.secondRest
  rw [atEnd, alike.front_eq_nil stopsBetween] at notAtEnd
  cases notAtEnd

/--
Between a source and what is around it, a choice stops at the parenthesis after the source, or
at a later one.
-/
theorem stops_of_ofSource
    {source : String}
    {expression : Expression}
    (own : Expression.ofSource source = .ok expression)
    {flags : Flags}
    (notVerbose : flags.verbose = false)
    {around : List Char}
    {depth : Nat}
    (enough : 4 * (Lexeme.ofSource (source.toList ++ ')' :: around)).length + 2 < depth)
    {branch : Tree × Width}
    {later : Reading}
    (ran :
      (choice false flags depth).run
          (.atStart flags (Lexeme.ofSource (source.toList ++ ')' :: around))) =
        .ok (branch, later))
    {after : List Lexeme}
    (stops : later.rest = .plain ')' :: after) :
    (Lexeme.EndsWhole source.toList ∧ after = Lexeme.ofSource around) ∨
      .plain ')' :: after <:+ Lexeme.ofSource around := by
  obtain ⟨front, split⟩ := shortens_choice flags depth _ _ _ ran
  rw [stops] at split
  change _ = Lexeme.ofSource (source.toList ++ ')' :: around) at split
  have notInside {back : List Lexeme}
      (lexemes : Lexeme.ofSource source.toList = front ++ .plain ')' :: back) : False := by
    rw [← split] at ran enough
    refine rest_ne_of_ofSource own lexemes notVerbose ?_ ran stops
    rw [List.length_append, List.length_cons] at enough
    omega
  rcases Lexeme.endsWhole_or_dangling source.toList with whole | ⟨start, isDangling, goesOn⟩
  · rw [whole _, Lexeme.ofSource_cons_of_ne (by decide)] at split
    rcases List.append_eq_append_iff.mp split with ⟨inside, shape, rest⟩ | ⟨beyond, shape, rest⟩
    · cases inside with
      | nil =>
          exact .inl ⟨whole, (List.cons.inj rest).2⟩
      | cons first back =>
          obtain ⟨rfl, -⟩ := List.cons.inj rest
          exact (notInside shape).elim
    · cases beyond with
      | nil =>
          exact .inl ⟨whole, (List.cons.inj rest).2.symm⟩
      | cons first beyond =>
          exact .inr ⟨beyond, (List.cons.inj rest).2.symm⟩
  · rw [goesOn] at split
    rcases List.append_eq_append_iff.mp split with ⟨inside, shape, rest⟩ | ⟨beyond, shape, rest⟩
    · cases inside with
      | nil =>
          cases rest
      | cons first back =>
          obtain ⟨rfl, -⟩ := List.cons.inj rest
          rw [shape, List.append_assoc] at isDangling
          exact (notInside isDangling).elim
    · cases beyond with
      | nil =>
          cases rest
      | cons first beyond =>
          exact .inr ⟨beyond, (List.cons.inj rest).2.symm⟩

end Parser

end ProseRules.Regex
