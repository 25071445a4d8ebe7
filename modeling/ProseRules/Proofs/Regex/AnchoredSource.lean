import ProseRules.Proofs.Regex.EnclosedSource
import ProseRules.Proofs.Regex.NegatedSource
import ProseRules.Token.Spec

namespace ProseRules.Regex

/-!
# The sources for the whole of a text and for other texts

The sources `^(?:…)$` and `^(?!(?:…)$)` around the same expression, with or without `(?i)` before
them, have the same tree inside: one asks for it up to the end of the text, the other one refuses
it there. If the expression can be read on its own, either source can be read if the other can.
-/

/-- Two characters are no lone backslash. -/
theorem Lexeme.ofSource_ne_dangling
    {source : List Char}
    (several : 2 ≤ source.length) :
    Lexeme.ofSource source ≠ [.dangling] := by
  intro isDangling
  have characters := Lexeme.flatMap_characters_ofSource source
  rw [isDangling] at characters
  rw [← characters] at several
  exact absurd several (by decide)

namespace Expression

/-- The awaited groups of a reading exist. -/
theorem missingGroup?_eq_none_iff
    {reading : Reading} :
    missingGroup? reading = none ↔
      ∀ group ∈ reading.awaited.map Prod.fst, group < reading.groupCount := by
  simp only [missingGroup?, List.find?_eq_none, List.mem_map]
  constructor
  · rintro exists_ group ⟨awaited, member, rfl⟩
    simpa using exists_ awaited member
  · intro exists_ awaited member
    simpa using exists_ awaited.1 ⟨awaited, member, rfl⟩

end Expression

namespace Parser

/-- Between parentheses the lexemes are read as a tree, whatever comes after them. -/
structure Encloses (flags : Flags) (body : List Lexeme) (inner : Tree) : Prop where
  noDefect : inner.defect? false = none
  reads (tail : List Lexeme) (depth : Nat) :
    4 * (body.length + 1 + tail.length) + 2 < depth →
      ∃ width later,
        (choice false flags depth).run (.atStart flags (body ++ .plain ')' :: tail)) =
            .ok ((inner, width), later) ∧
          later.rest = .plain ')' :: tail ∧
            later.flags = flags ∧ Expression.missingGroup? later = none

/-- What is read once between parentheses is always read in the same way. -/
theorem encloses_of_run
    {flags : Flags}
    {body tail : List Lexeme}
    {depth : Nat}
    {branch : Tree × Width}
    {later : Reading}
    (ran :
      (choice false flags depth).run (.atStart flags (body ++ .plain ')' :: tail)) =
        .ok (branch, later))
    (stops : later.rest = .plain ')' :: tail)
    (enough : 4 * (body.length + 1 + tail.length) + 2 < depth)
    (noneMissing : Expression.missingGroup? later = none)
    (noDefect : branch.1.defect? false = none) :
    Encloses flags body branch.1 where
  noDefect := noDefect
  reads secondTail depth' enough' := by
    -- The first depth need not be enough for the second tail, so a depth that is enough for both
    -- is taken in between.
    have length :
        (Reading.atStart flags (body ++ .plain ')' :: tail)).rest.length =
          body.length + 1 + tail.length := by
      simp only [Reading.atStart, List.length_append, List.length_cons]
      omega
    have agree :
        (choice false flags depth).run (.atStart flags (body ++ .plain ')' :: tail)) =
          (choice false flags (depth + depth')).run
            (.atStart flags (body ++ .plain ')' :: tail)) :=
      (depthsAgree depth (depth + depth')).choice flags (by omega) (by omega)
    obtain ⟨later', ran', stops', sameFlags, widths, awaited⟩ :=
      choice_before_parenthesis (agree ▸ ran) stops secondTail depth' (by omega) enough'
    refine ⟨branch.2, later', ran', stops', sameFlags, ?_⟩
    rw [Expression.missingGroup?_eq_none_iff] at noneMissing ⊢
    rwa [awaited, Reading.groupCount, widths]

/-- The end of a group is a closing parenthesis. -/
theorem run_endGroup_eq_ok_iff
    {start : Nat}
    {reading later : Reading} :
    (endGroup start).run reading = .ok ((), later) ↔
      ∃ after,
        reading.rest = .plain ')' :: after ∧
          after ≠ [.dangling] ∧ later = { reading with rest := after } := by
  constructor
  · intro ran
    obtain ⟨closes, between, accepted, ended⟩ := run_bind_eq_ok_iff.mp ran
    cases closes with
    | false =>
        cases ended
    | true =>
        obtain ⟨-, rfl⟩ := Prod.mk.inj (Except.ok.inj ended)
        exact rest_of_accept accepted
  · rintro ⟨after, stops, noDangling, rfl⟩
    exact run_bind_of_ok (run_accept_of_eq stops noDangling)

/-- The inside of a group and its end, before something else comes. -/
theorem run_choice_endGroup_eq_ok_iff
    {α : Type}
    {flags : Flags}
    {depth start : Nat}
    {next : Tree × Width → Parser α}
    {reading : Reading}
    {outcome : α × Reading} :
    (do
      let inner ← choice false flags depth
      endGroup start
      next inner).run reading = .ok outcome ↔
      ∃ inner between after,
        (choice false flags depth).run reading = .ok (inner, between) ∧
          between.rest = .plain ')' :: after ∧
            after ≠ [.dangling] ∧
              (next inner).run { between with rest := after } = .ok outcome := by
  constructor
  · intro ran
    obtain ⟨inner, between, ofInner, ran⟩ := run_bind_eq_ok_iff.mp ran
    obtain ⟨_, later, ended, ran⟩ := run_bind_eq_ok_iff.mp ran
    obtain ⟨after, stops, noDangling, rfl⟩ := run_endGroup_eq_ok_iff.mp ended
    exact ⟨inner, between, after, ofInner, stops, noDangling, ran⟩
  · rintro ⟨inner, between, after, ofInner, stops, noDangling, ran⟩
    have ended : (endGroup start).run between = .ok ((), { between with rest := after }) :=
      run_endGroup_eq_ok_iff.mpr ⟨after, stops, noDangling, rfl⟩
    exact
      run_bind_eq_ok_iff.mpr
        ⟨inner, between, ofInner, run_bind_eq_ok_iff.mpr ⟨(), _, ended, ran⟩⟩

variable {flags : Flags} {mayBeGlobal : Bool} {pieces : List Piece} {depth : Nat}
  {reading : Reading} {body : List Lexeme} {outcome : (Tree × Width) × Reading}

/-- A group in a sequence is its inside, the closing parenthesis and what comes then. -/
theorem run_sequence_group_eq_ok_iff
    {c : Char}
    {kind : Opening}
    {piece : Tree × Width → Piece}
    (isOpening : IsOpenedBy c kind piece)
    (notVerbose : flags.verbose = false)
    (next : reading.rest = .plain '(' :: .plain '?' :: .plain c :: body)
    (noDangling : body ≠ [.dangling]) :
    (sequence mayBeGlobal flags pieces (depth + 1 + 1)).run reading = .ok outcome ↔
      ∃ inner between after,
        (choice false flags depth).run { reading with rest := body } = .ok (inner, between) ∧
          between.rest = .plain ')' :: after ∧
            after ≠ [.dangling] ∧
              (sequence mayBeGlobal flags (piece inner :: pieces) (depth + 1)).run
                { between with rest := after } = .ok outcome := by
  obtain ⟨start, ran⟩ := run_sequence_group isOpening notVerbose next noDangling
  rw [ran]
  exact run_choice_endGroup_eq_ok_iff

/-- A choice begins with a sequence, and is that sequence if no other branch follows. -/
theorem exists_sequence_of_choice
    {outermost : Bool}
    {branch : Tree × Width}
    {later : Reading}
    (ran : (choice outermost flags (depth + 1 + 1)).run reading = .ok (branch, later)) :
    ∃ first between,
      (sequence outermost (if outermost then reading.flags else flags) [] depth).run reading =
          .ok (first, between) ∧
        (between.rest.head? ≠ some (.plain '|') → branch = first ∧ later = between) := by
  rw [choice] at ran
  obtain ⟨branches, _, ofBranches, -⟩ := run_bind_eq_ok_iff.mp ran
  rw [branchesFrom, run_bind_of_ok rfl, Bool.and_true] at ofBranches
  obtain ⟨first, between, ofFirst, -⟩ := run_bind_eq_ok_iff.mp ofBranches
  refine ⟨first, between, ofFirst, fun noOther => ?_⟩
  have single := run_choice_of_sequence ofFirst noOther
  rw [choice] at single
  exact Prod.mk.inj (Except.ok.inj (ran.symm.trans single))

end Parser

/-- The flags of the sources for whole texts. -/
def caseFlags (caseSensitive : Bool) : Flags :=
  { ignoreCase := !caseSensitive }

/-- The lexemes that set these flags. -/
def casePrefix (caseSensitive : Bool) : List Lexeme :=
  if caseSensitive then [] else [.plain '(', .plain '?', .plain 'i', .plain ')']

theorem caseFlags_ordinary
    (caseSensitive : Bool) :
    Parser.IsOrdinary (caseFlags caseSensitive) :=
  ⟨rfl, rfl⟩

namespace Parser

/-- Two lexemes are no lone backslash. -/
theorem ne_dangling
    {lexemes : List Lexeme}
    (several : 2 ≤ lexemes.length) :
    lexemes ≠ [.dangling] := by
  rintro rfl
  exact absurd several (by simp)

/-- After the prefix the flags are set, and the depth is still enough for the rest. -/
theorem exists_depth_after_prefix
    (caseSensitive : Bool)
    (rest : List Lexeme)
    (noDangling : rest ≠ [.dangling]) :
    ∃ depth,
      4 * rest.length + 2 ≤ depth ∧
        (sequence true {} [] (4 * (casePrefix caseSensitive ++ rest).length + 2)).run
            (.atStart {} (casePrefix caseSensitive ++ rest)) =
          (sequence true (caseFlags caseSensitive) [] depth).run
            (.atStart (caseFlags caseSensitive) rest) := by
  cases caseSensitive with
  | true =>
      exact ⟨_, Nat.le_refl _, rfl⟩
  | false =>
      refine ⟨4 * rest.length + 17, by omega, ?_⟩
      have length : 4 * (casePrefix false ++ rest).length + 2 = 4 * rest.length + 17 + 1 := by
        change 4 * (rest.length + 1 + 1 + 1 + 1) + 2 = _
        omega
      rw [length]
      exact run_sequence_ignoreCase ⟨rfl, rfl⟩ rfl noDangling

end Parser

namespace Expression

variable {source : String} {caseSensitive : Bool} {rest : List Lexeme}

/-- A source whose sequence is read up to its end is an expression. -/
theorem ofSource_of_sequence
    (lexemes : Lexeme.ofSource source.toList = casePrefix caseSensitive ++ rest)
    (several : 2 ≤ rest.length)
    {branch : Tree × Width}
    {reading : Reading}
    (ran :
      (Parser.sequence true {} [] (4 * (casePrefix caseSensitive ++ rest).length + 2)).run
          (.atStart {} (casePrefix caseSensitive ++ rest)) =
        .ok (branch, reading))
    (atEnd : reading.rest = [])
    (sameFlags : reading.flags = caseFlags caseSensitive)
    (noneMissing : missingGroup? reading = none)
    (noDefect : branch.1.defect? false = none) :
    ∃ expression, ofSource source = .ok expression ∧ expression.tree = branch.1 := by
  have settled :
      settledFlags reading.flags = some { caseFlags caseSensitive with allScripts := true } := by
    rw [sameFlags]
    rfl
  have parsed :
      (Parser.choice true {} (4 * (casePrefix caseSensitive ++ rest).length + 4)).run
          (.atStart {} (casePrefix caseSensitive ++ rest)) =
        .ok (branch, reading) :=
    Parser.run_choice_of_sequence ran (by simp [atEnd])
  have noDangling : casePrefix caseSensitive ++ rest ≠ [.dangling] :=
    Parser.ne_dangling (by rw [List.length_append]; omega)
  rw [← lexemes] at noDangling parsed
  exact
    ⟨_, ofSource_eq_ok_iff.mpr
      ⟨noDangling, branch, reading, _, parsed, atEnd, settled, noneMissing, noDefect, rfl⟩, rfl⟩

/-- The sequence of a source that is an expression. -/
theorem sequence_of_ofSource
    (lexemes : Lexeme.ofSource source.toList = casePrefix caseSensitive ++ rest)
    {expression : Expression}
    (read : ofSource source = .ok expression) :
    ∃ branch reading,
      (Parser.sequence true {} [] (4 * (casePrefix caseSensitive ++ rest).length + 2)).run
            (.atStart {} (casePrefix caseSensitive ++ rest)) =
          .ok (branch, reading) ∧
        (reading.rest.head? ≠ some (.plain '|') →
          missingGroup? reading = none ∧
            ∃ settled,
              settledFlags reading.flags = some settled ∧
                branch.1.defect? settled.template = none) := by
  obtain ⟨-, _, _, settled, parsed, -, isSettled, noneMissing, noDefect, -⟩ :=
    ofSource_eq_ok_iff.mp read
  rw [lexemes] at parsed
  obtain ⟨branch, reading, ran, noOther⟩ := Parser.exists_sequence_of_choice parsed
  refine ⟨branch, reading, ran, fun ends => ?_⟩
  obtain ⟨rfl, rfl⟩ := noOther ends
  exact ⟨noneMissing, settled, isSettled, noDefect⟩

end Expression

/-- Nothing else than the body can be wrong with a whole text. -/
theorem Tree.defect?_whole
    (template : Bool)
    (body : Tree) :
    (Tree.whole body).defect? template = body.defect? template := by
  simp [Tree.whole, Tree.all, Tree.defect?]

theorem Tree.defect?_notWhole
    (template : Bool)
    (body : Tree) :
    (Tree.notWhole body).defect? template = body.defect? template := by
  simp [Tree.notWhole, Tree.all, Tree.defect?]

namespace Parser

variable {flags : Flags} {depth : Nat} {body : List Lexeme} {outcome : (Tree × Width) × Reading}

/-- The sequence of a source with a group at the start of the text. -/
theorem run_sequence_anchored_eq_ok_iff
    {c : Char}
    {kind : Opening}
    {piece : Tree × Width → Piece}
    (isOpening : IsOpenedBy c kind piece)
    (ordinary : IsOrdinary flags)
    (noDangling : body ≠ [.dangling]) :
    (sequence true flags [] (depth + 1 + 1 + 1)).run
          (.atStart flags (.plain '^' :: .plain '(' :: .plain '?' :: .plain c :: body)) =
        .ok outcome ↔
      ∃ inner between after,
        (choice false flags depth).run (.atStart flags body) = .ok (inner, between) ∧
          between.rest = .plain ')' :: after ∧
            after ≠ [.dangling] ∧
              (sequence true flags [piece inner, anchorPiece .textStart] (depth + 1)).run
                { between with rest := after } = .ok outcome := by
  rw [run_sequence_anchor .textStart ordinary rfl (by simp)]
  exact run_sequence_group_eq_ok_iff isOpening ordinary.notVerbose rfl noDangling

end Parser

namespace Expression

variable {body : String} {caseSensitive : Bool}

/-- The lexemes of the source for a whole text. -/
theorem lexemes_wholeExpression
    (body : String)
    (caseSensitive : Bool) :
    Lexeme.ofSource (Token.wholeExpression body false caseSensitive).toList =
      casePrefix caseSensitive ++
        .plain '^' :: .plain '(' :: .plain '?' :: .plain ':' ::
          Lexeme.ofSource (body.toList ++ ')' :: ['$']) := by
  have shape :
      (Token.wholeExpression body false caseSensitive).toList =
        (if caseSensitive then [] else ['(', '?', 'i', ')']) ++
          '^' :: '(' :: '?' :: ':' :: (body.toList ++ ')' :: ['$']) := by
    cases caseSensitive <;> simp [Token.wholeExpression]
  rw [shape]
  cases caseSensitive <;> simp [casePrefix, Lexeme.ofSource_cons_of_ne]

theorem lexemes_wholeExpression_negated
    (body : String)
    (caseSensitive : Bool) :
    Lexeme.ofSource (Token.wholeExpression body true caseSensitive).toList =
      casePrefix caseSensitive ++
        .plain '^' :: .plain '(' :: .plain '?' :: .plain '!' ::
          .plain '(' :: .plain '?' :: .plain ':' ::
            Lexeme.ofSource (body.toList ++ ')' :: ['$', ')']) := by
  have shape :
      (Token.wholeExpression body true caseSensitive).toList =
        (if caseSensitive then [] else ['(', '?', 'i', ')']) ++
          '^' :: '(' :: '?' :: '!' :: '(' :: '?' :: ':' ::
            (body.toList ++ ')' :: ['$', ')']) := by
    cases caseSensitive <;> simp [Token.wholeExpression]
  rw [shape]
  cases caseSensitive <;> simp [casePrefix, Lexeme.ofSource_cons_of_ne]

section

variable
  (whole : Lexeme.EndsWhole body.toList)
  {inner : Tree}
  (encloses : Parser.Encloses (caseFlags caseSensitive) (Lexeme.ofSource body.toList) inner)

include whole encloses

/-- The source around an enclosed body asks for it up to the end of the text. -/
theorem ofSource_wholeExpression_of_encloses :
    ∃ expression,
      ofSource (Token.wholeExpression body false caseSensitive) = .ok expression ∧
        expression.tree = .whole inner := by
  have lexemes := lexemes_wholeExpression body caseSensitive
  have around : Lexeme.ofSource (')' :: ['$']) = .plain ')' :: [.plain '$'] := rfl
  rw [whole _, around] at lexemes
  obtain ⟨depth, enough, same⟩ :=
    Parser.exists_depth_after_prefix caseSensitive
      (.plain '^' :: .plain '(' :: .plain '?' :: .plain ':' ::
        (Lexeme.ofSource body.toList ++ .plain ')' :: [.plain '$'])) (by simp)
  simp only [List.length_append, List.length_cons, List.length_nil] at enough
  obtain ⟨depth, rfl⟩ : ∃ lower, depth = lower + 1 + 1 + 1 + 1 := ⟨depth - 4, by omega⟩
  obtain ⟨width, later, ran, stops, sameFlags, noneMissing⟩ :=
    encloses.reads [.plain '$'] (depth + 1) (by
      simp only [List.length_cons, List.length_nil]
      omega)
  have ordinary := caseFlags_ordinary caseSensitive
  have read :=
    (Parser.run_sequence_anchored_eq_ok_iff .enclosing ordinary (Parser.ne_dangling (by simp))).mpr
      ⟨_, later, [.plain '$'], ran, stops, by simp,
        (Parser.run_sequence_anchor .lastLineEnd ordinary rfl (by simp)).trans
          (Parser.run_sequence_end (.inl rfl))⟩
  exact
    ofSource_of_sequence lexemes (by simp) (same.trans read) rfl sameFlags noneMissing
      ((Tree.defect?_whole _ _).trans encloses.noDefect)

/-- The source for other texts refuses it there. -/
theorem ofSource_wholeExpression_negated_of_encloses :
    ∃ expression,
      ofSource (Token.wholeExpression body true caseSensitive) = .ok expression ∧
        expression.tree = .notWhole inner := by
  have lexemes := lexemes_wholeExpression_negated body caseSensitive
  have around :
      Lexeme.ofSource (')' :: ['$', ')']) = .plain ')' :: [.plain '$', .plain ')'] :=
    rfl
  rw [whole _, around] at lexemes
  obtain ⟨depth, enough, same⟩ :=
    Parser.exists_depth_after_prefix caseSensitive
      (.plain '^' :: .plain '(' :: .plain '?' :: .plain '!' ::
        .plain '(' :: .plain '?' :: .plain ':' ::
          (Lexeme.ofSource body.toList ++ .plain ')' :: [.plain '$', .plain ')'])) (by simp)
  simp only [List.length_append, List.length_cons, List.length_nil] at enough
  obtain ⟨depth, rfl⟩ : ∃ lower, depth = lower + 1 + 1 + 1 + 1 + 1 + 1 + 1 + 1 :=
    ⟨depth - 8, by omega⟩
  obtain ⟨width, later, ran, stops, sameFlags, noneMissing⟩ :=
    encloses.reads [.plain '$', .plain ')'] (depth + 1) (by
      simp only [List.length_cons, List.length_nil]
      omega)
  have ordinary := caseFlags_ordinary caseSensitive
  have inside :
      (Parser.sequence false (caseFlags caseSensitive) [] (depth + 1 + 1 + 1)).run
          (.atStart (caseFlags caseSensitive)
            (.plain '(' :: .plain '?' :: .plain ':' ::
              (Lexeme.ofSource body.toList ++ .plain ')' :: [.plain '$', .plain ')']))) =
        .ok (Parser.sequenceOf [Parser.anchorPiece .lastLineEnd, ⟨inner, width, .other⟩],
          { later with rest := [.plain ')'] }) :=
    (Parser.run_sequence_group_eq_ok_iff .enclosing ordinary.notVerbose rfl
      (Parser.ne_dangling (by simp))).mpr
      ⟨_, later, [.plain '$', .plain ')'], ran, stops, by simp,
        (Parser.run_sequence_anchor .lastLineEnd ordinary rfl (by simp)).trans
          (Parser.run_sequence_end (.inr rfl))⟩
  have read :=
    (Parser.run_sequence_anchored_eq_ok_iff .notAhead ordinary (by simp)).mpr
      ⟨_, _, [], Parser.run_choice_of_sequence inside (by simp), rfl, by simp,
        Parser.run_sequence_end (.inl rfl)⟩
  exact
    ofSource_of_sequence lexemes (by simp) (same.trans read) rfl sameFlags
      noneMissing ((Tree.defect?_notWhole _ _).trans encloses.noDefect)

end

/-- A body that was read under the flags of a whole expression is enclosed. -/
theorem encloses_of_settled
    (whole : Lexeme.EndsWhole body.toList)
    {around : List Char}
    {depth : Nat}
    {inner : Tree × Width}
    {later : Reading}
    (ran :
      (Parser.choice false (caseFlags caseSensitive) depth).run
          (.atStart (caseFlags caseSensitive)
            (Lexeme.ofSource (body.toList ++ ')' :: around))) =
        .ok (inner, later))
    (stops : later.rest = .plain ')' :: Lexeme.ofSource around)
    (enough : 4 * (Lexeme.ofSource (body.toList ++ ')' :: around)).length + 2 < depth)
    (noneMissing : missingGroup? later = none)
    {settled : Flags}
    (isSettled : settledFlags later.flags = some settled)
    (noDefect : inner.1.defect? settled.template = none) :
    Parser.Encloses (caseFlags caseSensitive) (Lexeme.ofSource body.toList) inner.1 := by
  rw [whole _, Lexeme.ofSource_cons_of_ne (by decide)] at ran enough
  rw [List.length_append, List.length_cons] at enough
  obtain ⟨later', ran', -, sameFlags, -⟩ :=
    Parser.choice_before_parenthesis ran stops (Lexeme.ofSource around) depth (by omega) (by omega)
  obtain ⟨-, rfl⟩ := Prod.mk.inj (Except.ok.inj (ran'.symm.trans ran))
  rw [sameFlags] at isSettled
  obtain rfl : { caseFlags caseSensitive with allScripts := true } = settled :=
    Option.some.inj isSettled
  exact Parser.encloses_of_run ran stops (by omega) noneMissing noDefect

/-- An expression of its own is enclosed if the source for a whole text is an expression. -/
theorem encloses_of_wholeExpression
    {own expression : Expression}
    (isOwn : ofSource body = .ok own)
    (read : ofSource (Token.wholeExpression body false caseSensitive) = .ok expression) :
    Lexeme.EndsWhole body.toList ∧
      ∃ inner,
        Parser.Encloses (caseFlags caseSensitive) (Lexeme.ofSource body.toList) inner := by
  have ordinary := caseFlags_ordinary caseSensitive
  obtain ⟨branch, reading, ran, ends⟩ :=
    sequence_of_ofSource (lexemes_wholeExpression body caseSensitive) read
  obtain ⟨depth, enough, same⟩ :=
    Parser.exists_depth_after_prefix caseSensitive
      (.plain '^' :: .plain '(' :: .plain '?' :: .plain ':' ::
        Lexeme.ofSource (body.toList ++ ')' :: ['$'])) (by simp)
  simp only [List.length_cons] at enough
  obtain ⟨depth, rfl⟩ : ∃ lower, depth = lower + 1 + 1 + 1 + 1 := ⟨depth - 4, by omega⟩
  rw [same, Parser.run_sequence_anchored_eq_ok_iff .enclosing ordinary
    (Lexeme.ofSource_ne_dangling (by simp))] at ran
  obtain ⟨inner, between, after, ofInner, stops, -, ran⟩ := ran
  rcases Parser.stops_of_ofSource isOwn ordinary.notVerbose (by omega) ofInner stops with
    ⟨whole, rfl⟩ | beyond
  · have around : Lexeme.ofSource ['$'] = [.plain '$'] := rfl
    rw [around, Parser.run_sequence_anchor .lastLineEnd ordinary rfl (by simp),
      Parser.run_sequence_end (.inl rfl)] at ran
    obtain ⟨rfl, rfl⟩ := Prod.mk.inj (Except.ok.inj ran)
    obtain ⟨noneMissing, settled, isSettled, noDefect⟩ := ends (by simp)
    have bodyNoDefect := (Tree.defect?_whole _ _).symm.trans noDefect
    exact
      ⟨whole, inner.1,
        encloses_of_settled whole ofInner stops (by omega) noneMissing isSettled bodyNoDefect⟩
  · change _ <:+ [Lexeme.plain '$'] at beyond
    simp [List.suffix_cons_iff] at beyond

/-- The same holds if the source for other texts is an expression. -/
theorem encloses_of_negated_wholeExpression
    {own expression : Expression}
    (isOwn : ofSource body = .ok own)
    (read : ofSource (Token.wholeExpression body true caseSensitive) = .ok expression) :
    Lexeme.EndsWhole body.toList ∧
      ∃ inner,
        Parser.Encloses (caseFlags caseSensitive) (Lexeme.ofSource body.toList) inner := by
  have ordinary := caseFlags_ordinary caseSensitive
  obtain ⟨branch, reading, ran, ends⟩ :=
    sequence_of_ofSource (lexemes_wholeExpression_negated body caseSensitive) read
  obtain ⟨depth, enough, same⟩ :=
    Parser.exists_depth_after_prefix caseSensitive
      (.plain '^' :: .plain '(' :: .plain '?' :: .plain '!' ::
        .plain '(' :: .plain '?' :: .plain ':' ::
          Lexeme.ofSource (body.toList ++ ')' :: ['$', ')'])) (by simp)
  simp only [List.length_cons] at enough
  obtain ⟨depth, rfl⟩ : ∃ lower, depth = lower + 1 + 1 + 1 + 1 + 1 + 1 + 1 + 1 :=
    ⟨depth - 8, by omega⟩
  rw [same, Parser.run_sequence_anchored_eq_ok_iff .notAhead ordinary (by simp)] at ran
  obtain ⟨looked, between, after, ofLook, closes, -, ran⟩ := ran
  obtain ⟨first, middle, ofFirst, noOther⟩ := Parser.exists_sequence_of_choice ofLook
  rw [if_neg (by decide), Parser.run_sequence_group_eq_ok_iff .enclosing ordinary.notVerbose rfl
    (Lexeme.ofSource_ne_dangling (by simp))] at ofFirst
  obtain ⟨inner, deep, afterInner, ofInner, stops, -, ofFirst⟩ := ofFirst
  rcases Parser.stops_of_ofSource isOwn ordinary.notVerbose (by omega) ofInner stops with
    ⟨whole, rfl⟩ | beyond
  · have around : Lexeme.ofSource ['$', ')'] = [.plain '$', .plain ')'] := rfl
    rw [around, Parser.run_sequence_anchor .lastLineEnd ordinary rfl (by simp),
      Parser.run_sequence_end (.inr rfl)] at ofFirst
    obtain ⟨rfl, rfl⟩ := Prod.mk.inj (Except.ok.inj ofFirst)
    obtain ⟨rfl, rfl⟩ := noOther (by simp)
    obtain rfl := (List.cons.inj closes).2
    rw [Parser.run_sequence_end (.inl rfl)] at ran
    obtain ⟨rfl, rfl⟩ := Prod.mk.inj (Except.ok.inj ran)
    obtain ⟨noneMissing, settled, isSettled, noDefect⟩ := ends (by simp)
    have bodyNoDefect := (Tree.defect?_notWhole _ _).symm.trans noDefect
    exact
      ⟨whole, inner.1,
        encloses_of_settled whole ofInner stops (by omega) noneMissing isSettled bodyNoDefect⟩
  · -- A choice that took the parenthesis of the body would leave none for the look ahead.
    obtain rfl : afterInner = [] := by
      change _ <:+ [Lexeme.plain '$', .plain ')'] at beyond
      simpa [List.suffix_cons_iff] using beyond
    rw [Parser.run_sequence_end (.inl rfl)] at ofFirst
    obtain ⟨rfl, rfl⟩ := Prod.mk.inj (Except.ok.inj ofFirst)
    obtain ⟨rfl, rfl⟩ := noOther (by simp)
    cases closes

/--
The sources for a whole text and for other texts are read together, with the same tree inside, if
the body is an expression of its own and one of them can be read.
-/
theorem exists_whole_notWhole
    {own expression : Expression}
    (isOwn : ofSource body = .ok own)
    {negated : Bool}
    (read : ofSource (Token.wholeExpression body negated caseSensitive) = .ok expression) :
    ∃ inner wanted refused,
      ofSource (Token.wholeExpression body false caseSensitive) = .ok wanted ∧
        wanted.tree = .whole inner ∧
          ofSource (Token.wholeExpression body true caseSensitive) = .ok refused ∧
            refused.tree = .notWhole inner := by
  have enclosed :
      Lexeme.EndsWhole body.toList ∧
        ∃ inner,
          Parser.Encloses (caseFlags caseSensitive) (Lexeme.ofSource body.toList) inner := by
    cases negated with
    | false => exact encloses_of_wholeExpression isOwn read
    | true => exact encloses_of_negated_wholeExpression isOwn read
  obtain ⟨whole, inner, encloses⟩ := enclosed
  obtain ⟨wanted, isWanted, wantedTree⟩ := ofSource_wholeExpression_of_encloses whole encloses
  obtain ⟨refused, isRefused, refusedTree⟩ :=
    ofSource_wholeExpression_negated_of_encloses whole encloses
  exact ⟨inner, wanted, refused, isWanted, wantedTree, isRefused, refusedTree⟩

end Expression

end ProseRules.Regex
