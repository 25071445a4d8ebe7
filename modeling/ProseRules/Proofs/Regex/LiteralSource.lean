import ProseRules.Regex.Escape
import ProseRules.Regex.Search

namespace ProseRules.Regex

/-!
# The source of an expression for a literal text

The source `^(?:…)$` around an escaped text, with or without `(?i)` before it,
reads as a row of single characters between the start and the end of the text.
-/

/-- The characters that a literal text escapes, one by one. -/
theorem specialCharacters_eq :
    specialCharacters =
      ['(', ')', '[', ']', '\x7b', '\x7d', '?', '*', '+', '-', '|', '^', '$', '\\', '.', '&',
        '~', '#', ' ', '\t', '\n', '\r', '\x0b', '\x0c'] := by
  unfold specialCharacters
  simp

namespace Lexeme

/-- The lexeme of a character of an escaped text. -/
def ofLiteral (c : Char) : Lexeme :=
  if specialCharacters.contains c then .escaped c else .plain c

/-- A character other than a backslash is a lexeme of its own. -/
theorem ofSource_cons_of_ne
    {c : Char}
    (notBackslash : c ≠ '\\')
    (rest : List Char) :
    ofSource (c :: rest) = .plain c :: ofSource rest := by
  rw [ofSource]
  · intro _ _ isBackslash
    exact (notBackslash isBackslash).elim
  · intro isBackslash
    exact (notBackslash isBackslash).elim

/-- An escaped text has one lexeme for each of its characters. -/
theorem ofSource_escaped_append
    (text rest : List Char) :
    ofSource (text.flatMap escapeChar ++ rest) = text.map ofLiteral ++ ofSource rest := by
  induction text with
  | nil =>
      rfl
  | cons c text inductionHypothesis =>
      rw [List.flatMap_cons, List.append_assoc, List.map_cons, List.cons_append,
        ← inductionHypothesis]
      by_cases special : specialCharacters.contains c = true
      · simp only [escapeChar, ofLiteral, special, if_true]
        rfl
      · have notBackslash : c ≠ '\\' := by
          rintro rfl
          exact special (by rw [specialCharacters_eq]; rfl)
        simp only [escapeChar, ofLiteral, special]
        exact ofSource_cons_of_ne notBackslash _

/-- What follows a part of an escaped text is no lone backslash. -/
theorem map_ofLiteral_append_ne_dangling
    {text : List Char}
    {tail : List Lexeme}
    (tailNe : tail ≠ [.dangling]) :
    text.map ofLiteral ++ tail ≠ [.dangling] := by
  cases text with
  | nil =>
      exact tailNe
  | cons c text =>
      intro same
      have isDangling := (List.cons.inj same).1
      unfold ofLiteral at isDangling
      split at isDangling <;> cases isDangling

end Lexeme

namespace Tree

/-- The row of the characters of a literal. -/
def literal (comparison : Comparison) (text : List Char) : Tree :=
  all (text.map fun c => character comparison (.single c.toNat false))

/-- A tree between the start and the end of the text. -/
def whole (body : Tree) : Tree :=
  all [place .textStart, body, place .lastLineEnd]

end Tree

namespace Parser

/-- A step that succeeds hands its answer and its reading to the next one. -/
theorem run_bind_of_ok
    {α β : Type}
    {first : Parser α}
    {next : α → Parser β}
    {reading later : Reading}
    {answer : α}
    (succeeds : first.run reading = .ok (answer, later)) :
    (first >>= next).run reading = (next answer).run later := by
  rw [StateT.run_bind, succeeds]
  rfl

/-- Peeking answers the next lexeme and leaves it in place. -/
theorem run_peek
    (reading : Reading) :
    peek.run reading = .ok (reading.rest.head?, reading) :=
  rfl

/-- A lexeme is taken unless a lone backslash comes right after it. -/
theorem run_take
    {reading : Reading}
    {lexeme : Lexeme}
    {rest : List Lexeme}
    (next : reading.rest = lexeme :: rest)
    (noDangling : rest ≠ [.dangling]) :
    take.run reading = .ok (some lexeme, { reading with rest := rest }) := by
  obtain ⟨lexemes, flags, names, widths, lookbehindGroups, awaited⟩ := reading
  subst next
  rcases rest with _ | ⟨second, later⟩
  · rfl
  · cases second <;> cases later <;> first | rfl | exact (noDangling rfl).elim

/-- The given character is accepted if it comes next. -/
theorem run_accept_of_eq
    {reading : Reading}
    {character : Char}
    {rest : List Lexeme}
    (next : reading.rest = .plain character :: rest)
    (noDangling : rest ≠ [.dangling]) :
    (accept character).run reading = .ok (true, { reading with rest := rest }) := by
  unfold accept
  rw [run_bind_of_ok (run_peek _), next]
  simp only [List.head?_cons, if_true]
  rw [run_bind_of_ok (run_take next noDangling)]
  rfl

/-- The given character is not accepted if it does not come next. -/
theorem run_accept_of_ne
    {reading : Reading}
    {character : Char}
    (next : reading.rest.head? ≠ some (.plain character)) :
    (accept character).run reading = .ok (false, reading) := by
  unfold accept
  rw [run_bind_of_ok (run_peek _), if_neg next]
  rfl

/-- The piece of a character that stands for itself. -/
def literalPiece (flags : Flags) (c : Char) : Piece :=
  characterPiece flags (.single c.toNat false)

/-- An escaped special character stands for itself. -/
theorem escape_of_mem_specialCharacters
    {c : Char}
    (special : c ∈ specialCharacters) :
    escape c = pure (.single c.toNat) := by
  rw [specialCharacters_eq] at special
  simp only [List.mem_cons, List.not_mem_nil, or_false] at special
  rcases special with rfl | rfl | rfl | rfl | rfl | rfl | rfl | rfl | rfl | rfl | rfl | rfl |
    rfl | rfl | rfl | rfl | rfl | rfl | rfl | rfl | rfl | rfl | rfl | rfl <;>
    (unfold escape
     rfl)

/-- A sequence goes on over the lexeme of a literal character. -/
theorem run_sequence_cons
    {flags : Flags}
    (notVerbose : flags.verbose = false)
    {mayBeGlobal : Bool}
    {pieces : List Piece}
    {depth : Nat}
    {reading : Reading}
    {c : Char}
    {rest : List Lexeme}
    (next : reading.rest = .ofLiteral c :: rest)
    (noDangling : rest ≠ [.dangling]) :
    (sequence mayBeGlobal flags pieces (depth + 1)).run reading =
      (sequence mayBeGlobal flags (literalPiece flags c :: pieces) depth).run
        { reading with rest := rest } := by
  rw [sequence, run_bind_of_ok (run_peek _), next]
  by_cases special : specialCharacters.contains c = true
  · have isEscaped : Lexeme.ofLiteral c = .escaped c := by
      simp only [Lexeme.ofLiteral, special, if_true]
    rw [isEscaped] at next ⊢
    simp only [List.head?_cons]
    rw [run_bind_of_ok (run_take next noDangling)]
    unfold escapePiece
    rw [escape_of_mem_specialCharacters (by simpa using special)]
    rfl
  · have isPlain : Lexeme.ofLiteral c = .plain c := by
      simp only [Lexeme.ofLiteral, special]
      rfl
    -- Each character with a meaning of its own is special, so the last case of the match is left.
    have noneOf : c ∉ specialCharacters := by simpa using special
    rw [specialCharacters_eq] at noneOf
    simp only [List.mem_cons, List.not_mem_nil, or_false, not_or] at noneOf
    rw [isPlain] at next ⊢
    simp only [List.head?_cons]
    split
    case h_6 =>
      rename_i character _ _ shape
      cases shape
      rw [run_bind_of_ok (run_take next noDangling), notVerbose]
      simp only [Bool.false_and, Bool.false_eq_true, if_false]
      split <;> first | rfl | simp_all
    all_goals simp_all

/-- A sequence goes on over the lexemes of a literal text. -/
theorem run_sequence_literal
    {flags : Flags}
    (notVerbose : flags.verbose = false)
    {mayBeGlobal : Bool}
    {pieces : List Piece}
    {depth : Nat}
    {reading : Reading}
    {text : List Char}
    {tail : List Lexeme}
    (next : reading.rest = text.map .ofLiteral ++ tail)
    (noDangling : tail ≠ [.dangling]) :
    (sequence mayBeGlobal flags pieces (depth + text.length)).run reading =
      (sequence mayBeGlobal flags
        ((text.map (literalPiece flags)).reverse ++ pieces) depth).run
        { reading with rest := tail } := by
  induction text generalizing reading pieces with
  | nil =>
      obtain ⟨lexemes, globalFlags, names, widths, lookbehindGroups, awaited⟩ := reading
      subst next
      rfl
  | cons c text inductionHypothesis =>
      rw [List.length_cons, ← Nat.add_assoc,
        run_sequence_cons notVerbose next
          (Lexeme.map_ofLiteral_append_ne_dangling noDangling),
        inductionHypothesis rfl]
      simp

/-- A sequence ends at the end of its source or at a closing parenthesis. -/
theorem run_sequence_end
    {mayBeGlobal : Bool}
    {flags : Flags}
    {pieces : List Piece}
    {depth : Nat}
    {reading : Reading}
    (next : reading.rest.head? = none ∨ reading.rest.head? = some (.plain ')')) :
    (sequence mayBeGlobal flags pieces (depth + 1)).run reading =
      .ok (sequenceOf pieces, reading) := by
  rw [sequence, run_bind_of_ok (run_peek _)]
  rcases next with atEnd | atParenthesis
  · rw [atEnd]
    rfl
  · rw [atParenthesis]
    rfl

/-- A choice of a single branch is that branch. -/
theorem run_choice_of_sequence
    {outermost : Bool}
    {flags : Flags}
    {depth : Nat}
    {reading later : Reading}
    {branch : Tree × Width}
    (single :
      (sequence outermost (if outermost then reading.flags else flags) [] depth).run reading =
        .ok (branch, later))
    (noOther : later.rest.head? ≠ some (.plain '|')) :
    (choice outermost flags (depth + 1 + 1)).run reading = .ok (branch, later) := by
  have branches :
      (branchesFrom outermost true flags (depth + 1)).run reading = .ok ([branch], later) := by
    rw [branchesFrom, run_bind_of_ok rfl, Bool.and_true, run_bind_of_ok single,
      run_bind_of_ok (run_accept_of_ne noOther)]
    rfl
  rw [choice, run_bind_of_ok branches]
  rfl

/-- Flags under which blanks, comments and line ends have no meaning of their own. -/
structure IsOrdinary (flags : Flags) : Prop where
  notVerbose : flags.verbose = false
  notMultiline : flags.multiline = false

/-- A circumflex is the start of the text, a dollar sign the end of it or of its last line. -/
inductive IsAnchoredBy : Char → Anchor → Prop where
  | textStart : IsAnchoredBy '^' .textStart
  | lastLineEnd : IsAnchoredBy '$' .lastLineEnd

/-- A sequence goes on over an anchor. -/
theorem run_sequence_anchor
    {c : Char}
    {anchor : Anchor}
    (isAnchor : IsAnchoredBy c anchor)
    {flags : Flags}
    (ordinary : IsOrdinary flags)
    {mayBeGlobal : Bool}
    {pieces : List Piece}
    {depth : Nat}
    {reading : Reading}
    {rest : List Lexeme}
    (next : reading.rest = .plain c :: rest)
    (noDangling : rest ≠ [.dangling]) :
    (sequence mayBeGlobal flags pieces (depth + 1)).run reading =
      (sequence mayBeGlobal flags (anchorPiece anchor :: pieces) depth).run
        { reading with rest := rest } := by
  rw [sequence, run_bind_of_ok (run_peek _), next]
  cases isAnchor with
  | textStart | lastLineEnd =>
      change StateT.run (take >>= _) reading = _
      rw [run_bind_of_ok (run_take next noDangling), ordinary.notVerbose, ordinary.notMultiline]
      rfl

/-- After a question mark, a colon opens a plain group and an exclamation mark a refusal. -/
inductive IsOpenedBy : Char → Opening → (Tree × Width → Piece) → Prop where
  | enclosing : IsOpenedBy ':' .enclosing fun inner => ⟨inner.1, inner.2, .other⟩
  | notAhead :
      IsOpenedBy '!' (.look true true) fun inner => ⟨.look .ahead true inner.1, .zero, .other⟩

section Groups

variable {c : Char} {kind : Opening} {piece : Tree × Width → Piece} {flags : Flags}

theorem IsOpenedBy.run_opening
    (isOpening : IsOpenedBy c kind piece)
    {start : Nat}
    {reading : Reading}
    {rest : List Lexeme}
    (next : reading.rest = .plain '?' :: .plain c :: rest)
    (noDangling : rest ≠ [.dangling]) :
    (opening flags start).run reading = .ok (kind, { reading with rest := rest }) := by
  rw [opening, run_bind_of_ok (run_accept_of_eq next (by simp))]
  simp only [if_true]
  rw [run_bind_of_ok (run_take rfl noDangling)]
  cases isOpening with
  | enclosing | notAhead =>
      rfl

/-- A sequence goes on with the inside of a group and its end, and then with what follows. -/
theorem run_sequence_group
    (isOpening : IsOpenedBy c kind piece)
    (notVerbose : flags.verbose = false)
    {mayBeGlobal : Bool}
    {pieces : List Piece}
    {depth : Nat}
    {reading : Reading}
    {body : List Lexeme}
    (next : reading.rest = .plain '(' :: .plain '?' :: .plain c :: body)
    (noDangling : body ≠ [.dangling]) :
    ∃ start,
      (sequence mayBeGlobal flags pieces (depth + 1 + 1)).run reading =
        (do
          let inner ← choice false flags depth
          endGroup start
          sequence mayBeGlobal flags (piece inner :: pieces) (depth + 1)).run
          { reading with rest := body } := by
  refine ⟨Lexeme.totalLength (.plain '?' :: .plain c :: body) + 1, ?_⟩
  rw [sequence, run_bind_of_ok (run_peek _), next]
  change StateT.run (take >>= _) reading = _
  rw [run_bind_of_ok (run_take next (by simp)), notVerbose]
  change StateT.run (remaining >>= _) _ = _
  rw [run_bind_of_ok rfl, run_bind_of_ok (isOpening.run_opening rfl noDangling)]
  cases isOpening with
  | enclosing | notAhead =>
      simp only [group, if_true, bind_assoc, pure_bind]
      rfl

/-- A sequence goes on over a group with a single branch. -/
theorem run_sequence_group_of_sequence
    (isOpening : IsOpenedBy c kind piece)
    (notVerbose : flags.verbose = false)
    {mayBeGlobal : Bool}
    {pieces : List Piece}
    {depth : Nat}
    {reading later : Reading}
    {body : List Lexeme}
    (bodyNoDangling : body ≠ [.dangling])
    {branch : Tree × Width}
    (single :
      (sequence false flags [] depth).run { reading with rest := body } = .ok (branch, later))
    {after : List Lexeme}
    (branchEnds : later.rest = .plain ')' :: after)
    (noDangling : after ≠ [.dangling]) :
    (sequence mayBeGlobal flags pieces (depth + 1 + 1 + 1 + 1)).run
        { reading with rest := .plain '(' :: .plain '?' :: .plain c :: body } =
      (sequence mayBeGlobal flags (piece branch :: pieces) (depth + 1 + 1 + 1)).run
        { later with rest := after } := by
  obtain ⟨start, ran⟩ :=
    @run_sequence_group _ _ _ _ isOpening notVerbose mayBeGlobal pieces (depth + 1 + 1)
      { reading with rest := .plain '(' :: .plain '?' :: .plain c :: body } _ rfl bodyNoDangling
  have noOther : later.rest.head? ≠ some (.plain '|') := by
    simp [branchEnds]
  rw [ran, run_bind_of_ok (run_choice_of_sequence single noOther)]
  simp only [endGroup]
  exact run_bind_of_ok (run_bind_of_ok (run_accept_of_eq branchEnds noDangling))

end Groups

/-- A question mark and the letter of a flag set the flag for the whole expression. -/
theorem run_opening_ignoreCase
    {flags : Flags}
    {start : Nat}
    {reading : Reading}
    {rest : List Lexeme}
    (next : reading.rest = .plain '?' :: .plain 'i' :: .plain ')' :: rest)
    (noDangling : rest ≠ [.dangling]) :
    (opening flags start).run reading =
      .ok (.globalFlags,
        { reading with
          rest := rest
          flags := reading.flags.union { ignoreCase := true } }) := by
  rw [opening, run_bind_of_ok (run_accept_of_eq next (by simp))]
  simp only [if_true]
  rw [run_bind_of_ok (run_take rfl (by simp))]
  have flagsEnd :
      (groupFlags 'i').run { reading with rest := .plain ')' :: rest } =
        .ok (.globally,
          { reading with
            rest := rest
            flags := reading.flags.union { ignoreCase := true } }) := by
    have letters :
        (flagsOn {} .ignoreCase (rest.length + 1 + 1)).run
            { reading with rest := .plain ')' :: rest } =
          .ok (({ ignoreCase := true }, ')'), { reading with rest := rest }) := by
      rw [flagsOn]
      change StateT.run (take >>= _) _ = _
      rw [run_bind_of_ok (run_take rfl noDangling)]
      rfl
    rw [groupFlags, run_bind_of_ok rfl]
    change StateT.run (flagsOn {} .ignoreCase (rest.length + 1 + 1) >>= _) _ = _
    rw [run_bind_of_ok letters]
    rfl
  change StateT.run (groupFlags 'i' >>= _) _ = _
  rw [run_bind_of_ok flagsEnd]
  rfl

/-- A sequence goes on over a plain group of a literal text. -/
theorem run_sequence_enclosed
    {flags : Flags}
    (ordinary : IsOrdinary flags)
    {mayBeGlobal : Bool}
    {pieces : List Piece}
    {depth : Nat}
    {reading : Reading}
    {text : List Char}
    {after : List Lexeme}
    (next :
      reading.rest =
        .plain '(' :: .plain '?' :: .plain ':' ::
          (text.map .ofLiteral ++ .plain ')' :: after))
    (noDangling : after ≠ [.dangling]) :
    ∃ width,
      (sequence mayBeGlobal flags pieces (depth + 1 + text.length + 1 + 1 + 1 + 1)).run
          reading =
        (sequence mayBeGlobal flags
          (⟨.literal (comparison flags) text, width, .other⟩ :: pieces)
          (depth + 1 + text.length + 1 + 1 + 1)).run { reading with rest := after } := by
  have bodyNoDangling :
      text.map .ofLiteral ++ .plain ')' :: after ≠ [Lexeme.dangling] :=
    Lexeme.map_ofLiteral_append_ne_dangling (by simp)
  have branch :
      (sequence false flags [] (depth + 1 + text.length)).run
          { reading with rest := text.map .ofLiteral ++ .plain ')' :: after } =
        .ok (sequenceOf (text.map (literalPiece flags)).reverse,
          { reading with rest := .plain ')' :: after }) := by
    rw [run_sequence_literal ordinary.notVerbose rfl (by simp), run_sequence_end (.inr rfl),
      List.append_nil]
  have literalTree :
      (sequenceOf (text.map (literalPiece flags)).reverse).1 =
        .literal (comparison flags) text := by
    simp only [sequenceOf, List.reverse_reverse, List.map_map]
    rfl
  refine ⟨(sequenceOf (text.map (literalPiece flags)).reverse).2, ?_⟩
  rw [← literalTree]
  obtain ⟨lexemes, globalFlags, names, widths, lookbehindGroups, awaited⟩ := reading
  subst next
  exact
    run_sequence_group_of_sequence .enclosing ordinary.notVerbose bodyNoDangling branch rfl
      noDangling

/-- At its start an outermost sequence may set a flag for the whole expression. -/
theorem run_sequence_ignoreCase
    {flags : Flags}
    (ordinary : IsOrdinary flags)
    {depth : Nat}
    {reading : Reading}
    {rest : List Lexeme}
    (next :
      reading.rest = .plain '(' :: .plain '?' :: .plain 'i' :: .plain ')' :: rest)
    (noDangling : rest ≠ [.dangling]) :
    (sequence true flags [] (depth + 1)).run reading =
      (sequence true (reading.flags.union { ignoreCase := true }) [] depth).run
        { reading with
          rest := rest
          flags := reading.flags.union { ignoreCase := true } } := by
  rw [sequence, run_bind_of_ok (run_peek _), next]
  change StateT.run (take >>= _) reading = _
  rw [run_bind_of_ok (run_take next (by simp)), ordinary.notVerbose]
  change StateT.run (remaining >>= _) _ = _
  rw [run_bind_of_ok rfl, run_bind_of_ok (run_opening_ignoreCase rfl noDangling)]
  rfl

/-- A sequence reads a literal text between the start and the end of the text. -/
theorem run_sequence_whole
    {flags : Flags}
    (ordinary : IsOrdinary flags)
    {mayBeGlobal : Bool}
    {depth : Nat}
    {reading : Reading}
    {text : List Char}
    (next :
      reading.rest =
        .plain '^' :: .plain '(' :: .plain '?' :: .plain ':' ::
          (text.map .ofLiteral ++ [.plain ')', .plain '$'])) :
    ∃ width,
      (sequence mayBeGlobal flags [] (depth + 1 + text.length + 1 + 1 + 1 + 1 + 1)).run
          reading =
        .ok ((.whole (.literal (comparison flags) text), width),
          { reading with rest := [] }) := by
  have enclosed :
      ∃ width,
        (sequence mayBeGlobal flags [anchorPiece .textStart]
            (depth + 1 + text.length + 1 + 1 + 1 + 1)).run
            { reading with
              rest := .plain '(' :: .plain '?' :: .plain ':' ::
                (text.map .ofLiteral ++ [.plain ')', .plain '$']) } =
          (sequence mayBeGlobal flags
            [⟨.literal (comparison flags) text, width, .other⟩, anchorPiece .textStart]
            (depth + 1 + text.length + 1 + 1 + 1)).run
            { reading with rest := [.plain '$'] } :=
    run_sequence_enclosed ordinary rfl (by simp)
  obtain ⟨bodyWidth, enclosed⟩ := enclosed
  refine ⟨(sequenceOf
    [anchorPiece .lastLineEnd, ⟨.literal (comparison flags) text, bodyWidth, .other⟩,
      anchorPiece .textStart]).2, ?_⟩
  rw [run_sequence_anchor .textStart ordinary next (by simp), enclosed,
    run_sequence_anchor .lastLineEnd ordinary rfl (by simp), run_sequence_end (.inl rfl)]
  rfl

end Parser

namespace Expression

/-- A source is read if its only branch is read up to the end and has no defect. -/
theorem ofSource_of_run_sequence
    {source : String}
    {lexemes : List Lexeme}
    (sourceLexemes : Lexeme.ofSource source.toList = lexemes)
    (noDangling : lexemes ≠ [.dangling])
    {depth : Nat}
    (enough : 4 * lexemes.length + 4 = depth + 1 + 1)
    {tree : Tree}
    {width : Width}
    {flags : Flags}
    (parsed :
      (Parser.sequence true {} [] depth).run ⟨lexemes, {}, [], [], none, []⟩ =
        .ok ((tree, width), ⟨[], flags, [], [], none, []⟩))
    (allScripts : flags.plain = false)
    (noDefect : ∀ template, tree.defect? template = none) :
    ∃ expression, ofSource source = .ok expression ∧ expression.tree = tree := by
  have choiceParsed :
      (Parser.choice true {} (4 * lexemes.length + 4)).run ⟨lexemes, {}, [], [], none, []⟩ =
        .ok ((tree, width), ⟨[], flags, [], [], none, []⟩) := by
    rw [enough]
    exact Parser.run_choice_of_sequence parsed (by simp)
  have settled :
      settledFlags flags = some { flags with allScripts := true } := by
    simp [settledFlags, allScripts]
  have noneMissing :
      missingGroup? ⟨[], flags, [], [], none, []⟩ = none :=
    rfl
  refine ⟨⟨source, { flags with allScripts := true }, 0, tree⟩, ?_, rfl⟩
  unfold ofSource
  simp only [sourceLexemes, noDangling, if_false, choiceParsed, settled, noneMissing, noDefect]
  rfl

/-- A row of characters has nothing to look behind and nothing to repeat. -/
theorem defect?_literal
    (template : Bool)
    (comparison : Comparison)
    (text : List Char) :
    (Tree.literal comparison text).defect? template = none := by
  unfold Tree.literal
  induction text with
  | nil =>
      rfl
  | cons c text inductionHypothesis =>
      cases text with
      | nil =>
          rfl
      | cons next later =>
          exact inductionHypothesis

/-- The row of a literal between the start and the end of the text has no defect either. -/
theorem defect?_whole_literal
    (comparison : Comparison)
    (text : List Char)
    (template : Bool) :
    (Tree.whole (.literal comparison text)).defect? template = none := by
  simp [Tree.whole, Tree.all, Tree.defect?, defect?_literal]

/-- The lexemes of the source for a whole text. -/
theorem ofSource_lexemes_whole
    (text : List Char) :
    Lexeme.ofSource ('^' :: '(' :: '?' :: ':' :: (text.flatMap escapeChar ++ [')', '$'])) =
      .plain '^' :: .plain '(' :: .plain '?' :: .plain ':' ::
        (text.map .ofLiteral ++ [.plain ')', .plain '$']) := by
  rw [Lexeme.ofSource_cons_of_ne (by decide), Lexeme.ofSource_cons_of_ne (by decide),
    Lexeme.ofSource_cons_of_ne (by decide), Lexeme.ofSource_cons_of_ne (by decide),
    Lexeme.ofSource_escaped_append]
  rfl

/-- The source for a whole text whose case counts is read as the row of its characters. -/
theorem ofSource_sensitive_literal
    (text : String) :
    ∃ expression,
      ofSource ("^(?:" ++ escape text ++ ")$") = .ok expression ∧
        expression.tree = .whole (.literal ⟨false, false⟩ text.toList) := by
  have lexemes :
      Lexeme.ofSource ("^(?:" ++ escape text ++ ")$").toList =
        .plain '^' :: .plain '(' :: .plain '?' :: .plain ':' ::
          (text.toList.map .ofLiteral ++ [.plain ')', .plain '$']) := by
    rw [← ofSource_lexemes_whole]
    simp [escape]
  have parsed :
      ∃ width,
        (Parser.sequence true {} []
            (3 * text.toList.length + 20 + 1 + text.toList.length + 1 + 1 + 1 + 1 + 1)).run
            ⟨.plain '^' :: .plain '(' :: .plain '?' :: .plain ':' ::
              (text.toList.map .ofLiteral ++ [.plain ')', .plain '$']), {}, [], [], none, []⟩ =
          .ok ((.whole (.literal ⟨false, false⟩ text.toList), width),
            ⟨[], {}, [], [], none, []⟩) :=
    Parser.run_sequence_whole ⟨rfl, rfl⟩ rfl
  obtain ⟨width, parsed⟩ := parsed
  refine ofSource_of_run_sequence lexemes (by simp) ?_ parsed rfl (defect?_whole_literal _ _)
  simp only [List.length_cons, List.length_append, List.length_map, List.length_nil]
  omega

/-- The source for a whole text whose case does not count is read in the same way. -/
theorem ofSource_insensitive_literal
    (text : String) :
    ∃ expression,
      ofSource ("(?i)^(?:" ++ escape text ++ ")$") = .ok expression ∧
        expression.tree = .whole (.literal ⟨true, false⟩ text.toList) := by
  have lexemes :
      Lexeme.ofSource ("(?i)^(?:" ++ escape text ++ ")$").toList =
        .plain '(' :: .plain '?' :: .plain 'i' :: .plain ')' ::
          .plain '^' :: .plain '(' :: .plain '?' :: .plain ':' ::
            (text.toList.map .ofLiteral ++ [.plain ')', .plain '$']) := by
    rw [← ofSource_lexemes_whole, ← Lexeme.ofSource_cons_of_ne (by decide),
      ← Lexeme.ofSource_cons_of_ne (by decide), ← Lexeme.ofSource_cons_of_ne (by decide),
      ← Lexeme.ofSource_cons_of_ne (by decide)]
    simp [escape]
  have parsed :
      ∃ width,
        (Parser.sequence true { ignoreCase := true } []
            (3 * text.toList.length + 35 + 1 + text.toList.length + 1 + 1 + 1 + 1 + 1)).run
            ⟨.plain '^' :: .plain '(' :: .plain '?' :: .plain ':' ::
              (text.toList.map .ofLiteral ++ [.plain ')', .plain '$']),
              { ignoreCase := true }, [], [], none, []⟩ =
          .ok ((.whole (.literal ⟨true, false⟩ text.toList), width),
            ⟨[], { ignoreCase := true }, [], [], none, []⟩) :=
    Parser.run_sequence_whole ⟨rfl, rfl⟩ rfl
  obtain ⟨width, parsed⟩ := parsed
  have parsedWithFlag :
      (Parser.sequence true {} []
          (3 * text.toList.length + 35 + 1 + text.toList.length + 1 + 1 + 1 + 1 + 1 + 1)).run
          ⟨.plain '(' :: .plain '?' :: .plain 'i' :: .plain ')' ::
            .plain '^' :: .plain '(' :: .plain '?' :: .plain ':' ::
              (text.toList.map .ofLiteral ++ [.plain ')', .plain '$']), {}, [], [], none, []⟩ =
        .ok ((.whole (.literal ⟨true, false⟩ text.toList), width),
          ⟨[], { ignoreCase := true }, [], [], none, []⟩) :=
    (Parser.run_sequence_ignoreCase ⟨rfl, rfl⟩ rfl (by simp)).trans parsed
  refine
    ofSource_of_run_sequence lexemes (by simp) ?_ parsedWithFlag rfl (defect?_whole_literal _ _)
  simp only [List.length_cons, List.length_append, List.length_map, List.length_nil]
  omega

end Expression

end ProseRules.Regex
