import ProseRules.Proofs.Regex.LiteralSource

namespace ProseRules.Regex

/-!
# The source of an expression for other texts than a literal one

The source `^(?!(?:…)$)` around an escaped text, with or without `(?i)` before it, reads as
a look ahead from the start of the text, in which the row of single characters must not
come up to the end.
-/

/-- A tree that must not match from the start of the text up to its end. -/
def Tree.notWhole (body : Tree) : Tree :=
  .all [.place .textStart, .look .ahead true (.all [body, .place .lastLineEnd])]

namespace Parser

/-- A sequence reads that the text is not a literal one. -/
theorem run_sequence_notWhole
    {flags : Flags}
    (ordinary : IsOrdinary flags)
    {mayBeGlobal : Bool}
    {depth : Nat}
    {reading : Reading}
    {text : List Char}
    (next :
      reading.rest =
        .plain '^' :: .plain '(' :: .plain '?' :: .plain '!' ::
          .plain '(' :: .plain '?' :: .plain ':' ::
            (text.map .ofLiteral ++ [.plain ')', .plain '$', .plain ')'])) :
    ∃ width,
      (sequence mayBeGlobal flags []
          (depth + 1 + text.length + 1 + 1 + 1 + 1 + 1 + 1 + 1 + 1 + 1)).run
          reading =
        .ok ((.notWhole (.literal (comparison flags) text), width),
          { reading with rest := [] }) := by
  have enclosed :
      ∃ width,
        (sequence false flags [] (depth + 1 + text.length + 1 + 1 + 1 + 1)).run
            { reading with
              rest := .plain '(' :: .plain '?' :: .plain ':' ::
                (text.map .ofLiteral ++ [.plain ')', .plain '$', .plain ')']) } =
          (sequence false flags [⟨.literal (comparison flags) text, width, .other⟩]
            (depth + 1 + text.length + 1 + 1 + 1)).run
            { reading with rest := [.plain '$', .plain ')'] } :=
    run_sequence_enclosed ordinary rfl (by simp)
  obtain ⟨bodyWidth, enclosed⟩ := enclosed
  have single :
      (sequence false flags [] (depth + 1 + text.length + 1 + 1 + 1 + 1)).run
          { reading with
            rest := .plain '(' :: .plain '?' :: .plain ':' ::
              (text.map .ofLiteral ++ [.plain ')', .plain '$', .plain ')']) } =
        .ok (sequenceOf
            [anchorPiece .lastLineEnd, ⟨.literal (comparison flags) text, bodyWidth, .other⟩],
          { reading with rest := [.plain ')'] }) := by
    rw [enclosed, run_sequence_anchor .lastLineEnd ordinary rfl (by simp),
      run_sequence_end (.inr rfl)]
  have looked :
      (sequence mayBeGlobal flags [anchorPiece .textStart]
          (depth + 1 + text.length + 1 + 1 + 1 + 1 + 1 + 1 + 1 + 1)).run
          { reading with
            rest := .plain '(' :: .plain '?' :: .plain '!' ::
              .plain '(' :: .plain '?' :: .plain ':' ::
                (text.map .ofLiteral ++ [.plain ')', .plain '$', .plain ')']) } =
        (sequence mayBeGlobal flags
          [⟨.look .ahead true (.all [.literal (comparison flags) text, .place .lastLineEnd]),
            .zero, .other⟩, anchorPiece .textStart]
          (depth + 1 + text.length + 1 + 1 + 1 + 1 + 1 + 1 + 1)).run
          { reading with rest := [] } :=
    run_sequence_group_of_sequence .notAhead ordinary.notVerbose (by simp) single rfl (by simp)
  refine ⟨(sequenceOf
    [⟨.look .ahead true (.all [.literal (comparison flags) text, .place .lastLineEnd]), .zero,
      .other⟩, anchorPiece .textStart]).2, ?_⟩
  rw [run_sequence_anchor .textStart ordinary next (by simp), looked, run_sequence_end (.inl rfl)]
  rfl

end Parser

namespace Expression

/-- A look ahead for the row of a literal has no defect either. -/
theorem defect?_notWhole_literal
    (comparison : Comparison)
    (text : List Char)
    (template : Bool) :
    (Tree.notWhole (.literal comparison text)).defect? template = none := by
  simp [Tree.notWhole, Tree.all, Tree.defect?, defect?_literal]

/-- The lexemes of the source for other texts than a whole one. -/
theorem ofSource_lexemes_notWhole
    (text : List Char) :
    Lexeme.ofSource
        ('^' :: '(' :: '?' :: '!' :: '(' :: '?' :: ':' ::
          (text.flatMap escapeChar ++ [')', '$', ')'])) =
      .plain '^' :: .plain '(' :: .plain '?' :: .plain '!' ::
        .plain '(' :: .plain '?' :: .plain ':' ::
          (text.map .ofLiteral ++ [.plain ')', .plain '$', .plain ')']) := by
  rw [Lexeme.ofSource_cons_of_ne (by decide), Lexeme.ofSource_cons_of_ne (by decide),
    Lexeme.ofSource_cons_of_ne (by decide), Lexeme.ofSource_cons_of_ne (by decide),
    Lexeme.ofSource_cons_of_ne (by decide), Lexeme.ofSource_cons_of_ne (by decide),
    Lexeme.ofSource_cons_of_ne (by decide), Lexeme.ofSource_escaped_append]
  rfl

/-- The source for other texts is read, with case or without regard to case. -/
theorem ofSource_negated_literal
    (text : String)
    (ignoreCase : Bool) :
    ∃ expression,
      ofSource ((if ignoreCase then "(?i)" else "") ++ "^(?!(?:" ++ escape text ++ ")$)") =
          .ok expression ∧
        expression.tree = .notWhole (.literal ⟨ignoreCase, false⟩ text.toList) := by
  have parsed (flags : Flags) (ordinary : Parser.IsOrdinary flags) (depth : Nat) :
      ∃ width,
        (Parser.sequence true flags []
            (depth + 1 + text.toList.length + 1 + 1 + 1 + 1 + 1 + 1 + 1 + 1 + 1)).run
            ⟨.plain '^' :: .plain '(' :: .plain '?' :: .plain '!' ::
              .plain '(' :: .plain '?' :: .plain ':' ::
                (text.toList.map .ofLiteral ++ [.plain ')', .plain '$', .plain ')']),
              flags, [], [], none, []⟩ =
          .ok ((.notWhole (.literal (Parser.comparison flags) text.toList), width),
            ⟨[], flags, [], [], none, []⟩) :=
    Parser.run_sequence_notWhole ordinary rfl
  cases ignoreCase with
  | false =>
      have lexemes := ofSource_lexemes_notWhole text.toList
      obtain ⟨width, parsed⟩ := parsed {} ⟨rfl, rfl⟩ (3 * text.toList.length + 32)
      refine
        ofSource_of_run_sequence (by rw [← lexemes]; simp [escape]) (by simp) ?_ parsed rfl
          (defect?_notWhole_literal _ _)
      simp only [List.length_cons, List.length_append, List.length_map, List.length_nil]
      omega
  | true =>
      have lexemes :
          Lexeme.ofSource ("(?i)" ++ "^(?!(?:" ++ escape text ++ ")$)").toList =
            .plain '(' :: .plain '?' :: .plain 'i' :: .plain ')' ::
              .plain '^' :: .plain '(' :: .plain '?' :: .plain '!' ::
                .plain '(' :: .plain '?' :: .plain ':' ::
                  (text.toList.map .ofLiteral ++ [.plain ')', .plain '$', .plain ')']) := by
        rw [← ofSource_lexemes_notWhole, ← Lexeme.ofSource_cons_of_ne (by decide),
          ← Lexeme.ofSource_cons_of_ne (by decide), ← Lexeme.ofSource_cons_of_ne (by decide),
          ← Lexeme.ofSource_cons_of_ne (by decide)]
        simp [escape]
      obtain ⟨width, parsed⟩ :=
        parsed { ignoreCase := true } ⟨rfl, rfl⟩ (3 * text.toList.length + 47)
      refine
        ofSource_of_run_sequence lexemes (by simp) ?_
          ((Parser.run_sequence_ignoreCase ⟨rfl, rfl⟩ rfl (by simp)).trans parsed) rfl
          (defect?_notWhole_literal _ _)
      simp only [List.length_cons, List.length_append, List.length_map, List.length_nil]
      omega

end Expression

end ProseRules.Regex
