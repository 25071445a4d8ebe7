import ProseRules.Yaml.Stream

namespace ProseRules.Yaml

/-!
# A document that ends in a plain scalar

A plain scalar at the end of a document is read as one lexeme, however long it is. What is read
before it can be followed step by step, so the lexemes of the whole document are known.
-/

/-- A character that stands inside of a plain scalar whatever comes after it. -/
def isInner (c : Char) : Bool :=
  !isSpacing c && c ≠ ':' && c ≠ '\ufeff'

section Scalar

variable {word : List Char}

theorem plainWord_of_inner
    (inner : word.all isInner = true) :
    plainWord false word = word := by
  induction word with
  | nil =>
      rfl
  | cons c word inductionHypothesis =>
      simp only [List.all_cons, Bool.and_eq_true, isInner, Bool.not_eq_true',
        decide_eq_true_eq] at inner
      obtain ⟨⟨⟨noSpacing, noColon⟩, _⟩, rest⟩ := inner
      have goesOn : endsPlain false c (word.headD '\x00') = false := by
        simp [endsPlain, noSpacing, noColon]
      rw [plainWord, goesOn, if_neg Bool.false_ne_true]
      exact congrArg (c :: ·) (inductionHypothesis (by simpa [isInner] using rest))

/-- Such characters are passed on their line. -/
theorem skip_of_inner
    (inner : word.all isInner = true)
    (index line column : Nat) :
    Place.skip ⟨word, index, line, column⟩ word.length =
      ⟨[], index + word.length, line, column + word.length⟩ := by
  induction word generalizing index column with
  | nil =>
      rfl
  | cons c word inductionHypothesis =>
      rw [List.all_cons, Bool.and_eq_true] at inner
      obtain ⟨first, rest⟩ := inner
      have next :
          Place.next ⟨c :: word, index, line, column⟩ = ⟨word, index + 1, line, column + 1⟩ := by
        simp only [isInner, isSpacing, endsLineOrDocument, endsLine, Bool.and_eq_true,
          Bool.not_eq_true', Bool.or_eq_false_iff, decide_eq_false_iff_not,
          decide_eq_true_eq] at first
        simp [Place.next, first]
      rw [List.length_cons, Place.skip, next, inductionHypothesis rest, Place.mk.injEq]
      refine ⟨rfl, ?_, rfl, ?_⟩ <;> omega

/-- A plain scalar at the end of a document is read to its end. -/
theorem readPlain_of_inner
    {c : Char}
    (inner : (c :: word).all isInner = true)
    (noComment : c ≠ '#')
    (outer : Int)
    (index line column : Nat) :
    readPlain false outer ⟨c :: word, index, line, column⟩ =
      (.scalar (String.ofList (c :: word)) true, false,
        ⟨[], index + (c :: word).length, line, column + (c :: word).length⟩) := by
  have whole := plainWord_of_inner inner
  have skipped := skip_of_inner inner index line column
  have nothingAfter (place : Place) (atEnd : place.rest = []) :
      readPlainSpaces place = ([], false, place) := by
    simp [readPlainSpaces, Place.takeWhile, Place.skip, Place.peek, atEnd, endsLine, isBreak]
  unfold readPlain
  simp only [readPlainFrom, Place.peek, List.headD_cons, noComment, if_false, whole]
  rw [skipped, nothingAfter _ rfl]
  simp

end Scalar

namespace Tracing

/-- A step that succeeds hands its answer and its outline to the next one. -/
theorem run_bind_of_ok
    {α β : Type}
    {first : Tracing α}
    {next : α → Tracing β}
    {outline after : Outline}
    {answer : α}
    (succeeds : first.run outline = .ok (answer, after)) :
    (first >>= next).run outline = (next answer).run after := by
  rw [StateT.run_bind, succeeds]
  rfl

/-- The outline after some steps, none of which reaches the end of the document. -/
def steps : (count : Nat) → Outline → Except ReadFlaw Outline
  | 0, outline => .ok outline
  | count + 1, outline =>
      match step.run outline with
      | .ok (true, after) => steps count after
      | .ok (false, _) => .error .malformed
      | .error flaw => .error flaw

theorem steps_succ
    {count : Nat}
    {outline middle after : Outline}
    (taken : steps count outline = .ok middle)
    (stepped : step.run middle = .ok (true, after)) :
    steps (count + 1) outline = .ok after := by
  induction count generalizing outline with
  | zero =>
      cases taken
      simp only [steps, stepped]
  | succ count inductionHypothesis =>
      unfold steps at taken ⊢
      split at taken
      next => exact inductionHypothesis taken
      next => cases taken
      next => cases taken

/-- What is left of a walk after some steps. -/
theorem walk_of_steps
    {count : Nat}
    {outline after : Outline}
    (taken : steps count outline = .ok after)
    (limit : Nat) :
    (walk (count + limit)).run outline = (walk limit).run after := by
  induction count generalizing outline with
  | zero =>
      cases taken
      rw [Nat.zero_add]
  | succ count inductionHypothesis =>
      unfold steps at taken
      split at taken
      next middle stepped =>
        rw [Nat.add_right_comm, walk, run_bind_of_ok stepped]
        exact inductionHypothesis taken
      next => cases taken
      next => cases taken

variable {outline : Outline}

theorem run_get
    (outline : Outline) :
    (get : Tracing Outline).run outline = .ok (outline, outline) :=
  rfl

theorem run_dropStaleKeys
    (noKey : outline.keys = []) :
    dropStaleKeys.run outline = .ok ((), outline) := by
  cases outline
  cases noKey
  rfl

theorem run_noteKey
    (noKeyHere : outline.mayBeKey = false) :
    noteKey.run outline = .ok ((), outline) := by
  cases outline
  cases noKeyHere
  rfl

theorem run_closeBlocksTo
    {column : Int}
    (within : outline.indent ≤ column) :
    (closeBlocksTo column).run outline = .ok ((), outline) := by
  have notDeeper : ¬outline.indent > column := by omega
  rw [closeBlocksTo, run_bind_of_ok (run_get outline), closeBlocks,
    run_bind_of_ok (run_get outline)]
  simp only [notDeeper, decide_false, Bool.and_false, if_neg Bool.false_ne_true]
  rfl

theorem run_takePlain
    (noKeyHere : outline.mayBeKey = false)
    {lexeme : Lexeme}
    {after : Place}
    (isRead :
      readPlain (outline.flowDepth ≠ 0) outline.indent outline.place = (lexeme, false, after)) :
    takePlain.run outline =
      .ok ((), { outline with place := after, lexemes := outline.lexemes.push lexeme }) := by
  have allowed : (allowKey false).run outline = .ok ((), outline) := by
    cases outline
    cases noKeyHere
    rfl
  rw [takePlain, run_bind_of_ok (run_noteKey noKeyHere), run_bind_of_ok allowed,
    run_bind_of_ok rfl]
  rw [isRead]
  rfl

/-- At a zero the next step takes a plain scalar. -/
theorem step_zero
    {there after : Outline}
    {word : List Char}
    (skipped : (skipSpace (outline.place.rest.length + 1)).run outline = .ok ((), there))
    (noKey : there.keys = [])
    (inBlock : there.flowDepth = 0)
    (within : there.indent ≤ there.place.column)
    (isZero : there.place.rest = '0' :: word)
    (taken : takePlain.run there = .ok ((), after)) :
    step.run outline = .ok (true, after) := by
  rw [step, run_bind_of_ok (run_get outline), run_bind_of_ok skipped,
    run_bind_of_ok (run_dropStaleKeys noKey), run_bind_of_ok (run_get there),
    run_bind_of_ok (run_closeBlocksTo within), run_bind_of_ok (run_get there)]
  have noStart : there.place.hasMark '-' = false := by
    simp [Place.hasMark, isZero]
  have noEnd : there.place.hasMark '.' = false := by
    simp [Place.hasMark, isZero]
  have begins : beginsPlain false '0' (there.place.peekAt 1) = true := by
    simp [beginsPlain, isSpacing, endsLineOrDocument, endsLine, isBreak]
  have finished : (takePlain >>= fun _ => pure true).run there = .ok (true, after) :=
    run_bind_of_ok taken
  simpa [isZero, Place.peek, inBlock, noStart, noEnd, begins] using finished

/-- At the end of a document its blocks are closed. -/
theorem step_end
    (noKey : outline.keys = [])
    (inBlock : outline.flowDepth = 0)
    (isEnd : outline.place.rest = [])
    (within : outline.indent ≤ outline.place.column)
    {after : Outline}
    (left : leaveBlocks.run outline = .ok ((), after)) :
    step.run outline =
      .ok (false, { after with lexemes := after.lexemes.push .streamEnd }) := by
  have skipped : (skipSpace (outline.place.rest.length + 1)).run outline = .ok ((), outline) := by
    rw [skipSpace, run_bind_of_ok (run_get outline)]
    cases outline with
    | mk place =>
      cases place
      cases isEnd
      rfl
  rw [step, run_bind_of_ok (run_get outline), run_bind_of_ok skipped,
    run_bind_of_ok (run_dropStaleKeys noKey), run_bind_of_ok (run_get outline),
    run_bind_of_ok (run_closeBlocksTo within), run_bind_of_ok (run_get outline)]
  simp only [isEnd, List.isEmpty_nil, if_true]
  rw [run_bind_of_ok left]
  rfl

end Tracing

/-- The lexemes of a document whose end is reached after some steps. -/
theorem lexemesOf_of_steps
    {document : List Char}
    {count : Nat}
    {last after : Outline}
    (allowed : document.all isAllowed = true)
    (unmarked : document.headD '\x00' ≠ '\ufeff')
    (enough : count ≤ document.length)
    (taken : Tracing.steps count { place := ⟨document, 0, 0, 0⟩ } = .ok last)
    (ended : Tracing.step.run last = .ok (false, after)) :
    lexemesOf document = .ok after.lexemes.toList := by
  obtain ⟨limit, isLimit⟩ := Nat.exists_eq_add_of_le enough
  have walked :
      StateT.run (Tracing.walk (document.length + 1)) { place := ⟨document, 0, 0, 0⟩ } =
        .ok ((), after) := by
    rw [isLimit, Nat.add_assoc, Tracing.walk_of_steps taken, Tracing.walk,
      Tracing.run_bind_of_ok ended]
    rfl
  unfold lexemesOf
  simp only [allowed, Bool.not_true, Bool.false_eq_true, if_false, Place.peek, unmarked]
  rw [walked]
  rfl

end ProseRules.Yaml
