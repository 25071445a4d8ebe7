import Mathlib.Data.List.Forall2
import ProseRules.Proofs.Regex.TwoSources

namespace ProseRules.Regex

/-!
# The steps of reading on two sources

Each step of the grammar that does not nest tracks itself. The flags in force may differ as long
as they treat blanks alike; then the same pieces are read, and only their trees can differ.
-/

/-- Flags under which the same source has the same pieces, and the same trees where they matter. -/
structure Flags.Alike (sameTrees : Prop) (first second : Flags) : Prop where
  verbose : first.verbose = second.verbose
  same : sameTrees → first = second

/-- Groups that turn the same flags on and off keep flags alike. -/
theorem Flags.Alike.inGroup
    {sameTrees : Prop}
    {first second : Flags}
    (alike : Flags.Alike sameTrees first second)
    (turnedOn turnedOff : Flags) :
    Flags.Alike sameTrees (first.inGroup turnedOn turnedOff)
      (second.inGroup turnedOn turnedOff) where
  verbose := by
    simp only [Flags.inGroup, alike.verbose]
  same wanted := by
    rw [alike.same wanted]

/-- Pieces that differ in their trees at most, and not where the trees matter. -/
structure Piece.Alike (sameTrees : Prop) (first second : Piece) : Prop where
  width : first.width = second.width
  role : first.role = second.role
  tree : sameTrees → first.tree = second.tree

theorem Piece.Alike.refl
    {sameTrees : Prop}
    (piece : Piece) :
    Piece.Alike sameTrees piece piece :=
  ⟨rfl, rfl, fun _ => rfl⟩

namespace Parser

variable {α β : Type}

theorem characterPiece_alike
    {sameTrees : Prop}
    {flags flags' : Flags}
    (alike : Flags.Alike sameTrees flags flags')
    (test : CharacterTest) :
    Piece.Alike sameTrees (characterPiece flags test) (characterPiece flags' test) where
  width := rfl
  role := rfl
  tree wanted := by
    rw [alike.same wanted]

theorem anchorPiece_alike
    {sameTrees : Prop}
    {anchor anchor' : Anchor}
    (same : sameTrees → anchor = anchor') :
    Piece.Alike sameTrees (anchorPiece anchor) (anchorPiece anchor') where
  width := rfl
  role := rfl
  tree wanted := by
    rw [same wanted]

/-! ## Limits of the steps -/

theorem run_takeClass_of_end
    {inClass : Char → Bool}
    {reading : Reading}
    (atEnd : reading.rest = [])
    (limit : Nat) :
    (takeClass inClass limit).run reading = .ok ([], reading) := by
  cases limit with
  | zero =>
      rfl
  | succ limit =>
      rw [takeClass, run_bind_of_ok (run_peek _), atEnd]
      rfl

/-- A limit that reaches the end of the source takes the same characters as any other. -/
theorem run_takeClass_eq
    {inClass : Char → Bool}
    {reading : Reading}
    {limit limit' : Nat}
    (enough : reading.rest.length ≤ limit)
    (enough' : reading.rest.length ≤ limit') :
    (takeClass inClass limit).run reading = (takeClass inClass limit').run reading := by
  induction limit generalizing reading limit' with
  | zero =>
      have atEnd := List.eq_nil_of_length_eq_zero (Nat.le_zero.mp enough)
      rw [run_takeClass_of_end atEnd, run_takeClass_of_end atEnd]
  | succ limit inductionHypothesis =>
      cases limit' with
      | zero =>
          have atEnd := List.eq_nil_of_length_eq_zero (Nat.le_zero.mp enough')
          rw [run_takeClass_of_end atEnd, run_takeClass_of_end atEnd]
      | succ limit' =>
          refine run_bind_congr fun next later peeked => ?_
          obtain ⟨rfl, rfl⟩ := Prod.mk.inj (Except.ok.inj peeked)
          split
          · rename_i character comesNext
            split
            · refine run_bind_congr fun _ later taken => ?_
              have shorter := length_rest_lt_of_take_of_next comesNext taken
              have agree :
                  (takeClass inClass limit).run later = (takeClass inClass limit').run later :=
                inductionHypothesis (by omega) (by omega)
              rw [StateT.run_bind, StateT.run_bind, agree]
            · rfl
          · rfl

theorem ignoresLimit_takeClass
    (inClass : Char → Bool) :
    IgnoresLimit (takeClass inClass) :=
  fun _ _ _ below below' => run_takeClass_eq (Nat.le_of_lt below) (Nat.le_of_lt below')

/-- Taking all characters of a class does not need to stop at the last lexeme. -/
theorem takeWhole_eq
    (inClass : Char → Bool) :
    takeWhole inClass = get >>= fun reading => takeClass inClass (reading.rest.length + 1) := by
  funext reading
  exact run_takeClass_eq (Nat.le_refl _) (Nat.le_succ _)

theorem ignoresLimit_takeNameFrom
    (terminator : Char)
    (what : String)
    (found : List Char) :
    IgnoresLimit (takeNameFrom terminator what found) := by
  refine
    ignoresLimit_of_round (takeNameFrom terminator what)
      (fun found reading limit limit' agree => ?_) found
  refine run_bind_congr fun next later taken => ?_
  split
  · rfl
  · split
    · rfl
    · exact agree _ _ (length_rest_lt_of_take taken)

namespace Tracks

variable {pair : SourcePair} {related : α → α → Prop}

theorem failEscape
    (defect : String → Defect)
    (characters : List Char)
    (second : Parser α) :
    Tracks pair related (Parser.failEscape defect characters) second :=
  .fail _ _ _

/-! ## Names -/

theorem takeNameFrom
    (terminator : Char)
    (what : String)
    (found : List Char)
    (limit : Nat) :
    Tracks pair Eq
      (Parser.takeNameFrom terminator what found limit)
      (Parser.takeNameFrom terminator what found limit) := by
  induction limit generalizing found with
  | zero =>
      exact .fail _ _ _
  | succ limit inductionHypothesis =>
      refine take.bind_eq fun next => ?_
      split
      · split <;> exact .fail _ _ _
      · split
        · split
          · exact .fail _ _ _
          · exact .pure rfl
        · exact inductionHypothesis _

theorem takeName
    (terminator : Char)
    (what : String) :
    Tracks pair Eq (Parser.takeName terminator what) (Parser.takeName terminator what) :=
  limited (ignoresLimit_takeNameFrom _ _ _) (ignoresLimit_takeNameFrom _ _ _)
    (takeNameFrom terminator what [])

theorem requireName
    (name : List Char) :
    Tracks pair Eq (Parser.requireName name) (Parser.requireName name) := by
  unfold Parser.requireName
  split
  · exact .pure rfl
  · exact .fail _ _ _

theorem groupNamed?
    (name : List Char) :
    Tracks pair Eq (Parser.groupNamed? name) (Parser.groupNamed? name) :=
  get_bind_of_eq (fun _ => .pure rfl) fun _ _ _ alike => by
    rw [alike.names]

/-! ## Characters of a class -/

theorem takeClass
    (inClass : Char → Bool)
    (limit : Nat) :
    Tracks pair Eq (Parser.takeClass inClass limit) (Parser.takeClass inClass limit) := by
  induction limit with
  | zero =>
      exact .pure rfl
  | succ limit inductionHypothesis =>
      refine peek.bind_eq fun next => ?_
      split
      · split
        · exact take.bind_eq fun _ => inductionHypothesis.bind_eq fun _ => .pure rfl
        · exact .pure rfl
      · exact .pure rfl

theorem takeWhole
    (inClass : Char → Bool) :
    Tracks pair Eq (Parser.takeWhole inClass) (Parser.takeWhole inClass) := by
  rw [takeWhole_eq]
  exact limited (ignoresLimit_takeClass _) (ignoresLimit_takeClass _) (takeClass inClass)

/-! ## Escapes -/

theorem requireBeforeLookbehind
    (group : Nat) :
    Tracks pair Eq
      (Parser.requireBeforeLookbehind group) (Parser.requireBeforeLookbehind group) := by
  refine get_bind_of_eq (fun reading => ?_) fun front reading reading' alike => by
    simp only [alike.lookbehindGroups, alike.closedWidth?]
  simp only [fail_bind]
  split
  · exact .pure rfl
  · split
    · exact .fail _ _ _
    · split
      · exact .fail _ _ _
      · exact .pure rfl

theorem referenceTo
    (group length : Nat) :
    Tracks pair Eq (Parser.referenceTo group length) (Parser.referenceTo group length) := by
  refine get_bind_of_eq (fun reading => ?_) fun front reading reading' alike => by
    simp only [alike.groupCount, alike.closedWidth?]
  simp only [fail_bind]
  split
  · split
    · exact .fail _ _ _
    · exact (requireBeforeLookbehind group).bind_eq fun _ => .pure rfl
  · exact .fail _ _ _

theorem hexEscape
    (letter : Char)
    (count : Nat) :
    Tracks pair Eq (Parser.hexEscape letter count) (Parser.hexEscape letter count) := by
  refine (takeClass _ _).bind_eq fun digits => ?_
  simp only
  split
  · exact .failEscape _ _ _
  · split
    · exact .failEscape _ _ _
    · exact .pure rfl

theorem octalEscape
    (first : Char) :
    Tracks pair Eq (Parser.octalEscape first) (Parser.octalEscape first) := by
  refine (takeClass _ _).bind_eq fun digits => ?_
  simp only
  split
  · exact .failEscape _ _ _
  · exact .pure rfl

theorem nameEscape :
    Tracks pair Eq Parser.nameEscape Parser.nameEscape := by
  refine (accept _).bind_eq fun accepted => ?_
  simp only [fail_bind]
  split
  · refine (takeName _ _).bind_eq fun name => ?_
    split
    · exact .pure rfl
    · exact .fail _ _ _
  · exact .fail _ _ _

theorem commonEscape
    (letter : Char) :
    Tracks pair Eq (Parser.commonEscape letter) (Parser.commonEscape letter) := by
  unfold Parser.commonEscape
  split
  · exact hexEscape _ _
  · exact hexEscape _ _
  · exact hexEscape _ _
  · exact nameEscape
  · split
    · exact .failEscape _ _ _
    · exact .pure rfl

theorem setEscape
    (letter : Char) :
    Tracks pair Eq (Parser.setEscape letter) (Parser.setEscape letter) := by
  unfold Parser.setEscape
  split
  · exact .pure rfl
  · split
    · exact .pure rfl
    · exact .pure rfl
    · split
      · exact octalEscape _
      · exact commonEscape _

theorem numberEscape
    (first : Char) :
    Tracks pair Eq (Parser.numberEscape first) (Parser.numberEscape first) := by
  refine (takeClass _ _).bind_eq fun digits => ?_
  split
  · split
    · refine (takeClass _ _).bind_eq fun more => ?_
      split
      · simp only
        split
        · exact .failEscape _ _ _
        · exact .pure rfl
      · exact referenceTo _ _
    · exact referenceTo _ _
  · exact referenceTo _ _

theorem escape
    (letter : Char) :
    Tracks pair Eq (Parser.escape letter) (Parser.escape letter) := by
  unfold Parser.escape
  split
  · exact .pure rfl
  · exact .pure rfl
  · exact .pure rfl
  · exact .pure rfl
  · exact (takeClass _ _).bind_eq fun _ => .pure rfl
  · split
    · exact .pure rfl
    · exact .pure rfl
    · split
      · exact numberEscape _
      · exact commonEscape _

variable {flags flags' : Flags}

theorem referencePiece
    (alike : Flags.Alike pair.sameTrees flags flags')
    (group : Nat) :
    Tracks pair (Piece.Alike pair.sameTrees)
      (Parser.referencePiece flags group) (Parser.referencePiece flags' group) := by
  refine get_bind_of_eq (fun reading => .pure ⟨rfl, rfl, fun wanted => ?_⟩)
    fun front reading reading' alike => by
      simp only [alike.closedWidth?]
  rw [alike.same wanted]

theorem escapePiece
    (alike : Flags.Alike pair.sameTrees flags flags')
    (letter : Char) :
    Tracks pair (Piece.Alike pair.sameTrees)
      (Parser.escapePiece flags letter) (Parser.escapePiece flags' letter) := by
  refine (escape letter).bind_eq fun found => ?_
  split
  · exact .pure (characterPiece_alike alike _)
  · exact .pure (characterPiece_alike alike _)
  · exact .pure (anchorPiece_alike fun wanted => by rw [alike.same wanted])
  · exact .pure (anchorPiece_alike fun _ => rfl)
  · exact .pure (anchorPiece_alike fun _ => rfl)
  · exact referencePiece alike _

end Tracks

end Parser

end ProseRules.Regex
