import ProseRules.Proofs.Regex.SourceOpenings

namespace ProseRules.Regex

/-!
# Trees on two sources

The nested parts of the grammar track themselves by induction on their depth. The second source
may be a whole expression, whose flags hold for its branches, while the first one is read inside
of a group.
-/

/-- Branches that differ in their trees at most, and not where the trees matter. -/
structure Branch.Alike (sameTrees : Prop) (first second : Tree × Width) : Prop where
  width : first.2 = second.2
  tree : sameTrees → first.1 = second.1

theorem Branch.Alike.refl
    {sameTrees : Prop}
    (branch : Tree × Width) :
    Branch.Alike sameTrees branch branch :=
  ⟨rfl, fun _ => rfl⟩

namespace Parser

theorem sequenceOf_alike
    {sameTrees : Prop}
    {pieces pieces' : List Piece}
    (alike : List.Forall₂ (Piece.Alike sameTrees) pieces pieces') :
    Branch.Alike sameTrees (sequenceOf pieces) (sequenceOf pieces') := by
  have widths : pieces.map Piece.width = pieces'.map Piece.width := by
    induction alike with
    | nil => rfl
    | cons last _ inductionHypothesis => simp only [List.map_cons, last.width, inductionHypothesis]
  have trees (wanted : sameTrees) : pieces.map Piece.tree = pieces'.map Piece.tree := by
    clear widths
    induction alike with
    | nil => rfl
    | cons last _ inductionHypothesis =>
        simp only [List.map_cons, last.tree wanted, inductionHypothesis]
  have folded (pieces : List Piece) :
      (sequenceOf pieces).2 = ((pieces.map Piece.width).reverse.foldl Width.add .zero).capped := by
    rw [← List.map_reverse, List.foldl_map]
    rfl
  have joined (pieces : List Piece) :
      (sequenceOf pieces).1 = .all (pieces.map Piece.tree).reverse := by
    rw [← List.map_reverse]
    rfl
  constructor
  · rw [folded, folded, widths]
  · intro wanted
    rw [joined, joined, trees wanted]

theorem choiceOf_alike
    {sameTrees : Prop}
    {branches branches' : List (Tree × Width)}
    (alike : List.Forall₂ (Branch.Alike sameTrees) branches branches') :
    Branch.Alike sameTrees (choiceOf branches) (choiceOf branches') := by
  induction alike with
  | nil =>
      exact .refl _
  | cons first rest inductionHypothesis =>
      cases rest with
      | nil =>
          exact first
      | cons second later =>
          constructor
          · simp only [choiceOf, first.width, inductionHypothesis.width]
          · intro wanted
            simp only [choiceOf, first.tree wanted, inductionHypothesis.tree wanted]

/-- The nested parts of the grammar track themselves down to a depth. -/
structure TracksTo (pair : SourcePair) (depth : Nat) : Prop where
  sequence {flags flags' : Flags} {pieces pieces' : List Piece} (mayBeGlobal : Bool) :
    Flags.Alike pair.sameTrees flags flags' →
      List.Forall₂ (Piece.Alike pair.sameTrees) pieces pieces' →
        Tracks pair (Branch.Alike pair.sameTrees)
          (sequence false flags pieces depth) (sequence mayBeGlobal flags' pieces' depth)
  branchesFrom {flags flags' : Flags} (outermost first first' : Bool) :
    Flags.Alike pair.sameTrees flags (if outermost then pair.secondFlags else flags') →
      Tracks pair (List.Forall₂ (Branch.Alike pair.sameTrees))
        (branchesFrom false first flags depth) (branchesFrom outermost first' flags' depth)
  choice {flags flags' : Flags} (outermost : Bool) :
    Flags.Alike pair.sameTrees flags (if outermost then pair.secondFlags else flags') →
      Tracks pair (Branch.Alike pair.sameTrees)
        (choice false flags depth) (choice outermost flags' depth)
  group {flags flags' : Flags} (start start' : Nat) (opening : Opening) :
    Flags.Alike pair.sameTrees flags flags' →
      Tracks pair (Piece.Alike pair.sameTrees)
        (group flags start opening depth) (group flags' start' opening depth)

namespace TracksTo

private theorem allRefl
    {α : Type}
    {alike : α → α → Prop}
    (reflexive : ∀ part, alike part part) :
    ∀ parts, List.Forall₂ alike parts parts :=
  fun _ => List.forall₂_same.mpr fun part _ => reflexive part

variable {pair : SourcePair} {depth : Nat} {flags flags' : Flags}

theorem zero :
    TracksTo pair 0 where
  sequence _ _ alike := .pure (sequenceOf_alike alike)
  branchesFrom _ _ _ _ := .pure .nil
  choice _ _ := .pure (.refl _)
  group _ _ _ _ := .pure (.refl _)

theorem choice_succ
    (tracks : TracksTo pair depth)
    (outermost : Bool)
    (alike : Flags.Alike pair.sameTrees flags (if outermost then pair.secondFlags else flags')) :
    Tracks pair (Branch.Alike pair.sameTrees)
      (Parser.choice false flags (depth + 1)) (Parser.choice outermost flags' (depth + 1)) := by
  simp only [Parser.choice]
  exact (tracks.branchesFrom outermost true true alike).bind
    (allRefl .refl)
    fun _ _ branchesAlike => .pure (choiceOf_alike branchesAlike)

theorem branchesFrom_succ
    (tracks : TracksTo pair depth)
    (outermost first first' : Bool)
    (alike : Flags.Alike pair.sameTrees flags (if outermost then pair.secondFlags else flags')) :
    Tracks pair (List.Forall₂ (Branch.Alike pair.sameTrees))
      (Parser.branchesFrom false first flags (depth + 1))
      (Parser.branchesFrom outermost first' flags' (depth + 1)) := by
  have laterAlike :
      Flags.Alike pair.sameTrees flags
        (if outermost then pair.secondFlags
          else if outermost then pair.secondFlags else flags') := by
    cases outermost <;> exact alike
  have tracksBranch (mayBeGlobal : Bool) :
      Tracks pair (List.Forall₂ (Branch.Alike pair.sameTrees))
        (do
          let branch ← Parser.sequence false flags [] depth
          if ← accept '|' then
            return branch :: (← Parser.branchesFrom false false flags depth)
          else
            return [branch])
        (do
          let branch ←
            Parser.sequence mayBeGlobal (if outermost then pair.secondFlags else flags') [] depth
          if ← accept '|' then
            return branch ::
              (← Parser.branchesFrom outermost false
                (if outermost then pair.secondFlags else flags') depth)
          else
            return [branch]) := by
    refine (tracks.sequence mayBeGlobal alike .nil).bind Branch.Alike.refl ?_
    intro branch branch' branchAlike
    refine (Tracks.accept _).bind_eq fun goesOn => ?_
    split
    · exact (tracks.branchesFrom outermost false false laterAlike).bind (allRefl .refl)
        fun _ _ restAlike => .pure (.cons branchAlike restAlike)
    · exact .pure (.cons branchAlike .nil)
  simp only [Parser.branchesFrom]
  refine .get_bind (fun reading => ?_) fun front reading reading' alikeRead => ?_
  · exact (tracksBranch true).shortens
  · rw [alikeRead.flags]
    exact (tracksBranch _).follows front reading reading' alikeRead

theorem sequence_succ
    (tracks : TracksTo pair depth)
    {pieces pieces' : List Piece}
    (mayBeGlobal : Bool)
    (alike : Flags.Alike pair.sameTrees flags flags')
    (piecesAlike : List.Forall₂ (Piece.Alike pair.sameTrees) pieces pieces') :
    Tracks pair (Branch.Alike pair.sameTrees)
      (Parser.sequence false flags pieces (depth + 1))
      (Parser.sequence mayBeGlobal flags' pieces' (depth + 1)) := by
  have ends : Tracks pair (Branch.Alike pair.sameTrees)
      (Pure.pure (sequenceOf pieces)) (Pure.pure (sequenceOf pieces')) :=
    .pure (sequenceOf_alike piecesAlike)
  have goesOnFrom {pieces pieces' : List Piece}
      (piecesAlike : List.Forall₂ (Piece.Alike pair.sameTrees) pieces pieces') :
      Tracks pair (Branch.Alike pair.sameTrees)
        (Parser.sequence false flags pieces depth)
        (Parser.sequence mayBeGlobal flags' pieces' depth) :=
    tracks.sequence mayBeGlobal alike piecesAlike
  have goesOn {piece piece' : Piece} (pieceAlike : Piece.Alike pair.sameTrees piece piece') :
      Tracks pair (Branch.Alike pair.sameTrees)
        (Parser.sequence false flags (piece :: pieces) depth)
        (Parser.sequence mayBeGlobal flags' (piece' :: pieces') depth) :=
    goesOnFrom (.cons pieceAlike piecesAlike)
  simp only [Parser.sequence]
  refine Tracks.peek.bind_eq fun next => ?_
  split
  · exact ends
  · exact ends
  · exact ends
  · exact ends
  · exact Tracks.take.bind_eq fun _ =>
      (Tracks.escapePiece alike _).bind Piece.Alike.refl fun _ _ => goesOn
  · refine Tracks.take.bind_eq fun _ => ?_
    simp only [alike.verbose]
    split
    · exact goesOnFrom piecesAlike
    · split
      · exact Tracks.limited_bind (ignoresLimit_skipPast _) (ignoresLimit_skipPast _)
          (Tracks.skipPast _) fun _ => goesOnFrom piecesAlike
      · split
        · exact (Tracks.setPiece alike).bind Piece.Alike.refl fun _ _ => goesOn
        · exact (Tracks.repeatLast alike _ piecesAlike).bind (allRefl .refl) fun _ _ => goesOnFrom
        · exact (Tracks.repeatLast alike _ piecesAlike).bind (allRefl .refl) fun _ _ => goesOnFrom
        · exact (Tracks.repeatLast alike _ piecesAlike).bind (allRefl .refl) fun _ _ => goesOnFrom
        · exact (Tracks.repeatLast alike _ piecesAlike).bind (allRefl .refl) fun _ _ => goesOnFrom
        · exact goesOn ⟨rfl, rfl, fun wanted => by rw [alike.same wanted]⟩
        · exact goesOn ⟨rfl, rfl, fun wanted => by rw [alike.same wanted]⟩
        · exact goesOn ⟨rfl, rfl, fun wanted => by rw [alike.same wanted]⟩
        · refine Tracks.remaining.bind (fun _ => trivial) fun here here' _ => ?_
          refine Tracks.opening_bind ?_ (fun opening opening' openingAlike => ?_) alike _ _
          · exact .failBefore _ _
          · cases openingAlike with
            | complete foundAlike =>
                exact goesOnFrom (List.rel_append foundAlike piecesAlike)
            | same =>
                cases opening with
                | globalFlags =>
                    exact .failBefore _ _ _
                | complete found =>
                    exact goesOnFrom (List.rel_append (allRefl .refl found) piecesAlike)
                | _ =>
                    exact (tracks.group _ _ _ alike).bind Piece.Alike.refl fun _ _ => goesOn
        · exact goesOn (characterPiece_alike alike _)

/-- The choice inside of a group, its end, and what is made of it. -/
theorem choice_endGroup
    {α : Type}
    {related : α → α → Prop}
    (tracks : TracksTo pair depth)
    (alike : Flags.Alike pair.sameTrees flags flags')
    (start start' : Nat)
    {next next' : Tree × Width → Parser α}
    (nextTracks :
      ∀ inner inner',
        Branch.Alike pair.sameTrees inner inner' →
          Tracks pair related (next inner) (next' inner')) :
    Tracks pair related
      (do
        let inner ← Parser.choice false flags depth
        endGroup start
        next inner)
      (do
        let inner ← Parser.choice false flags' depth
        endGroup start'
        next' inner) :=
  (tracks.choice false alike).bind Branch.Alike.refl fun inner inner' innerAlike =>
    (Tracks.endGroup start start').bind_eq fun _ => nextTracks inner inner' innerAlike

/-- Groups that look around the place. -/
theorem group_look_succ
    (tracks : TracksTo pair depth)
    (start start' : Nat)
    (ahead negated : Bool)
    (alike : Flags.Alike pair.sameTrees flags flags') :
    Tracks pair (Piece.Alike pair.sameTrees)
      (Parser.group flags start (.look ahead negated) (depth + 1))
      (Parser.group flags' start' (.look ahead negated) (depth + 1)) := by
  simp only [Parser.group]
  refine .get_bind_of_eq (fun reading => ?_) fun front reading reading' alikeRead => by
    simp only [alikeRead.lookbehindGroups]
  cases ahead with
  | true =>
      refine tracks.choice_endGroup alike _ _ fun inner inner' innerAlike => ?_
      refine .pure ⟨rfl, rfl, fun wanted => ?_⟩
      rw [innerAlike.tree wanted, innerAlike.width]
  | false =>
      simp only [Bool.false_eq_true, if_false]
      refine (Tracks.modify ?_ ?_).bind_eq fun _ => ?_
      · exact fun _ => rfl
      · intro front first second alikeRead
        exact { alikeRead with lookbehindGroups := by rw [alikeRead.groupCount] }
      refine (tracks.choice false alike).bind Branch.Alike.refl ?_
      intro inner inner' innerAlike
      refine (Tracks.modify ?_ ?_).bind_eq fun _ => ?_
      · exact fun _ => rfl
      · intro front first second alikeRead
        exact { alikeRead with lookbehindGroups := rfl }
      refine (Tracks.endGroup _ _).bind_eq fun _ => .pure ⟨rfl, rfl, fun wanted => ?_⟩
      rw [innerAlike.tree wanted, innerAlike.width]

/-- Groups that depend on whether another one has matched. -/
theorem group_condition_succ
    (tracks : TracksTo pair depth)
    (start start' number : Nat)
    (alike : Flags.Alike pair.sameTrees flags flags') :
    Tracks pair (Piece.Alike pair.sameTrees)
      (Parser.group flags start (.condition number) (depth + 1))
      (Parser.group flags' start' (.condition number) (depth + 1)) := by
  simp only [Parser.group]
  refine (tracks.sequence false alike .nil).bind Branch.Alike.refl ?_
  intro matched matched' matchedAlike
  refine (Tracks.accept _).bind_eq fun hasOther => ?_
  split
  · refine (tracks.sequence false alike .nil).bind Branch.Alike.refl ?_
    intro unmatched unmatched' unmatchedAlike
    refine Tracks.peek.bind_eq fun next => ?_
    simp only [fail_bind]
    split
    · exact .fail _ _ _
    · refine (Tracks.endGroup _ _).bind_eq fun _ => .pure ⟨?_, rfl, fun wanted => ?_⟩
      · simp only [matchedAlike.width, unmatchedAlike.width]
      · simp only [matchedAlike.tree wanted, unmatchedAlike.tree wanted]
  · refine (Tracks.endGroup _ _).bind_eq fun _ => .pure ⟨?_, rfl, fun wanted => ?_⟩
    · simp only [matchedAlike.width]
    · simp only [matchedAlike.tree wanted]

theorem group_succ
    (tracks : TracksTo pair depth)
    (start start' : Nat)
    (opening : Opening)
    (alike : Flags.Alike pair.sameTrees flags flags') :
    Tracks pair (Piece.Alike pair.sameTrees)
      (Parser.group flags start opening (depth + 1))
      (Parser.group flags' start' opening (depth + 1)) := by
  have plain {flags flags' : Flags} (alike : Flags.Alike pair.sameTrees flags flags') :
      Tracks pair (Piece.Alike pair.sameTrees)
        (do
          let inner ← Parser.choice false flags depth
          endGroup start
          return ⟨inner.1, inner.2, .other⟩)
        (do
          let inner ← Parser.choice false flags' depth
          endGroup start'
          return ⟨inner.1, inner.2, .other⟩) :=
    tracks.choice_endGroup alike start start' fun inner inner' innerAlike =>
      .pure ⟨innerAlike.width, rfl, innerAlike.tree⟩
  cases opening with
  | capturing name =>
      refine (Tracks.openGroup name).bind_eq fun number => ?_
      refine tracks.choice_endGroup alike _ _ fun inner inner' innerAlike => ?_
      rw [innerAlike.width]
      refine (Tracks.closeGroup number inner'.2).bind_eq fun _ => .pure ⟨rfl, rfl, fun wanted => ?_⟩
      rw [innerAlike.tree wanted]
  | atomic =>
      refine tracks.choice_endGroup alike _ _ fun inner inner' innerAlike => ?_
      refine .pure ⟨innerAlike.width, rfl, fun wanted => ?_⟩
      rw [innerAlike.tree wanted]
  | look ahead negated =>
      exact tracks.group_look_succ start start' ahead negated alike
  | condition number =>
      exact tracks.group_condition_succ start start' number alike
  | flags turnedOn turnedOff =>
      exact plain (alike.inGroup turnedOn turnedOff)
  | enclosing =>
      exact plain alike
  | complete found =>
      exact plain alike
  | globalFlags =>
      exact plain alike

end TracksTo

/-- The nested parts of the grammar track themselves. -/
theorem tracksTo
    (pair : SourcePair)
    (depth : Nat) :
    TracksTo pair depth := by
  induction depth with
  | zero =>
      exact .zero
  | succ depth inductionHypothesis =>
      exact
        { sequence := inductionHypothesis.sequence_succ
          branchesFrom := inductionHypothesis.branchesFrom_succ
          choice := inductionHypothesis.choice_succ
          group := inductionHypothesis.group_succ }

end Parser
end ProseRules.Regex
