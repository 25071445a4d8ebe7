import ProseRules.Proofs.Regex.SourceTrees

namespace ProseRules.Regex

/-!
# The depth of reading

Inside of a group the bound on the depth of the grammar does not matter once it is large enough
for the lexemes that follow. A lexeme is worth four levels: a sequence, a group, a choice and its
branches.
-/

namespace Parser

/-- A character that was accepted does not follow any more. -/
theorem length_rest_lt_of_accept
    {character : Char}
    {reading later : Reading}
    (accepted : (accept character).run reading = .ok (true, later)) :
    later.rest.length < reading.rest.length := by
  obtain ⟨rest, isCons, -, rfl⟩ := rest_of_accept accepted
  simp [isCons]

theorem shortens_escapePiece
    (flags : Flags)
    (letter : Char) :
    Shortens (escapePiece flags letter) :=
  (Tracks.escapePiece ⟨rfl, fun _ => rfl⟩ letter : Tracks ⟨[], [], {}, True⟩ _ _ _).shortens

theorem shortens_setPiece
    (flags : Flags) :
    Shortens (setPiece flags) :=
  (Tracks.setPiece ⟨rfl, fun _ => rfl⟩ : Tracks ⟨[], [], {}, True⟩ _ _ _).shortens

theorem shortens_skipPast
    (character : Char)
    (limit : Nat) :
    Shortens (skipPast character limit) :=
  (Tracks.skipPast character limit : Tracks ⟨[], [], {}, True⟩ _ _ _).shortens

theorem shortens_repeatLast
    (flags : Flags)
    (mark : Char)
    (pieces : List Piece) :
    Shortens (repeatLast flags mark pieces) :=
  (Tracks.repeatLast ⟨rfl, fun _ => rfl⟩ mark (List.forall₂_same.mpr fun piece _ => .refl piece) :
    Tracks ⟨[], [], {}, True⟩ _ _ _).shortens

theorem shortens_openGroup
    (name : Option (List Char)) :
    Shortens (openGroup name) :=
  (Tracks.openGroup name : Tracks ⟨[], [], {}, True⟩ _ _ _).shortens

theorem shortens_sequence
    (flags : Flags)
    (pieces : List Piece)
    (depth : Nat) :
    Shortens (sequence false flags pieces depth) :=
  ((tracksTo ⟨[], [], {}, True⟩ depth).sequence false ⟨rfl, fun _ => rfl⟩
    (List.forall₂_same.mpr fun piece _ => .refl piece)).shortens

theorem shortens_choice
    (flags : Flags)
    (depth : Nat) :
    Shortens (choice false flags depth) := by
  have alike : Flags.Alike True flags flags := ⟨rfl, fun _ => rfl⟩
  exact ((tracksTo ⟨[], [], {}, True⟩ depth).choice false alike).shortens

theorem shortens_group
    (flags : Flags)
    (start : Nat)
    (opening : Opening)
    (depth : Nat) :
    Shortens (group flags start opening depth) :=
  ((tracksTo ⟨[], [], {}, True⟩ depth).group start start opening ⟨rfl, fun _ => rfl⟩).shortens

/-- Two depths that are large enough for a reading lead to the same end. -/
structure DepthsAgree (depth depth' : Nat) : Prop where
  sequence {reading : Reading} (flags : Flags) (pieces : List Piece) :
    4 * reading.rest.length < depth →
      4 * reading.rest.length < depth' →
        (sequence false flags pieces depth).run reading =
          (sequence false flags pieces depth').run reading
  branchesFrom {reading : Reading} (first : Bool) (flags : Flags) :
    4 * reading.rest.length + 1 < depth →
      4 * reading.rest.length + 1 < depth' →
        (branchesFrom false first flags depth).run reading =
          (branchesFrom false first flags depth').run reading
  choice {reading : Reading} (flags : Flags) :
    4 * reading.rest.length + 2 < depth →
      4 * reading.rest.length + 2 < depth' →
        (choice false flags depth).run reading = (choice false flags depth').run reading
  group {reading : Reading} (flags : Flags) (start : Nat) (opening : Opening) :
    4 * reading.rest.length + 3 < depth →
      4 * reading.rest.length + 3 < depth' →
        (group flags start opening depth).run reading =
          (group flags start opening depth').run reading

namespace DepthsAgree

variable {depth depth' : Nat} {reading : Reading}

theorem choice_succ
    (agree : DepthsAgree depth depth')
    (flags : Flags)
    (enough : 4 * reading.rest.length + 2 < depth + 1)
    (enough' : 4 * reading.rest.length + 2 < depth' + 1) :
    (Parser.choice false flags (depth + 1)).run reading =
      (Parser.choice false flags (depth' + 1)).run reading := by
  simp only [Parser.choice]
  exact run_bind_eq_of_eq (agree.branchesFrom true flags (by omega) (by omega)) fun _ _ _ => rfl

theorem branchesFrom_succ
    (agree : DepthsAgree depth depth')
    (first : Bool)
    (flags : Flags)
    (enough : 4 * reading.rest.length + 1 < depth + 1)
    (enough' : 4 * reading.rest.length + 1 < depth' + 1) :
    (Parser.branchesFrom false first flags (depth + 1)).run reading =
      (Parser.branchesFrom false first flags (depth' + 1)).run reading := by
  simp only [Parser.branchesFrom]
  refine run_bind_congr fun _ _ got => ?_
  obtain ⟨rfl, rfl⟩ := Prod.mk.inj (Except.ok.inj got)
  simp only [Bool.false_and, Bool.false_eq_true, if_false]
  refine run_bind_eq_of_eq (agree.sequence flags [] (by omega) (by omega)) ?_
  intro branch later ofBranch
  have noLonger := (shortens_sequence flags [] depth' _ _ _ ofBranch).length_le
  refine run_bind_congr fun hasOther later accepted => ?_
  cases hasOther with
  | false =>
      rfl
  | true =>
      have shorter := length_rest_lt_of_accept accepted
      exact
        run_bind_eq_of_eq (agree.branchesFrom false flags (by omega) (by omega)) fun _ _ _ => rfl

theorem sequence_succ
    (agree : DepthsAgree depth depth')
    (flags : Flags)
    (pieces : List Piece)
    (enough : 4 * reading.rest.length < depth + 1)
    (enough' : 4 * reading.rest.length < depth' + 1) :
    (Parser.sequence false flags pieces (depth + 1)).run reading =
      (Parser.sequence false flags pieces (depth' + 1)).run reading := by
  have goesOn {later : Reading} (shorter : later.rest.length < reading.rest.length)
      (pieces : List Piece) :
      (Parser.sequence false flags pieces depth).run later =
        (Parser.sequence false flags pieces depth').run later :=
    agree.sequence flags pieces (by omega) (by omega)
  have repeats {later : Reading} (shorter : later.rest.length < reading.rest.length)
      (mark : Char) :
      (repeatLast flags mark pieces >>= fun pieces =>
          Parser.sequence false flags pieces depth).run later =
        (repeatLast flags mark pieces >>= fun pieces =>
          Parser.sequence false flags pieces depth').run later :=
    run_bind_congr fun repeated after ofMark => by
      have noLonger := (shortens_repeatLast flags mark pieces _ _ _ ofMark).length_le
      exact goesOn (by omega) repeated
  simp only [Parser.sequence]
  refine run_bind_congr fun next later peeked => ?_
  obtain ⟨rfl, rfl⟩ := Prod.mk.inj (Except.ok.inj peeked)
  split
  · rfl
  · rfl
  · rfl
  · rfl
  · rename_i letter comesNext
    refine run_bind_congr fun _ later taken => ?_
    have shorter := length_rest_lt_of_take_of_next comesNext taken
    refine run_bind_congr fun piece later ofEscape => ?_
    have noLonger := (shortens_escapePiece flags letter _ _ _ ofEscape).length_le
    exact goesOn (by omega) _
  · rename_i character _ _ comesNext
    refine run_bind_congr fun _ later taken => ?_
    have shorter := length_rest_lt_of_take_of_next comesNext taken
    split
    · exact goesOn shorter _
    · split
      · refine run_bind_congr fun _ _ got => ?_
        obtain ⟨rfl, rfl⟩ := Prod.mk.inj (Except.ok.inj got)
        refine run_bind_congr fun _ later skipped => ?_
        have noLonger := (shortens_skipPast '\n' _ _ _ _ skipped).length_le
        exact goesOn (by omega) _
      · split
        · refine run_bind_congr fun piece later ofSet => ?_
          have noLonger := (shortens_setPiece flags _ _ _ ofSet).length_le
          exact goesOn (by omega) _
        · exact repeats shorter _
        · exact repeats shorter _
        · exact repeats shorter _
        · exact repeats shorter _
        · exact goesOn shorter _
        · exact goesOn shorter _
        · exact goesOn shorter _
        · refine run_bind_congr fun _ _ got => ?_
          obtain ⟨rfl, rfl⟩ := Prod.mk.inj (Except.ok.inj got)
          refine run_bind_congr fun found later opened => ?_
          cases found with
          | globalFlags =>
              rfl
          | complete found =>
              have noLonger := length_rest_le_of_opening opened nofun
              exact goesOn (by omega) _
          | _ =>
              have noLonger := length_rest_le_of_opening opened nofun
              refine run_bind_eq_of_eq (agree.group _ _ _ (by omega) (by omega)) ?_
              intro piece later ofGroup
              have noLonger := (shortens_group _ _ _ depth' _ _ _ ofGroup).length_le
              exact goesOn (by omega) _
        · exact goesOn shorter _

/-- The inside of a group, whatever is made of it. -/
theorem choice_bind
    {α : Type}
    (agree : DepthsAgree depth depth')
    (flags : Flags)
    (enough : 4 * reading.rest.length + 3 < depth + 1)
    (enough' : 4 * reading.rest.length + 3 < depth' + 1)
    (next : Tree × Width → Parser α) :
    (Parser.choice false flags depth >>= next).run reading =
      (Parser.choice false flags depth' >>= next).run reading :=
  run_bind_eq_of_eq (agree.choice flags (by omega) (by omega)) fun _ _ _ => rfl

theorem group_succ
    (agree : DepthsAgree depth depth')
    (flags : Flags)
    (start : Nat)
    (opening : Opening)
    (enough : 4 * reading.rest.length + 3 < depth + 1)
    (enough' : 4 * reading.rest.length + 3 < depth' + 1) :
    (Parser.group flags start opening (depth + 1)).run reading =
      (Parser.group flags start opening (depth' + 1)).run reading := by
  simp only [Parser.group]
  cases opening with
  | capturing name =>
      refine run_bind_congr fun number later opened => ?_
      have noLonger := (shortens_openGroup name _ _ _ opened).length_le
      exact agree.choice_bind flags (by omega) (by omega) _
  | look ahead negated =>
      refine run_bind_congr fun outer later got => ?_
      obtain ⟨rfl, rfl⟩ := Prod.mk.inj (Except.ok.inj got)
      cases ahead with
      | true =>
          exact agree.choice_bind flags enough enough' _
      | false =>
          refine run_bind_congr fun _ later entered => ?_
          obtain ⟨-, rfl⟩ := Prod.mk.inj (Except.ok.inj entered)
          refine agree.choice_bind flags ?_ ?_ _
          · exact enough
          · exact enough'
  | condition number =>
      refine run_bind_eq_of_eq (agree.sequence flags [] (by omega) (by omega)) ?_
      intro matched later ofMatched
      have noLonger := (shortens_sequence flags [] depth' _ _ _ ofMatched).length_le
      refine run_bind_congr fun hasOther later accepted => ?_
      cases hasOther with
      | false =>
          rfl
      | true =>
          have shorter := length_rest_lt_of_accept accepted
          exact run_bind_eq_of_eq (agree.sequence flags [] (by omega) (by omega)) fun _ _ _ => rfl
  | _ =>
      exact agree.choice_bind _ enough enough' _

end DepthsAgree

/-- All depths that are large enough agree. -/
theorem depthsAgree
    (depth depth' : Nat) :
    DepthsAgree depth depth' := by
  induction depth generalizing depth' with
  | zero =>
      constructor <;> intros <;> omega
  | succ depth inductionHypothesis =>
      cases depth' with
      | zero =>
          constructor <;> intros <;> omega
      | succ depth' =>
          have agree := inductionHypothesis depth'
          exact
            { sequence := agree.sequence_succ
              branchesFrom := agree.branchesFrom_succ
              choice := agree.choice_succ
              group := agree.group_succ }

end Parser

end ProseRules.Regex
