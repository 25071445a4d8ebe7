import ProseRules.Regex.Search

namespace ProseRules.Regex

/-!
# Where occurrences lie

Matching goes on over the text and never leaves it. So an occurrence and the groups it
captures are ranges of the text, which end no earlier than they start.
-/

namespace Cursor

/-- Every capture is a range of the text. -/
def CapturesInside (cursor : Cursor) : Prop :=
  ∀ group start stop, (group, start, stop) ∈ cursor.captures →
    start ≤ stop ∧ stop ≤ cursor.text.length

/-- A cursor that was reached from another one: no earlier in the same text. -/
structure LeadsTo (origin reached : Cursor) : Prop where
  sameText : reached.text = origin.text
  notBefore : origin.position ≤ reached.position
  capturesInside : origin.CapturesInside → reached.CapturesInside

theorem LeadsTo.refl
    (cursor : Cursor) :
    cursor.LeadsTo cursor :=
  ⟨rfl, Nat.le_refl _, id⟩

theorem LeadsTo.trans
    {first second third : Cursor}
    (toSecond : first.LeadsTo second)
    (toThird : second.LeadsTo third) :
    first.LeadsTo third :=
  ⟨toThird.sameText.trans toSecond.sameText, Nat.le_trans toSecond.notBefore toThird.notBefore,
    fun inside => toThird.capturesInside (toSecond.capturesInside inside)⟩

theorem position_le_length
    (cursor : Cursor) :
    cursor.position ≤ cursor.text.length := by
  rw [text, List.length_append, List.length_reverse, cursor.position_eq]
  exact Nat.le_add_right _ _

theorem leadsTo_advance
    {cursor : Cursor}
    {c : Char}
    {after : List Char}
    (ahead : cursor.after = c :: after) :
    cursor.LeadsTo (cursor.advance c after) := by
  have sameText : (cursor.advance c after).text = cursor.text := by
    simp [text, advance, ahead]
  refine ⟨sameText, Nat.le_succ _, fun inside group start stop member => ?_⟩
  rw [sameText]
  exact inside group start stop member

/-- What was passed since a place can be captured. -/
theorem LeadsTo.capture
    {origin reached : Cursor}
    (leads : origin.LeadsTo reached)
    (group : Nat) :
    origin.LeadsTo (reached.capture group origin.position) := by
  refine ⟨leads.sameText, leads.notBefore, fun inside number start stop member => ?_⟩
  rcases List.mem_cons.mp member with isNew | wasCaptured
  · cases isNew
    exact ⟨leads.notBefore, reached.position_le_length⟩
  · exact leads.capturesInside inside number start stop wasCaptured

theorem text_of_back?
    {cursor origin : Cursor}
    {count : Nat}
    (isBack : cursor.back? count = some origin) :
    origin.text = cursor.text ∧ origin.captures = cursor.captures := by
  unfold back? at isBack
  split at isBack
  · cases isBack
    refine ⟨?_, rfl⟩
    rw [text, text, ← List.append_assoc, ← List.reverse_append, List.take_append_drop]
  · cases isBack

end Cursor

namespace Matcher

/-- The cursors that the rest of a match is tried at lie no earlier in the same text. -/
def GoesOn (matcher : Matcher) : Prop :=
  ∀ cursor onward result, matcher cursor onward = some result →
    ∃ reached : Cursor, cursor.LeadsTo reached ∧ onward reached = some result

variable {body : Matcher}

theorem goesOn_literally
    (comparison : Comparison)
    (expected : List Char) :
    GoesOn (literally comparison expected) := by
  induction expected with
  | nil =>
      intro cursor onward result matched
      exact ⟨cursor, .refl cursor, matched⟩
  | cons c expected inductionHypothesis =>
      intro cursor onward result matched
      unfold literally at matched
      split at matched
      · cases matched
      · rename_i ahead
        split at matched
        · obtain ⟨reached, leads, goesOn⟩ := inductionHypothesis _ _ _ matched
          exact ⟨reached, (Cursor.leadsTo_advance ahead).trans leads, goesOn⟩
        · cases matched

/-- A round followed by more rounds goes on if both do. -/
theorem GoesOn.sequence
    {next : Cursor → (Cursor → Option Cursor) → Option Cursor}
    (bodyGoesOn : GoesOn body)
    (nextGoesOn : GoesOn next)
    {cursor : Cursor}
    {onward : Cursor → Option Cursor}
    {result : Cursor}
    (matched : (body cursor fun reached => next reached onward) = some result) :
    ∃ reached : Cursor, cursor.LeadsTo reached ∧ onward reached = some result := by
  obtain ⟨between, toBetween, fromBetween⟩ := bodyGoesOn _ _ _ matched
  obtain ⟨reached, toReached, goesOn⟩ := nextGoesOn _ _ _ fromBetween
  exact ⟨reached, toBetween.trans toReached, goesOn⟩

theorem goesOn_greedily
    (bodyGoesOn : GoesOn body)
    (least : Nat)
    (most : Option Nat)
    (limit count : Nat)
    (last : Option Nat) :
    GoesOn (greedily body least most limit count last) := by
  induction limit generalizing count last with
  | zero =>
      intro cursor onward result matched
      exact ⟨cursor, .refl cursor, matched⟩
  | succ limit inductionHypothesis =>
      intro cursor onward result matched
      unfold greedily at matched
      split at matched
      · exact bodyGoesOn.sequence (inductionHypothesis _ _) matched
      · split at matched
        · rcases Option.or_eq_some_iff.mp matched with oneMore | ⟨_, ends⟩
          · exact bodyGoesOn.sequence (inductionHypothesis _ _) oneMore
          · exact ⟨cursor, .refl cursor, ends⟩
        · exact ⟨cursor, .refl cursor, matched⟩

theorem goesOn_lazily
    (bodyGoesOn : GoesOn body)
    (least : Nat)
    (most : Option Nat)
    (limit count : Nat)
    (last : Option Nat) :
    GoesOn (lazily body least most limit count last) := by
  induction limit generalizing count last with
  | zero =>
      intro cursor onward result matched
      exact ⟨cursor, .refl cursor, matched⟩
  | succ limit inductionHypothesis =>
      intro cursor onward result matched
      unfold lazily at matched
      split at matched
      · exact bodyGoesOn.sequence (inductionHypothesis _ _) matched
      · rcases Option.or_eq_some_iff.mp matched with ends | ⟨_, oneMore⟩
        · exact ⟨cursor, .refl cursor, ends⟩
        · split at oneMore
          · exact bodyGoesOn.sequence (inductionHypothesis _ _) oneMore
          · cases oneMore

theorem GoesOn.leadsTo
    (bodyGoesOn : GoesOn body)
    {cursor reached : Cursor}
    (matched : body cursor some = some reached) :
    cursor.LeadsTo reached := by
  obtain ⟨reached', leads, isReached⟩ := bodyGoesOn _ _ _ matched
  cases isReached
  exact leads

theorem leadsTo_exhaust
    (bodyGoesOn : GoesOn body)
    (least : Nat)
    (most : Option Nat)
    {limit count : Nat}
    {last : Option Nat}
    {cursor reached : Cursor}
    (matched : exhaust body least most limit count last cursor = some reached) :
    cursor.LeadsTo reached := by
  induction limit generalizing count last cursor with
  | zero =>
      cases matched
      exact .refl _
  | succ limit inductionHypothesis =>
      unfold exhaust at matched
      split at matched
      · split at matched
        · cases matched
        · rename_i between isBetween
          exact (bodyGoesOn.leadsTo isBetween).trans (inductionHypothesis matched)
      · split at matched
        · split at matched
          · cases matched
            exact .refl _
          · rename_i between isBetween
            exact (bodyGoesOn.leadsTo isBetween).trans (inductionHypothesis matched)
        · cases matched
          exact .refl _

end Matcher

namespace Tree

/-- A look around leaves the cursor where it is, with captures inside of the text. -/
theorem leadsTo_of_look
    {body : Matcher}
    (bodyGoesOn : Matcher.GoesOn body)
    {cursor origin reached : Cursor}
    (sameText : origin.text = cursor.text)
    (sameCaptures : origin.captures = cursor.captures)
    (matched : body origin some = some reached) :
    cursor.LeadsTo { cursor with captures := reached.captures } := by
  have leads := bodyGoesOn.leadsTo matched
  refine ⟨rfl, Nat.le_refl _, fun inside => ?_⟩
  have originInside : origin.CapturesInside := by
    intro group start stop member
    rw [sameText]
    exact inside group start stop (sameCaptures ▸ member)
  intro group start stop member
  have reachedInside := leads.capturesInside originInside group start stop member
  rw [leads.sameText, sameText] at reachedInside
  exact reachedInside

/-- What a tree is matched with lies after the cursor in the text. -/
theorem goesOn_matcher
    (tree : Tree) :
    Matcher.GoesOn tree.matcher := by
  induction tree with
  | empty =>
      intro cursor onward result matched
      exact ⟨cursor, .refl cursor, matched⟩
  | character comparison test =>
      intro cursor onward result matched
      simp only [matcher] at matched
      split at matched
      · cases matched
      · rename_i ahead
        split at matched
        · exact ⟨_, Cursor.leadsTo_advance ahead, matched⟩
        · cases matched
  | place anchor =>
      intro cursor onward result matched
      simp only [matcher] at matched
      split at matched
      · exact ⟨cursor, .refl cursor, matched⟩
      · cases matched
  | sequence first second firstGoesOn secondGoesOn =>
      intro cursor onward result matched
      exact firstGoesOn.sequence secondGoesOn matched
  | choice first second firstGoesOn secondGoesOn =>
      intro cursor onward result matched
      simp only [matcher] at matched
      rcases Option.or_eq_some_iff.mp matched with ofFirst | ⟨_, ofSecond⟩
      · exact firstGoesOn _ _ _ ofFirst
      · exact secondGoesOn _ _ _ ofSecond
  | loop least most eagerness body bodyGoesOn =>
      intro cursor onward result matched
      cases eagerness with
      | greedy =>
          exact Matcher.goesOn_greedily bodyGoesOn _ _ _ _ _ _ _ _ matched
      | lazy =>
          exact Matcher.goesOn_lazily bodyGoesOn _ _ _ _ _ _ _ _ matched
      | possessive =>
          obtain ⟨reached, exhausts, goesOn⟩ := Option.bind_eq_some_iff.mp matched
          exact ⟨reached, Matcher.leadsTo_exhaust bodyGoesOn _ _ exhausts, goesOn⟩
  | group number body bodyGoesOn =>
      intro cursor onward result matched
      obtain ⟨reached, leads, goesOn⟩ := bodyGoesOn _ _ _ matched
      exact ⟨_, leads.capture number, goesOn⟩
  | backReference comparison number =>
      intro cursor onward result matched
      simp only [matcher] at matched
      split at matched
      · cases matched
      · exact Matcher.goesOn_literally _ _ _ _ _ matched
  | ifGroup number matched unmatched matchedGoesOn unmatchedGoesOn =>
      intro cursor onward result isMatched
      simp only [matcher] at isMatched
      split at isMatched
      · exact matchedGoesOn _ _ _ isMatched
      · exact unmatchedGoesOn _ _ _ isMatched
  | look direction negated body bodyGoesOn =>
      intro cursor onward result matched
      simp only [matcher] at matched
      split at matched
      · rename_i reached isReached
        split at matched
        · cases matched
        · -- The rest goes on from the cursor itself, only with the captures of the body.
          obtain ⟨origin, isOrigin, bodyMatched⟩ := Option.bind_eq_some_iff.mp isReached
          refine ⟨_, ?_, matched⟩
          cases direction with
          | ahead =>
              cases isOrigin
              exact leadsTo_of_look bodyGoesOn rfl rfl bodyMatched
          | behind width =>
              obtain ⟨sameText, sameCaptures⟩ := Cursor.text_of_back? isOrigin
              exact leadsTo_of_look bodyGoesOn sameText sameCaptures bodyMatched
      · split at matched
        · exact ⟨cursor, .refl cursor, matched⟩
        · cases matched
  | atomic body bodyGoesOn =>
      intro cursor onward result matched
      obtain ⟨reached, bodyMatched, goesOn⟩ := Option.bind_eq_some_iff.mp matched
      exact ⟨reached, bodyGoesOn.leadsTo bodyMatched, goesOn⟩

theorem leadsTo_of_matchAt
    {tree : Tree}
    {mustMove : Bool}
    {origin reached : Cursor}
    (matched : tree.matchAt mustMove origin = some reached) :
    origin.LeadsTo reached := by
  obtain ⟨reached', leads, isReached⟩ := goesOn_matcher tree _ _ _ matched
  split at isReached
  · cases isReached
  · cases isReached
    exact leads

/-- A match that is searched for starts in the text no earlier than the search. -/
theorem exists_leadsTo_of_search
    {tree : Tree}
    {mustMove : Bool}
    {origin : Cursor}
    {after : List Char}
    (ahead : origin.after = after)
    {start : Nat}
    {reached : Cursor}
    (found : searchFrom.search tree mustMove origin after = some (start, reached)) :
    ∃ between : Cursor,
      origin.LeadsTo between ∧ between.position = start ∧ between.LeadsTo reached := by
  induction after generalizing origin mustMove with
  | nil =>
      obtain ⟨reached', matched, isReached⟩ := Option.map_eq_some_iff.mp found
      cases isReached
      exact ⟨origin, .refl origin, rfl, leadsTo_of_matchAt matched⟩
  | cons c after inductionHypothesis =>
      simp only [searchFrom.search] at found
      split at found
      · rename_i matched
        cases found
        exact ⟨origin, .refl origin, rfl, leadsTo_of_matchAt matched⟩
      · have nextAhead : (origin.advance c after).after = after := rfl
        obtain ⟨between, leads, isStart, toReached⟩ := inductionHypothesis nextAhead found
        exact ⟨between, (Cursor.leadsTo_advance ahead).trans leads, isStart, toReached⟩

end Tree

/-- The occurrence and its groups are ranges of a text of some length. -/
structure Occurrence.Inside (occurrence : Occurrence) (length : Nat) : Prop where
  inOrder : occurrence.start ≤ occurrence.stop
  stop_le : occurrence.stop ≤ length
  captures :
    ∀ group start stop, (group, start, stop) ∈ occurrence.captures → start ≤ stop ∧ stop ≤ length

namespace Tree

theorem inside_of_mem_occurrencesFrom
    {tree : Tree}
    {limit : Nat}
    {mustMove : Bool}
    {origin : Cursor}
    (capturesInside : origin.CapturesInside)
    {occurrence : Occurrence}
    (member : occurrence ∈ tree.occurrencesFrom limit mustMove origin) :
    occurrence.Inside origin.text.length := by
  induction limit generalizing mustMove origin with
  | zero =>
      simp [occurrencesFrom] at member
  | succ limit inductionHypothesis =>
      simp only [occurrencesFrom] at member
      split at member
      · simp at member
      · rename_i start reached found
        obtain ⟨between, toBetween, rfl, toReached⟩ := exists_leadsTo_of_search rfl found
        have leads := toBetween.trans toReached
        rcases List.mem_cons.mp member with rfl | later
        · refine ⟨toReached.notBefore, ?_, fun group start stop isCapture => ?_⟩
          · rw [← leads.sameText]
            exact reached.position_le_length
          · rw [← leads.sameText]
            exact leads.capturesInside capturesInside group start stop isCapture
        · have noCaptures : ({ reached with captures := [] } : Cursor).CapturesInside := by
            intro group start stop isCapture
            simp at isCapture
          have laterInside := inductionHypothesis noCaptures later
          rw [← leads.sameText]
          exact laterInside

end Tree

theorem Occurrence.Inside.span?_inside
    {occurrence : Occurrence}
    {length : Nat}
    (inside : occurrence.Inside length)
    {group start stop : Nat}
    (isSpan : occurrence.span? group = some (start, stop)) :
    start ≤ stop ∧ stop ≤ length := by
  unfold span? at isSpan
  split at isSpan
  · cases isSpan
    exact ⟨inside.inOrder, inside.stop_le⟩
  · obtain ⟨earlier, later, split, _⟩ := List.lookup_eq_some_iff.mp isSpan
    refine inside.captures group start stop ?_
    rw [split]
    exact List.mem_append_right _ List.mem_cons_self

/-- The occurrences of an expression are ranges of the text. -/
theorem Expression.inside_of_mem_occurrences
    {expression : Expression}
    {text : List Char}
    {occurrence : Occurrence}
    (member : occurrence ∈ expression.occurrences text) :
    occurrence.Inside text.length := by
  have noCaptures : (Cursor.atStart text).CapturesInside := by
    intro group start stop isCapture
    simp [Cursor.atStart] at isCapture
  exact Tree.inside_of_mem_occurrencesFrom noCaptures member

end ProseRules.Regex
