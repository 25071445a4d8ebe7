import ProseRules.Proofs.Message.Markup
import ProseRules.Proofs.Regex.LiteralSearch

namespace ProseRules.Regex

/-!
# Searching for a text between tags

An expression for anything between two tags, as little as possible, is matched from the
first opening tag that a closing tag follows up to the first of these closing tags. So its
occurrences in a message are the suggestions of the message.
-/

namespace Cursor

/-- The cursor between two parts of a text. -/
def parting (before after : List Char) (captures : List (Nat × Nat × Nat) := []) : Cursor where
  before := before.reverse
  after := after
  captures := captures
  position := before.length
  position_eq := by simp

@[simp] theorem after_parting
    (before after : List Char)
    (captures : List (Nat × Nat × Nat)) :
    (parting before after captures).after = after :=
  rfl

@[simp] theorem position_parting
    (before after : List Char)
    (captures : List (Nat × Nat × Nat)) :
    (parting before after captures).position = before.length :=
  rfl

@[simp] theorem captures_parting
    (before after : List Char)
    (captures : List (Nat × Nat × Nat)) :
    (parting before after captures).captures = captures :=
  rfl

@[simp] theorem advance_parting
    {before after rest : List Char}
    {captures : List (Nat × Nat × Nat)}
    (c : Char) :
    (parting before after captures).advance c rest = parting (before ++ [c]) rest captures := by
  simp [parting, advance]

/-- The cursor after a matched text between tags, which is captured. -/
def afterEnclosed (opening closing before inside later : List Char) : Cursor :=
  .parting (before ++ opening ++ inside ++ closing) later
    [(1, (before ++ opening).length, (before ++ opening ++ inside).length)]

end Cursor

namespace Tree

/-- Trees in a row are matched one after another. -/
theorem matcher_all_append
    (trees others : List Tree)
    (cursor : Cursor)
    (onward : Cursor → Option Cursor) :
    (all (trees ++ others)).matcher cursor onward =
      (all trees).matcher cursor fun reached => (all others).matcher reached onward := by
  induction trees generalizing cursor with
  | nil =>
      rfl
  | cons tree trees inductionHypothesis =>
      cases trees with
      | nil =>
          cases others with
          | nil =>
              rfl
          | cons other others =>
              rfl
      | cons next trees =>
          change
            tree.matcher cursor
                (fun reached => (all (next :: trees ++ others)).matcher reached onward) =
              tree.matcher cursor fun reached =>
                (all (next :: trees)).matcher reached fun reached =>
                  (all others).matcher reached onward
          simp only [inductionHypothesis]

/-- A literal in which case counts is passed if it comes next. -/
theorem matcher_literal_parting
    (text before after : List Char)
    (captures : List (Nat × Nat × Nat))
    (onward : Cursor → Option Cursor) :
    (literal ⟨false, false⟩ text).matcher (.parting before (text ++ after) captures) onward =
      onward (.parting (before ++ text) after captures) := by
  induction text generalizing before with
  | nil =>
      rw [List.append_nil]
      rfl
  | cons c text inductionHypothesis =>
      have isSame : (CharacterTest.single c.toNat false).holds ⟨false, false⟩ c = true :=
        CharacterTest.holds_single_iff.mpr (List.mem_singleton_self c)
      rw [matcher_literal_cons]
      simp only [matcher, Cursor.after_parting, List.cons_append, isSame, if_true]
      rw [Cursor.advance_parting, inductionHypothesis, List.append_assoc, List.singleton_append]

/-- A literal in which case counts is matched only if it comes next. -/
theorem matcher_literal_of_other
    {text : List Char}
    {cursor : Cursor}
    (other : ¬text <+: cursor.after)
    (onward : Cursor → Option Cursor) :
    (literal ⟨false, false⟩ text).matcher cursor onward = none := by
  induction text generalizing cursor with
  | nil =>
      exact absurd List.nil_prefix other
  | cons c text inductionHypothesis =>
      rw [matcher_literal_cons]
      simp only [matcher]
      cases ahead : cursor.after with
      | nil =>
          rfl
      | cons found after =>
          dsimp only
          split
          · rename_i holds
            obtain rfl := List.mem_singleton.mp (CharacterTest.holds_single_iff.mp holds)
            refine inductionHypothesis fun isNext => other ?_
            rw [ahead]
            exact List.cons_prefix_cons.mpr ⟨rfl, isNext⟩
          · rfl

section Search

variable {tree : Tree} {mustMove : Bool} {origin : Cursor}

theorem search_of_matchAt
    {reached : Cursor}
    (matched : tree.matchAt mustMove origin = some reached)
    (after : List Char) :
    searchFrom.search tree mustMove origin after = some (origin.position, reached) := by
  cases after <;> simp [searchFrom.search, matched]

theorem search_cons_of_matchAt
    (noMatch : tree.matchAt mustMove origin = none)
    (c : Char)
    (after : List Char) :
    searchFrom.search tree mustMove origin (c :: after) =
      searchFrom.search tree false (origin.advance c after) after := by
  rw [searchFrom.search, noMatch]

end Search

/-- Any character. -/
def anyCharacter : Tree :=
  character ⟨false, false⟩ .anything

/--
As few characters as possible are passed before a tag that has to come next: they are the
ones before the place where the tag cuts what follows.
-/
theorem lazily_anyCharacter
    {tag : List Char}
    (nonempty : tag ≠ [])
    {onward : Cursor → Option Cursor}
    (captures : List (Nat × Nat × Nat))
    (succeed : List Char → List Char → Cursor)
    (before after : List Char)
    (accepts :
      ∀ inside later,
        onward (.parting (before ++ inside) (tag ++ later) captures) =
          some (succeed inside later))
    (refuses :
      ∀ inside later,
        ¬tag <+: later → onward (.parting (before ++ inside) later captures) = none)
    {limit count : Nat}
    (enough : after.length < limit)
    {last : Option Nat}
    (moved : ∀ place ∈ last, place < before.length) :
    Matcher.lazily anyCharacter.matcher 0 none limit count last
        (.parting before after captures) onward =
      (cutAt? tag after).map fun (inside, later) => succeed inside later := by
  induction after generalizing before succeed limit count last with
  | nil =>
      obtain ⟨limit, rfl⟩ := Nat.exists_eq_succ_of_ne_zero (Nat.ne_of_gt enough)
      have refused := refuses [] [] (by simpa using nonempty)
      rw [List.append_nil] at refused
      simp [Matcher.lazily, refused, anyCharacter, matcher, cutAt?, nonempty]
  | cons c after inductionHypothesis =>
      obtain ⟨limit, rfl⟩ := Nat.exists_eq_add_one.mpr (Nat.zero_lt_of_lt enough)
      rw [Matcher.lazily, if_neg (Nat.not_lt_zero _)]
      by_cases begins : tag <+: c :: after
      · have accepted := accepts [] ((c :: after).drop tag.length)
        rw [List.append_nil, List.prefix_iff_eq_append.mp begins] at accepted
        rw [cutAt?_cons_of_begins begins, accepted]
        rfl
      · have refused := refuses [] (c :: after) begins
        rw [List.append_nil] at refused
        have mayGoOn :
            Matcher.mayGoOn none count last (.parting before (c :: after) captures) = true := by
          have other : last ≠ some before.length :=
            fun isHere => Nat.lt_irrefl _ (moved _ isHere)
          simp [Matcher.mayGoOn, other]
        have passed (onward : Cursor → Option Cursor) :
            anyCharacter.matcher (.parting before (c :: after) captures) onward =
              onward (.parting (before ++ [c]) after captures) := by
          simp [anyCharacter, matcher, CharacterTest.holds]
        have movedOn :
            ∀ place ∈ some (Cursor.parting before (c :: after) captures).position,
              place < (before ++ [c]).length := by
          simp
        rw [cutAt?_cons_of_not_begins begins, refused, Option.none_or, if_pos mayGoOn, passed,
          inductionHypothesis (fun inside => succeed (c :: inside)) (before ++ [c])
            (fun inside later => by simpa using accepts (c :: inside) later)
            (fun inside later other => by simpa using refuses (c :: inside) later other)
            (Nat.lt_of_succ_lt_succ enough) movedOn,
          Option.map_map]
        rfl

/-- Anything between two literals, as little as possible; it is captured. -/
def enclosed (opening closing : List Char) : Tree :=
  all
    (opening.map (fun c => character ⟨false, false⟩ (.single c.toNat false))
      ++ [group 1 (loop 0 none .lazy anyCharacter)]
      ++ closing.map fun c => character ⟨false, false⟩ (.single c.toNat false))

section Enclosed

variable {opening closing : List Char}

theorem matcher_enclosed
    (cursor : Cursor)
    (onward : Cursor → Option Cursor) :
    (enclosed opening closing).matcher cursor onward =
      (literal ⟨false, false⟩ opening).matcher cursor fun opened =>
        (loop 0 none .lazy anyCharacter).matcher opened fun passed =>
          (literal ⟨false, false⟩ closing).matcher (passed.capture 1 opened.position)
            onward := by
  rw [enclosed, matcher_all_append, matcher_all_append]
  rfl

/-- Nothing is matched where no opening tag comes next. -/
theorem matchAt_enclosed_of_other
    {mustMove : Bool}
    {cursor : Cursor}
    (other : ¬opening <+: cursor.after) :
    (enclosed opening closing).matchAt mustMove cursor = none := by
  rw [matchAt, matcher_enclosed, matcher_literal_of_other other]

/-- From an opening tag on the text is matched up to the first closing tag after it. -/
theorem matchAt_enclosed
    (isOpening : IsTag opening)
    (isClosing : IsTag closing)
    (mustMove : Bool)
    (before text : List Char) :
    (enclosed opening closing).matchAt mustMove (.parting before (opening ++ text)) =
      (cutAt? closing text).map fun (inside, later) =>
        .afterEnclosed opening closing before inside later := by
  rw [matchAt, matcher_enclosed, matcher_literal_parting]
  refine lazily_anyCharacter isClosing.ne_nil [] (.afterEnclosed opening closing before)
    (before ++ opening) text ?accepts ?refuses (by simp) (by simp)
  case accepts =>
    intro inside later
    have captured :
        (Cursor.parting (before ++ opening ++ inside) (closing ++ later)).capture 1
            (Cursor.parting (before ++ opening) text).position =
          .parting (before ++ opening ++ inside) (closing ++ later)
            [(1, (before ++ opening).length, (before ++ opening ++ inside).length)] :=
      rfl
    have someCharacter := List.length_pos_iff.mpr isOpening.ne_nil
    have moved :
        (Cursor.afterEnclosed opening closing before inside later).position ≠
          (Cursor.parting before (opening ++ text)).position := by
      simp only [Cursor.afterEnclosed, Cursor.position_parting, List.length_append]
      omega
    rw [captured, matcher_literal_parting, ← Cursor.afterEnclosed, decide_eq_false moved,
      Bool.and_false, if_neg Bool.false_ne_true]
  case refuses =>
    intro inside later other
    exact matcher_literal_of_other other _

/-- Nothing is matched where no closing tag follows an opening one. -/
theorem matchAt_enclosed_of_not_holdsInOrder
    (isOpening : IsTag opening)
    (isClosing : IsTag closing)
    {mustMove : Bool}
    {before text : List Char}
    (noPair : ¬HoldsInOrder opening closing text) :
    (enclosed opening closing).matchAt mustMove (.parting before text) = none := by
  by_cases begins : opening <+: text
  · obtain ⟨text, rfl⟩ := begins
    have noClosing : ¬closing <:+: text := by
      rintro ⟨inside, later, rfl⟩
      exact noPair ⟨[], inside, later, by simp⟩
    rw [matchAt_enclosed isOpening isClosing,
      (cutAt?_eq_none_iff isClosing.ne_nil).mpr noClosing, Option.map_none]
  · exact matchAt_enclosed_of_other begins

/-- A text between tags is found where the first opening tag begins if it is closed later. -/
theorem searchFrom_enclosed
    (isOpening : IsTag opening)
    (isClosing : IsTag closing)
    {before inside : List Char}
    (noOpening : ¬opening <:+: before)
    (noClosing : ¬closing <:+: inside)
    (mustMove : Bool)
    (done later : List Char) :
    (enclosed opening closing).searchFrom mustMove
        (.parting done (before ++ opening ++ (inside ++ closing ++ later))) =
      some
        ((done ++ before).length,
          .afterEnclosed opening closing (done ++ before) inside later) := by
  rw [searchFrom, Cursor.after_parting]
  induction before generalizing done mustMove with
  | nil =>
      have matched :=
        matchAt_enclosed isOpening isClosing mustMove done (inside ++ closing ++ later)
      rw [isClosing.cutAt?_of_not_infix noClosing] at matched
      rw [List.nil_append, search_of_matchAt matched, List.append_nil, Cursor.position_parting]
  | cons c before inductionHypothesis =>
      have notHere : ¬opening <+: c :: before ++ opening ++ (inside ++ closing ++ later) := by
        intro begins
        have isCut := isOpening.cutAt?_of_not_infix noOpening (inside ++ closing ++ later)
        rw [List.cons_append, List.cons_append] at begins isCut
        rw [cutAt?_cons_of_begins begins] at isCut
        cases isCut
      have notLater : ¬opening <:+: before :=
        fun isLater => noOpening (isLater.trans (List.suffix_cons c before).isInfix)
      rw [List.cons_append, List.cons_append] at notHere ⊢
      rw [search_cons_of_matchAt (matchAt_enclosed_of_other notHere), Cursor.advance_parting,
        inductionHypothesis notLater, List.append_assoc, List.singleton_append]

/-- Nothing is found if no closing tag follows an opening one. -/
theorem searchFrom_enclosed_of_not_holdsInOrder
    (isOpening : IsTag opening)
    (isClosing : IsTag closing)
    {message : List Char}
    (noPair : ¬HoldsInOrder opening closing message)
    (mustMove : Bool)
    (done : List Char) :
    (enclosed opening closing).searchFrom mustMove (.parting done message) = none := by
  rw [searchFrom, Cursor.after_parting]
  induction message generalizing done mustMove with
  | nil =>
      rw [searchFrom.search, matchAt_enclosed_of_not_holdsInOrder isOpening isClosing noPair]
      rfl
  | cons c message inductionHypothesis =>
      have noPairLater : ¬HoldsInOrder opening closing message := by
        rintro ⟨before, inside, later, rfl⟩
        exact noPair ⟨c :: before, inside, later, rfl⟩
      rw [search_cons_of_matchAt
          (matchAt_enclosed_of_not_holdsInOrder isOpening isClosing noPair),
        Cursor.advance_parting, inductionHypothesis noPairLater]

end Enclosed

end Tree

end ProseRules.Regex
