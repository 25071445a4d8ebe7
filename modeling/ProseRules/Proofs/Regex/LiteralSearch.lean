import Mathlib.Data.List.Forall2
import ProseRules.Proofs.Regex.LiteralSource

namespace ProseRules.Regex

/-!
# Searching for a literal text

An expression for a whole literal is found in a text exactly if the text, up to
one line feed at its end, has a character for each character of the literal that
stands for it. Where case counts, that is the literal itself.
-/

namespace Comparison

/--
A text spells a literal: up to one line feed at its end, its characters stand for
those of the literal one by one.
-/
def Spells (comparison : Comparison) (literal text : List Char) : Prop :=
  ∃ front,
    (text = front ∨ text = front ++ ['\n']) ∧
      List.Forall₂ (fun expected found => expected ∈ comparison.standsFor found) literal front

/-- Where case counts, only the literal and the literal with a line feed spell it. -/
theorem spells_sensitive_iff
    {literal text : List Char} :
    Spells ⟨false, false⟩ literal text ↔ text = literal ∨ text = literal ++ ['\n'] := by
  have sameCharacters :
      ∀ front,
        List.Forall₂
            (fun expected found => expected ∈ standsFor ⟨false, false⟩ found) literal front ↔
          literal = front := by
    intro front
    simp only [standsFor, Bool.false_eq_true, if_false, List.mem_singleton]
    exact List.forall₂_eq_eq_eq ▸ Iff.rfl
  constructor
  · rintro ⟨front, shape, characters⟩
    rw [sameCharacters] at characters
    subst front
    exact shape
  · intro shape
    exact ⟨literal, shape, (sameCharacters literal).mpr rfl⟩

end Comparison

namespace CharacterTest

/-- A single character is tested for being one that the character of the text stands for. -/
theorem holds_single_iff
    {comparison : Comparison}
    {expected found : Char} :
    (single expected.toNat false).holds comparison found = true ↔
      expected ∈ comparison.standsFor found := by
  simp only [holds, Bool.bne_false, List.any_eq_true, decide_eq_true_eq]
  constructor
  · rintro ⟨form, member, sameCode⟩
    rwa [Char.toNat_inj.mp sameCode] at member
  · intro member
    exact ⟨expected, member, rfl⟩

end CharacterTest

namespace Tree

/-- The row of a literal goes over its first character and then over the others. -/
theorem matcher_literal_cons
    (comparison : Comparison)
    (c : Char)
    (text : List Char)
    (cursor : Cursor)
    (onward : Cursor → Option Cursor) :
    (literal comparison (c :: text)).matcher cursor onward =
      (character comparison (.single c.toNat false)).matcher cursor fun reached =>
        (literal comparison text).matcher reached onward := by
  cases text with
  | nil =>
      rfl
  | cons next later =>
      rfl

/--
The row of a literal is matched if characters that stand for it come next and the
rest of the match succeeds after them; the rest may look ahead only.
-/
theorem isSome_matcher_literal_iff
    {comparison : Comparison}
    {onward : Cursor → Option Cursor}
    (goesOn : List Char → Prop)
    (looksAhead : ∀ reached, (onward reached).isSome = true ↔ goesOn reached.after)
    {text : List Char}
    {cursor : Cursor} :
    ((literal comparison text).matcher cursor onward).isSome = true ↔
      ∃ front back,
        cursor.after = front ++ back ∧
          List.Forall₂ (fun expected found => expected ∈ comparison.standsFor found)
            text front ∧
          goesOn back := by
  induction text generalizing cursor with
  | nil =>
      simp only [literal, List.map_nil, all, matcher, looksAhead, List.forall₂_nil_left_iff]
      constructor
      · intro accepted
        exact ⟨[], cursor.after, rfl, rfl, accepted⟩
      · rintro ⟨front, back, shape, rfl, accepted⟩
        rwa [shape]
  | cons c text inductionHypothesis =>
      rw [matcher_literal_cons]
      simp only [matcher]
      cases ahead : cursor.after with
      | nil =>
          simp only [Option.isSome_none, Bool.false_eq_true, false_iff]
          rintro ⟨front, back, shape, characters, _⟩
          obtain ⟨rfl, rfl⟩ := List.append_eq_nil_iff.mp shape.symm
          cases characters
      | cons found after =>
          by_cases standsFor : c ∈ comparison.standsFor found
          · simp only [CharacterTest.holds_single_iff.mpr standsFor, if_true,
              inductionHypothesis]
            constructor
            · rintro ⟨front, back, shape, characters, accepted⟩
              exact ⟨found :: front, back, by simp_all [Cursor.advance],
                .cons standsFor characters, accepted⟩
            · rintro ⟨front, back, shape, characters, accepted⟩
              cases characters with
              | cons _ later =>
                  obtain ⟨rfl, rest⟩ := List.cons.inj shape
                  exact ⟨_, back, rest, later, accepted⟩
          · have refused :
                ¬(CharacterTest.single c.toNat false).holds comparison found = true :=
              fun holds => standsFor (CharacterTest.holds_single_iff.mp holds)
            simp only [refused, if_false, Option.isSome_none, Bool.false_eq_true, false_iff]
            rintro ⟨front, back, shape, characters, _⟩
            cases characters with
            | cons first later =>
                obtain ⟨rfl, _⟩ := List.cons.inj shape
                exact standsFor first

/-- A tree between the start and the end of the text. -/
theorem matcher_whole
    (body : Tree)
    (cursor : Cursor)
    (onward : Cursor → Option Cursor) :
    (whole body).matcher cursor onward =
      if cursor.before.isEmpty = true then
        body.matcher cursor fun reached =>
          if Anchor.lastLineEnd.holds reached.before reached.after = true then
            onward reached
          else
            none
      else
        none :=
  rfl

/-- The tree is not matched from a place after the start of the text. -/
def BeginsAtStart (tree : Tree) : Prop :=
  ∀ mustMove (cursor : Cursor), cursor.before ≠ [] → tree.matchAt mustMove cursor = none

theorem whole_beginsAtStart
    (body : Tree) :
    (whole body).BeginsAtStart := by
  intro mustMove cursor later
  simp [matchAt, matcher_whole, later]

/-- A tree that begins at the start of the text is not found from a later place on. -/
theorem BeginsAtStart.search_eq_none
    {tree : Tree}
    (beginsAtStart : tree.BeginsAtStart)
    {mustMove : Bool}
    {cursor : Cursor}
    (later : cursor.before ≠ [])
    (after : List Char) :
    searchFrom.search tree mustMove cursor after = none := by
  induction after generalizing cursor mustMove with
  | nil =>
      simp [searchFrom.search, beginsAtStart mustMove cursor later]
  | cons c after inductionHypothesis =>
      simp only [searchFrom.search, beginsAtStart mustMove cursor later]
      exact inductionHypothesis (by simp [Cursor.advance])

/-- A search for such a tree is a match at the start. -/
theorem BeginsAtStart.isSome_searchFrom
    {tree : Tree}
    (beginsAtStart : tree.BeginsAtStart)
    (text : List Char) :
    (tree.searchFrom false (.atStart text)).isSome =
      (tree.matchAt false (.atStart text)).isSome := by
  cases text with
  | nil =>
      simp [searchFrom, searchFrom.search, Cursor.atStart]
  | cons c after =>
      have noneLater :
          searchFrom.search tree false ((Cursor.atStart (c :: after)).advance c after) after =
            none :=
        beginsAtStart.search_eq_none (by simp [Cursor.advance]) after
      simp only [searchFrom, searchFrom.search, Cursor.atStart] at noneLater ⊢
      rw [noneLater]
      split
      · rename_i matched
        rw [matched]
        rfl
      · rename_i noMatch
        rw [noMatch]
        rfl

end Tree

namespace Expression

/-- An expression for a whole literal is found exactly in the texts that spell it. -/
theorem isFoundIn_whole_literal_iff
    {expression : Expression}
    {comparison : Comparison}
    {literal : List Char}
    (shape : expression.tree = .whole (.literal comparison literal))
    {text : String} :
    expression.isFoundIn text = true ↔ comparison.Spells literal text.toList := by
  have looksAhead :
      ∀ reached : Cursor,
        (if Anchor.lastLineEnd.holds reached.before reached.after = true then
              some reached
            else
              none).isSome = true ↔
          reached.after = [] ∨ reached.after = ['\n'] := by
    intro reached
    simp [Anchor.holds]
  rw [isFoundIn, shape, (Tree.whole_beginsAtStart _).isSome_searchFrom, Tree.matchAt,
    Tree.matcher_whole]
  simp only [Cursor.atStart, List.isEmpty_nil, if_true, Bool.false_and, Bool.false_eq_true,
    if_false]
  rw [Tree.isSome_matcher_literal_iff (fun back => back = [] ∨ back = ['\n']) looksAhead]
  constructor
  · rintro ⟨front, back, split, characters, rfl | rfl⟩
    · exact ⟨front, .inl (by simpa using split), characters⟩
    · exact ⟨front, .inr split, characters⟩
  · rintro ⟨front, rfl | split, characters⟩
    · exact ⟨text.toList, [], by simp, characters, .inl rfl⟩
    · exact ⟨front, ['\n'], split, characters, .inr rfl⟩

end Expression

end ProseRules.Regex
