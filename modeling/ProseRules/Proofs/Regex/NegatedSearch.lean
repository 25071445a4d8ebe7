import ProseRules.Proofs.Regex.LiteralSearch
import ProseRules.Proofs.Regex.NegatedSource

namespace ProseRules.Regex

/-!
# Searching for other texts

An expression for whole texts is found in a text exactly if the expression for other texts around
the same body is not: the look ahead of the one makes the match of the other.
-/

namespace Tree

/-- A tree that must not match up to the end of the text. -/
theorem matcher_notWhole
    (body : Tree)
    (cursor : Cursor)
    (onward : Cursor → Option Cursor) :
    (notWhole body).matcher cursor onward =
      if cursor.before.isEmpty = true then
        match (all [body, place .lastLineEnd]).matcher cursor some with
        | some _ => none
        | none => onward cursor
      else
        none :=
  rfl

theorem notWhole_beginsAtStart
    (body : Tree) :
    (notWhole body).BeginsAtStart := by
  intro mustMove cursor later
  simp [matchAt, matcher_notWhole, later]

/-- From the start of a text the body comes up to the end, or it does not. -/
theorem isSome_matchAt_whole_eq_not
    (body : Tree)
    (text : List Char) :
    ((whole body).matchAt false (.atStart text)).isSome =
      !((notWhole body).matchAt false (.atStart text)).isSome := by
  have ofWhole :
      (whole body).matchAt false (.atStart text) =
        (all [body, place .lastLineEnd]).matcher (.atStart text) some :=
    rfl
  have ofNotWhole :
      (notWhole body).matchAt false (.atStart text) =
        match (all [body, place .lastLineEnd]).matcher (.atStart text) some with
        | some _ => none
        | none => some (.atStart text) :=
    rfl
  rw [ofWhole, ofNotWhole]
  cases (all [body, place .lastLineEnd]).matcher (.atStart text) some <;> rfl

end Tree

/-- Of two expressions around the same body exactly one is found in a text. -/
theorem Expression.isFoundIn_eq_not
    {wanted refused : Expression}
    {body : Tree}
    (wantedTree : wanted.tree = .whole body)
    (refusedTree : refused.tree = .notWhole body)
    (text : String) :
    wanted.isFoundIn text = !refused.isFoundIn text := by
  rw [isFoundIn, isFoundIn, wantedTree, refusedTree,
    (Tree.whole_beginsAtStart body).isSome_searchFrom,
    (Tree.notWhole_beginsAtStart body).isSome_searchFrom]
  exact Tree.isSome_matchAt_whole_eq_not body text.toList

end ProseRules.Regex
