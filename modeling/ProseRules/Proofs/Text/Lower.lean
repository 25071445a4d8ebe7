import Mathlib.Algebra.GroupWithZero.Nat
import ProseRules.Text.Case

namespace ProseRules.Text

/-!
# The length of a text in small letters

What becomes of a capital sigma depends on the letters around it, but how many
characters a character becomes does not. So the small form of a text is longer for
every character that is added to the text.
-/

/-- How many characters a character becomes in small letters. -/
def lowerWidth (c : Char) : Nat :=
  if c = 'İ' then 2 else 1

/-- The width of a small form does not depend on the characters around it. -/
theorem length_lowerBetween
    (before after : List Char)
    (c : Char) :
    (lowerBetween before c after).length = lowerWidth c := by
  unfold lowerBetween lowerWidth
  split
  · rename_i isSigma
    subst c
    rfl
  · split <;> rfl

/-- The widths of the characters add up, whatever stands before them. -/
theorem length_lowerAfter
    (before cs : List Char) :
    (lowerAfter before cs).length = (cs.map lowerWidth).sum := by
  induction cs generalizing before with
  | nil =>
      rfl
  | cons c rest inductionHypothesis =>
      rw [lowerAfter, List.length_append, length_lowerBetween, inductionHypothesis,
        List.map_cons, List.sum_cons]

/-- The small forms of a text and of a longer one that begins with it differ. -/
theorem lower_append_ne
    (text : String)
    {more : String}
    (longer : more ≠ "") :
    lower (text ++ more) ≠ lower text := by
  intro same
  have sameLength := congrArg (fun form => form.toList.length) same
  simp only [lower, String.toList_ofList, length_lowerAfter, String.toList_append,
    List.map_append, List.sum_append_nat] at sameLength
  have charactersLeft : more.toList ≠ [] := by
    simpa using longer
  obtain ⟨c, rest, shape⟩ := List.exists_cons_of_ne_nil charactersLeft
  have positive : 0 < lowerWidth c := by
    unfold lowerWidth
    split <;> decide
  rw [shape, List.map_cons, List.sum_cons] at sameLength
  omega

/-- Only the empty text is empty in small letters. -/
theorem lower_ne_lower_empty
    {text : String}
    (nonempty : text ≠ "") :
    lower text ≠ lower "" := by
  simpa using lower_append_ne "" nonempty

end ProseRules.Text
