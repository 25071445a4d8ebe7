import Mathlib.Data.List.Forall2
import ProseRules.Proofs.Text.Variants

namespace ProseRules.Text

/-!
# Small forms character by character

`smallForms` keeps the small forms of the characters of a text apart. Characters of the same small
form are equal without case. Conversely, texts that are equal in small letters and, character by
character, without case have the same small forms at each place: only a dotted capital I has a
small form of two characters, and the second one of them, a mark, is equal to no other character.
-/

/-- The small forms of characters that stand after `before` (nearest first), one for each. -/
def smallFormsAfter (before : List Char) : List Char → List (List Char)
  | [] => []
  | c :: rest => lowerBetween before c rest :: smallFormsAfter (c :: before) rest

/-- The small forms of the characters of a text, one for each. -/
def smallForms (text : String) : List (List Char) :=
  smallFormsAfter [] text.toList

/-- Characters are equal without case, one by one. -/
def EqualWithoutCase (literal text : List Char) : Prop :=
  List.Forall₂ (fun expected found => expected ∈ variants found) literal text

theorem EqualWithoutCase.symm
    {literal text : List Char}
    (equal : EqualWithoutCase literal text) :
    EqualWithoutCase text literal :=
  equal.flip.imp fun _ _ isVariant => mem_variants_comm.mp isVariant

theorem flatten_smallFormsAfter
    (before cs : List Char) :
    (smallFormsAfter before cs).flatten = lowerAfter before cs := by
  induction cs generalizing before with
  | nil =>
      rfl
  | cons c rest inductionHypothesis =>
      rw [smallFormsAfter, lowerAfter, List.flatten_cons, inductionHypothesis]

/-- Texts of the same small forms are equal in small letters. -/
theorem lower_eq_of_smallForms_eq
    {text other : String}
    (same : smallForms text = smallForms other) :
    lower text = lower other := by
  unfold smallForms at same
  rw [lower, lower, ← flatten_smallFormsAfter, ← flatten_smallFormsAfter, same]

/-- The small form of a character is one that equals it without case, or is i with a dot. -/
theorem lowerBetween_eq
    (before after : List Char)
    (c : Char) :
    (∃ form, lowerBetween before c after = [form] ∧ form ∈ variants c) ∨
      c = 'İ' ∧ lowerBetween before c after = ['i', '\u0307'] := by
  unfold lowerBetween
  split
  · rename_i isSigma
    subst isSigma
    refine .inl ⟨_, rfl, ?_⟩
    split <;> decide +kernel
  · split
    · rename_i isDotted
      exact .inr ⟨isDotted, rfl⟩
    · exact .inl ⟨_, rfl, lowerChar_mem_variants c⟩

/-- Characters of the same small forms are equal without case. -/
theorem equalWithoutCase_of_smallFormsAfter_eq
    {before others literal text : List Char}
    (same : smallFormsAfter before literal = smallFormsAfter others text) :
    EqualWithoutCase literal text := by
  induction literal generalizing before others text with
  | nil =>
      cases text with
      | nil =>
          exact .nil
      | cons found rest =>
          exact nomatch same
  | cons expected literal inductionHypothesis =>
      cases text with
      | nil =>
          exact nomatch same
      | cons found text =>
          obtain ⟨sameForm, sameForms⟩ := List.cons.inj same
          refine .cons ?_ (inductionHypothesis sameForms)
          rcases lowerBetween_eq before literal expected with
            ⟨form, isForm, ofExpected⟩ | ⟨isDotted, isForm⟩
          · rcases lowerBetween_eq others text found with
              ⟨foundForm, isFoundForm, ofFound⟩ | ⟨_, isFoundForm⟩
            · rw [isForm, isFoundForm] at sameForm
              cases sameForm
              exact mem_variants_trans (mem_variants_comm.mp ofExpected) ofFound
            · simp [isForm, isFoundForm] at sameForm
          · rcases lowerBetween_eq others text found with
              ⟨foundForm, isFoundForm, _⟩ | ⟨foundIsDotted, _⟩
            · simp [isForm, isFoundForm] at sameForm
            · rw [isDotted, foundIsDotted, mem_variants_iff]

section Marks

variable {mark : Char} (unvaried : variants mark = [mark])

include unvaried

/-- A mark without case equals itself only. -/
theorem eq_of_mark_mem_variants
    {c : Char}
    (isVariant : mark ∈ variants c) :
    c = mark := by
  have isMark := mem_variants_comm.mp isVariant
  rwa [unvaried, List.mem_singleton] at isMark

theorem mark_lowerBetween
    (notSigma : mark ≠ 'Σ')
    (notDotted : mark ≠ 'İ')
    (before after : List Char) :
    lowerBetween before mark after = [mark] := by
  rw [lowerBetween, if_neg notSigma, if_neg notDotted]
  have isMark := lowerChar_mem_variants mark
  rw [unvaried, List.mem_singleton] at isMark
  rw [isMark]

end Marks

/-- The mark of a dotted small form is a character of its own. -/
theorem variants_dot :
    variants '\u0307' = ['\u0307'] := by
  decide +kernel

theorem variants_lineFeed :
    variants '\n' = ['\n'] := by
  decide +kernel

/-- The small form of a text is not that of one that equals it without case after a mark. -/
theorem EqualWithoutCase.lowerAfter_ne_dot_cons
    {literal text : List Char}
    (equal : EqualWithoutCase literal text)
    (before others : List Char) :
    lowerAfter before literal ≠ '\u0307' :: lowerAfter others text := by
  induction equal generalizing before others with
  | nil =>
      simp [lowerAfter]
  | @cons expected found literal text isVariant _ inductionHypothesis =>
      intro shifted
      rw [lowerAfter, lowerAfter] at shifted
      rcases lowerBetween_eq before literal expected with ⟨form, isForm, ofExpected⟩ | ⟨_, isForm⟩
      · rw [isForm, List.singleton_append, List.cons.injEq] at shifted
        obtain ⟨rfl, rest⟩ := shifted
        -- The first characters of both texts are the mark, and the rest is shifted once more.
        have expectedIsMark := eq_of_mark_mem_variants variants_dot ofExpected
        rw [expectedIsMark] at isVariant
        have foundIsMark := eq_of_mark_mem_variants variants_dot isVariant
        rw [foundIsMark, mark_lowerBetween variants_dot (by decide) (by decide),
          List.singleton_append] at rest
        exact inductionHypothesis _ _ rest
      · rw [isForm] at shifted
        exact absurd (List.cons.inj shifted).1 (by decide)

/-- Texts that are equal in small letters and without case have the same small forms. -/
theorem EqualWithoutCase.smallFormsAfter_eq
    {literal text : List Char}
    (equal : EqualWithoutCase literal text)
    {before others : List Char}
    (sameLetters : lowerAfter before literal = lowerAfter others text) :
    smallFormsAfter before literal = smallFormsAfter others text := by
  induction equal generalizing before others with
  | nil =>
      rfl
  | @cons expected found literal text _ equal inductionHypothesis =>
      rw [lowerAfter, lowerAfter] at sameLetters
      rw [smallFormsAfter, smallFormsAfter]
      rcases lowerBetween_eq before literal expected with ⟨form, isForm, _⟩ | ⟨_, isForm⟩
      · rcases lowerBetween_eq others text found with ⟨other, isOther, _⟩ | ⟨_, isOther⟩
        · rw [isForm, isOther] at sameLetters ⊢
          obtain ⟨sameForm, rest⟩ := List.cons.inj sameLetters
          rw [sameForm, inductionHypothesis rest]
        · rw [isForm, isOther] at sameLetters
          exact (lowerAfter_ne_dot_cons equal _ _ (List.cons.inj sameLetters).2).elim
      · rcases lowerBetween_eq others text found with ⟨other, isOther, _⟩ | ⟨_, isOther⟩
        · rw [isForm, isOther] at sameLetters
          have shifted := (List.cons.inj sameLetters).2.symm
          exact ((EqualWithoutCase.symm equal).lowerAfter_ne_dot_cons _ _ shifted).elim
        · rw [isForm, isOther] at sameLetters ⊢
          rw [inductionHypothesis (List.append_cancel_left sameLetters)]

/-- No line feed is lost or added by small letters. -/
theorem count_lineFeed_lowerAfter
    (before cs : List Char) :
    (lowerAfter before cs).count '\n' = cs.count '\n' := by
  induction cs generalizing before with
  | nil =>
      rfl
  | cons c rest inductionHypothesis =>
      have ofOne : (lowerBetween before c rest).count '\n' = [c].count '\n' := by
        by_cases isLineFeed : c = '\n'
        · rw [isLineFeed, mark_lowerBetween variants_lineFeed (by decide) (by decide)]
        · rcases lowerBetween_eq before rest c with ⟨form, isForm, ofCharacter⟩ | ⟨isDotted, isForm⟩
          · have formIsOther : form ≠ '\n' := by
              rintro rfl
              exact isLineFeed (eq_of_mark_mem_variants variants_lineFeed ofCharacter)
            simp [isForm, formIsOther, isLineFeed]
          · rw [isForm, isDotted]
            decide
      rw [lowerAfter, List.count_append, inductionHypothesis, ofOne, ← List.count_append,
        List.singleton_append]

/-- Texts that are equal without case have equally many line feeds. -/
theorem EqualWithoutCase.count_lineFeed_eq
    {literal text : List Char}
    (equal : EqualWithoutCase literal text) :
    literal.count '\n' = text.count '\n' := by
  induction equal with
  | nil =>
      rfl
  | @cons expected found literal text isVariant _ inductionHypothesis =>
      have alike : expected = '\n' ↔ found = '\n' := by
        constructor
        · rintro rfl
          exact eq_of_mark_mem_variants variants_lineFeed isVariant
        · rintro rfl
          exact eq_of_mark_mem_variants variants_lineFeed (mem_variants_comm.mp isVariant)
      simp only [List.count_cons, inductionHypothesis, beq_iff_eq, alike]

/-- A text that equals a literal without case is not equal to it with one more line feed. -/
theorem EqualWithoutCase.lower_append_lineFeed_ne
    {literal text : String}
    (equal : EqualWithoutCase literal.toList text.toList) :
    lower (text ++ "\n") ≠ lower literal := by
  intro same
  have sameCount := congrArg (fun form => form.toList.count '\n') same
  simp only [lower, String.toList_ofList, count_lineFeed_lowerAfter, String.toList_append,
    List.count_append, equal.count_lineFeed_eq, Nat.add_eq_left] at sameCount
  exact absurd sameCount (by decide)

/--
The character is not the dotted capital I, and its small letter is the first one of those that
count as the same letter.
-/
def IsCommon (c : Char) : Prop :=
  c ≠ 'İ' ∧ (alike (lowerChar c).toNat).head? = some (lowerChar c).toNat

instance (c : Char) : Decidable (IsCommon c) :=
  inferInstanceAs (Decidable (_ ∧ _))

namespace IsCommon

/-- The small form of a common character is its small letter, wherever it stands. -/
theorem lowerBetween_eq
    {c : Char}
    (common : IsCommon c)
    (before after : List Char) :
    lowerBetween before c after = [lowerChar c] := by
  have notSigma : c ≠ 'Σ' := by
    rintro rfl
    exact absurd common (by decide +kernel)
  rw [lowerBetween, if_neg notSigma, if_neg common.1]

/-- Common characters are equal without case exactly if they have the same small letter. -/
theorem mem_variants_iff
    {c d : Char}
    (common : IsCommon c)
    (otherCommon : IsCommon d) :
    c ∈ variants d ↔ lowerChar c = lowerChar d := by
  rw [Text.mem_variants_iff]
  constructor
  · intro sameLetters
    have sameFirst := common.2
    rw [sameLetters, otherCommon.2, Option.some.injEq] at sameFirst
    exact Char.toNat_inj.mp sameFirst.symm
  · intro sameLetter
    rw [sameLetter]

theorem equalWithoutCase_iff_map
    {literal text : List Char}
    (literalCommon : ∀ c ∈ literal, IsCommon c)
    (textCommon : ∀ c ∈ text, IsCommon c) :
    EqualWithoutCase literal text ↔ literal.map lowerChar = text.map lowerChar := by
  induction literal generalizing text with
  | nil =>
      cases text <;> simp [EqualWithoutCase]
  | cons expected literal inductionHypothesis =>
      cases text with
      | nil =>
          simp [EqualWithoutCase]
      | cons found text =>
          obtain ⟨expectedCommon, literalCommon⟩ := List.forall_mem_cons.mp literalCommon
          obtain ⟨foundCommon, textCommon⟩ := List.forall_mem_cons.mp textCommon
          rw [EqualWithoutCase, List.forall₂_cons, expectedCommon.mem_variants_iff foundCommon,
            List.map_cons, List.map_cons, List.cons.injEq]
          exact and_congr_right' (inductionHypothesis literalCommon textCommon)

/-- The small form of a text of common characters has a small letter for each of them. -/
theorem lowerAfter_eq
    {cs : List Char}
    (common : ∀ c ∈ cs, IsCommon c)
    (before : List Char) :
    lowerAfter before cs = cs.map lowerChar := by
  induction cs generalizing before with
  | nil =>
      rfl
  | cons c rest inductionHypothesis =>
      have restCommon : ∀ d ∈ rest, IsCommon d :=
        fun d member => common d (List.mem_cons_of_mem c member)
      rw [lowerAfter, (common c List.mem_cons_self).lowerBetween_eq,
        inductionHypothesis restCommon, List.map_cons, List.singleton_append]

/-- Texts of common characters are equal in small letters exactly if they are without case. -/
theorem equalWithoutCase_iff
    {literal text : String}
    (literalCommon : ∀ c ∈ literal.toList, IsCommon c)
    (textCommon : ∀ c ∈ text.toList, IsCommon c) :
    EqualWithoutCase literal.toList text.toList ↔ lower text = lower literal := by
  rw [lower, lower, lowerAfter_eq literalCommon, lowerAfter_eq textCommon, String.ofList_inj,
    equalWithoutCase_iff_map literalCommon textCommon]
  exact eq_comm

end IsCommon

end ProseRules.Text
