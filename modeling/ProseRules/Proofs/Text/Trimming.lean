import Mathlib.Data.List.DropRight
import ProseRules.Proofs.Text.Variants

namespace ProseRules.Text

/-!
# Blanks and small letters

Blanks have no small form but themselves. So a text whose small form has no blank at an end
has none there either, and among the first 128 characters, where each one has one small form,
the blanks around a text can be dropped before or after it is written in small letters.
-/

/-- No blank stands at an end. -/
structure IsTrimmed (characters : List Char) : Prop where
  first : ∀ c ∈ characters.head?, isBlank c = false
  last : ∀ c ∈ characters.getLast?, isBlank c = false

section Trimmed

variable {characters : List Char}

theorem IsTrimmed.dropBlanksAround_eq
    (trimmed : IsTrimmed characters) :
    dropBlanksAround characters = characters := by
  have nothingBefore : characters.dropWhile isBlank = characters := by
    cases characters with
    | nil =>
        rfl
    | cons c rest =>
        have isText := trimmed.first c rfl
        rw [List.dropWhile_cons_of_neg (by simp [isText])]
  have nothingAfter : characters.rdropWhile isBlank = characters := by
    rw [List.rdropWhile_eq_self_iff]
    intro nonempty isLast
    have isText := trimmed.last _ (List.getLast_mem_getLast? nonempty)
    rw [isText] at isLast
    cases isLast
  rw [dropBlanksAround, nothingBefore]
  exact nothingAfter

theorem isTrimmed_dropBlanksAround
    (characters : List Char) :
    IsTrimmed (dropBlanksAround characters) := by
  constructor
  case first =>
    intro c isFirst
    obtain ⟨dropped, isFront⟩ := dropBlanksAtEnd_prefix (characters.dropWhile isBlank)
    have firstLeft := List.head?_dropWhile_not isBlank characters
    rw [← isFront, List.head?_append, ← dropBlanksAround, isFirst] at firstLeft
    exact firstLeft
  case last =>
    intro c isLast
    obtain ⟨nonempty, rfl⟩ := List.mem_getLast?_eq_getLast isLast
    exact Bool.eq_false_iff.mpr (List.rdropWhile_last_not isBlank _ nonempty)

end Trimmed

section Blanks

theorem lowerCode?_of_mem_blankRanges :
    ∀ range ∈ blankRanges, ∀ code ∈ List.range' range.1 (range.2 + 1 - range.1),
      lowerCode? code = none := by
  decide +kernel

theorem lowerChar_of_isBlank
    {c : Char}
    (blank : isBlank c = true) :
    lowerChar c = c := by
  obtain ⟨range, member, inRange⟩ := List.any_eq_true.mp blank
  simp only [Bool.and_eq_true, decide_eq_true_eq] at inRange
  have noSmall := lowerCode?_of_mem_blankRanges range member c.toNat (by
    rw [List.mem_range'_1]
    omega)
  rw [← Char.toNat_inj, toNat_lowerChar, noSmall, Option.getD_none]

/-- A blank has no small form but itself, wherever it stands. -/
theorem lowerBetween_of_isBlank
    {c : Char}
    (blank : isBlank c = true)
    (before after : List Char) :
    lowerBetween before c after = [c] := by
  have notSigma : c ≠ 'Σ' := by
    rintro rfl
    cases blank
  have notDotted : c ≠ 'İ' := by
    rintro rfl
    cases blank
  rw [lowerBetween, if_neg notSigma, if_neg notDotted, lowerChar_of_isBlank blank]

/-- The last character of a text ends its small form. -/
theorem exists_lowerAfter_concat
    (before cs : List Char)
    (c : Char) :
    ∃ front passed, lowerAfter before (cs ++ [c]) = front ++ lowerBetween passed c [] := by
  induction cs generalizing before with
  | nil =>
      exact ⟨[], before, by simp [lowerAfter]⟩
  | cons next cs inductionHypothesis =>
      obtain ⟨front, passed, isForm⟩ := inductionHypothesis (next :: before)
      exact
        ⟨lowerBetween before next (cs ++ [c]) ++ front, passed, by
          rw [List.cons_append, lowerAfter, isForm, List.append_assoc]⟩

/-- A text has no blank at an end if its small form has none. -/
theorem isTrimmed_of_lowerAfter
    {before cs : List Char}
    (trimmed : IsTrimmed (lowerAfter before cs)) :
    IsTrimmed cs := by
  constructor
  case first =>
    intro c isFirst
    obtain ⟨rest, rfl⟩ := List.head?_eq_some_iff.mp isFirst
    by_contra! blank
    have isBlankForm := trimmed.first c
    rw [lowerAfter, lowerBetween_of_isBlank (Bool.of_not_eq_false blank)] at isBlankForm
    exact blank (isBlankForm rfl)
  case last =>
    intro c isLast
    obtain ⟨front, rfl⟩ := List.getLast?_eq_some_iff.mp isLast
    by_contra! blank
    obtain ⟨formsBefore, passed, isForm⟩ := exists_lowerAfter_concat before front c
    have isBlankForm := trimmed.last c
    rw [isForm, lowerBetween_of_isBlank (Bool.of_not_eq_false blank)] at isBlankForm
    exact blank (isBlankForm List.getLast?_concat)

end Blanks

section Plain

variable {characters : List Char}

/-- Each of the first 128 characters has one small form wherever it stands. -/
theorem lowerAfter_eq_map
    (before : List Char)
    (plain : ∀ c ∈ characters, c.toNat < 128) :
    lowerAfter before characters = characters.map lowerChar := by
  induction characters generalizing before with
  | nil =>
      rfl
  | cons c rest inductionHypothesis =>
      obtain ⟨isPlain, arePlain⟩ := List.forall_mem_cons.mp plain
      have notSigma : c ≠ 'Σ' := by
        rintro rfl
        exact absurd isPlain (by decide)
      have notDotted : c ≠ 'İ' := by
        rintro rfl
        exact absurd isPlain (by decide)
      rw [lowerAfter, lowerBetween, if_neg notSigma, if_neg notDotted,
        inductionHypothesis _ arePlain]
      rfl

theorem isBlank_lowerChar
    {c : Char}
    (isPlain : c.toNat < 128) :
    isBlank (lowerChar c) = isBlank c := by
  have evaluated :
      ∀ code < 128,
        inRanges blankRanges
            ((if 65 ≤ code ∧ code ≤ 90 then some (code + 32) else none).getD code) =
          inRanges blankRanges code := by
    decide +kernel
  rw [isBlank, toNat_lowerChar, lowerCode?_of_lt isPlain, evaluated _ isPlain, isBlank]

theorem dropWhile_isBlank_map
    {change : Char → Char}
    (same : ∀ c ∈ characters, isBlank (change c) = isBlank c) :
    (characters.map change).dropWhile isBlank = (characters.dropWhile isBlank).map change := by
  induction characters with
  | nil =>
      rfl
  | cons c rest inductionHypothesis =>
      obtain ⟨sameFirst, sameRest⟩ := List.forall_mem_cons.mp same
      rw [List.map_cons, List.dropWhile_cons, List.dropWhile_cons, sameFirst,
        inductionHypothesis sameRest]
      split <;> rfl

/-- Characters that stay blank or not can be changed before or after blanks are dropped. -/
theorem dropBlanksAround_map
    {change : Char → Char}
    (same : ∀ c ∈ characters, isBlank (change c) = isBlank c) :
    dropBlanksAround (characters.map change) = (dropBlanksAround characters).map change := by
  have sameLater :
      ∀ c ∈ (characters.dropWhile isBlank).reverse, isBlank (change c) = isBlank c :=
    fun c member => same c ((List.dropWhile_sublist _).mem (List.mem_reverse.mp member))
  rw [dropBlanksAround, dropWhile_isBlank_map same, dropBlanksAtEnd, ← List.map_reverse,
    dropWhile_isBlank_map sameLater, ← List.map_reverse, ← dropBlanksAtEnd, ← dropBlanksAround]

end Plain

/-- A text of the first 128 characters can be trimmed before or after it is lowered. -/
theorem trim_lower
    {text : String}
    (plain : ∀ c ∈ text.toList, c.toNat < 128) :
    trim (lower text) = lower (trim text) := by
  have plainPart : ∀ c ∈ dropBlanksAround text.toList, c.toNat < 128 := by
    intro c member
    have isFront := dropBlanksAtEnd_prefix (text.toList.dropWhile isBlank)
    exact plain c ((List.dropWhile_sublist _).mem (isFront.mem member))
  rw [trim, lower, String.toList_ofList, lowerAfter_eq_map _ plain, lower, trim,
    String.toList_ofList, lowerAfter_eq_map _ plainPart,
    dropBlanksAround_map fun c member => isBlank_lowerChar (plain c member)]

/-- A text has no blanks around it if its small form is that of a trimmed text. -/
theorem trim_eq_self_of_lower_eq
    {text other : String}
    (same : lower text = trim other) :
    trim text = text := by
  have trimmed := isTrimmed_dropBlanksAround other.toList
  have sameCharacters := congrArg String.toList same
  rw [lower, trim, String.toList_ofList, String.toList_ofList] at sameCharacters
  rw [← sameCharacters] at trimmed
  rw [trim, (isTrimmed_of_lowerAfter trimmed).dropBlanksAround_eq, String.ofList_toList]

end ProseRules.Text
