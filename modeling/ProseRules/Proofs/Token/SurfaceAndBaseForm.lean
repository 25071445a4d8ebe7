import ProseRules.Proofs.Text.SmallForms
import ProseRules.Proofs.Token.Literal

namespace ProseRules

/-!
# A literal compared with surfaces and with base forms

Without regard to case, a literal is compared with the surface of a word in small letters, and with
the base form by a regular expression. A text that passes both comparisons has the small forms of
the literal, character by character. One that passes a single comparison has not: a letter counts
as another one without case only, a line feed ends the text, or a dotted capital I stands for two
characters.
-/

namespace Regex.Comparison

/-- Where case does not count, a text spells a literal that equals it up to one line feed. -/
theorem spells_insensitive_iff
    {literal text : String} :
    Spells ⟨true, false⟩ literal.toList text.toList ↔
      Text.EqualWithoutCase literal.toList text.toList ∨
        ∃ front : String,
          text = front ++ "\n" ∧ Text.EqualWithoutCase literal.toList front.toList := by
  constructor
  · rintro ⟨front, rfl | withLineFeed, characters⟩
    · exact .inl characters
    · refine .inr ⟨String.ofList front, ?_, ?_⟩
      · rw [← String.toList_inj, withLineFeed]
        simp
      · rw [String.toList_ofList]
        exact characters
  · rintro (characters | ⟨front, rfl, characters⟩)
    · exact ⟨text.toList, .inl rfl, characters⟩
    · exact ⟨front.toList, .inr (by simp), characters⟩

/-- A text equals a literal in small letters and spells it if its small forms are the same. -/
theorem lower_eq_and_spells_iff
    {literal text : String} :
    Text.lower text = Text.lower literal ∧
        Spells ⟨true, false⟩ literal.toList text.toList ↔
      Text.smallForms text = Text.smallForms literal := by
  rw [spells_insensitive_iff]
  constructor
  · rintro ⟨sameLetters, equal | ⟨front, rfl, equal⟩⟩
    · have sameForms := equal.smallFormsAfter_eq (String.ofList_inj.mp sameLetters).symm
      exact sameForms.symm
    · exact (equal.lower_append_lineFeed_ne sameLetters).elim
  · intro sameForms
    exact
      ⟨Text.lower_eq_of_smallForms_eq sameForms,
        .inl (Text.equalWithoutCase_of_smallFormsAfter_eq sameForms.symm)⟩

/-- A text of common characters spells a literal of such if it equals it up to one line feed. -/
theorem spells_common_iff
    {literal text : String}
    (literalCommon : ∀ c ∈ literal.toList, Text.IsCommon c)
    (textCommon : ∀ c ∈ text.toList, Text.IsCommon c) :
    Spells ⟨true, false⟩ literal.toList text.toList ↔
      Text.lower text = Text.lower literal ∨
        ∃ front : String, text = front ++ "\n" ∧ Text.lower front = Text.lower literal := by
  rw [spells_insensitive_iff, Text.IsCommon.equalWithoutCase_iff literalCommon textCommon]
  refine or_congr_right (exists_congr fun front => and_congr_right fun shape => ?_)
  refine Text.IsCommon.equalWithoutCase_iff literalCommon fun c member => textCommon c ?_
  rw [shape, String.toList_append]
  exact List.mem_append_left _ member

end Regex.Comparison

namespace Token

/-- The tests of a literal for the surface and for the base form, both without regard to case. -/
theorem exists_prepared_literals
    {text : String}
    (hasText : text ≠ "") :
    ∃ ofSurface ofBaseForm,
      (literal text false false).spec.test.prepare = .ok ofSurface ∧
        (literal text true false).spec.test.prepare = .ok ofBaseForm ∧
          (∀ word, ofSurface.holds word = true ↔ Text.lower word.text = Text.lower text) ∧
            ∀ word,
              ofBaseForm.holds word = true ↔
                Regex.Comparison.Spells ⟨true, false⟩ text.toList word.baseForm.toList := by
  have mandatory :
      ∀ inflected, (literal text inflected false).isMandatoryLiteral = true := by
    intro inflected
    rw [isMandatoryLiteral_iff]
    exact ⟨rfl, rfl, rfl, Nat.one_pos, hasText⟩
  obtain ⟨ofSurface, surfacePrepared, acceptsSurface⟩ :=
    exists_prepared_of_isMandatoryLiteral (mandatory false)
  obtain ⟨ofBaseForm, baseFormPrepared, acceptsBaseForm⟩ :=
    exists_prepared_of_isMandatoryLiteral (mandatory true)
  exact
    ⟨ofSurface, ofBaseForm, surfacePrepared, baseFormPrepared, acceptsSurface, acceptsBaseForm⟩

/--
The tests of a literal for the surface and for the base form agree on a text exactly if, where one
of them accepts it, its characters have the small forms of those of the literal, one by one. On
texts of common characters they agree unless the text has one line feed more than one that equals
the literal.
-/
theorem holds_surface_iff_baseForm
    {text : String}
    (hasText : text ≠ "") :
    ∃ ofSurface ofBaseForm,
      (literal text false false).spec.test.prepare = .ok ofSurface ∧
        (literal text true false).spec.test.prepare = .ok ofBaseForm ∧
          ∀ shown based : Word,
            based.baseForm = shown.text →
              ((ofSurface.holds shown = true ↔ ofBaseForm.holds based = true) ↔
                  (ofSurface.holds shown = true ∨ ofBaseForm.holds based = true →
                    Text.smallForms shown.text = Text.smallForms text)) ∧
                ((∀ c ∈ text.toList, Text.IsCommon c) →
                  (∀ c ∈ shown.text.toList, Text.IsCommon c) →
                    ((ofSurface.holds shown = true ↔ ofBaseForm.holds based = true) ↔
                      ¬∃ front : String,
                          shown.text = front ++ "\n" ∧ Text.lower front = Text.lower text)) := by
  obtain ⟨ofSurface, ofBaseForm, surfacePrepared, baseFormPrepared, acceptsSurface,
    acceptsBaseForm⟩ := exists_prepared_literals hasText
  refine ⟨ofSurface, ofBaseForm, surfacePrepared, baseFormPrepared, ?_⟩
  intro shown based sameText
  rw [acceptsSurface, acceptsBaseForm, sameText]
  refine ⟨?_, fun literalCommon textCommon => ?_⟩
  · rw [← Regex.Comparison.lower_eq_and_spells_iff]
    tauto
  · rw [Regex.Comparison.spells_common_iff literalCommon textCommon]
    constructor
    · rintro agree ⟨front, withLineFeed, sameLetters⟩
      have sameAll := agree.mpr (.inr ⟨front, withLineFeed, sameLetters⟩)
      rw [withLineFeed, ← sameLetters] at sameAll
      exact Text.lower_append_ne front (by decide) sameAll
    · intro noLineFeed
      exact (or_iff_left noLineFeed).symm

/-- A word with a capital letter is accepted by both tests of a literal. -/
theorem holds_surface_iff_baseForm_capital :
    ∃ ofSurface ofBaseForm,
      (literal "is" false false).spec.test.prepare = .ok ofSurface ∧
        (literal "is" true false).spec.test.prepare = .ok ofBaseForm ∧
          (ofSurface.holds { text := "Is" } = true ↔
            ofBaseForm.holds { text := "was", baseForm := "Is" } = true) := by
  obtain ⟨ofSurface, ofBaseForm, surfacePrepared, baseFormPrepared, agree⟩ :=
    holds_surface_iff_baseForm (by decide : "is" ≠ "")
  refine ⟨ofSurface, ofBaseForm, surfacePrepared, baseFormPrepared, ?_⟩
  obtain ⟨_, agreeCommon⟩ :=
    agree { text := "Is" } { text := "was", baseForm := "Is" } rfl
  have literalCommon : ∀ c ∈ "is".toList, Text.IsCommon c := by
    simpa using (by decide +kernel : Text.IsCommon 'i' ∧ Text.IsCommon 's')
  have textCommon : ∀ c ∈ "Is".toList, Text.IsCommon c := by
    simpa using (by decide +kernel : Text.IsCommon 'I' ∧ Text.IsCommon 's')
  refine (agreeCommon literalCommon textCommon).mpr ?_
  rintro ⟨front, withLineFeed, _⟩
  have lastCharacter := congrArg (fun text => text.toList.getLast?) withLineFeed
  simp at lastCharacter

/--
One of the two tests of a literal accepts a text and the other one does not: a long s for an s and
a line feed at the end are accepted as a base form only, and a dotted capital I for an i with a dot
mark as a surface only.
-/
theorem not_holds_surface_iff_baseForm :
    (∃ ofSurface ofBaseForm,
      (literal "is" false false).spec.test.prepare = .ok ofSurface ∧
        (literal "is" true false).spec.test.prepare = .ok ofBaseForm ∧
          (ofSurface.holds { text := "iſ" } = false ∧
            ofBaseForm.holds { text := "iſ", baseForm := "iſ" } = true) ∧
          (ofSurface.holds { text := "is\n" } = false ∧
            ofBaseForm.holds { text := "is\n", baseForm := "is\n" } = true)) ∧
      ∃ ofSurface ofBaseForm,
        (literal "i\u0307" false false).spec.test.prepare = .ok ofSurface ∧
          (literal "i\u0307" true false).spec.test.prepare = .ok ofBaseForm ∧
            (ofSurface.holds { text := "İ" } = true ∧
              ofBaseForm.holds { text := "İ", baseForm := "İ" } = false) := by
  constructor
  · obtain ⟨ofSurface, ofBaseForm, surfacePrepared, baseFormPrepared, acceptsSurface,
      acceptsBaseForm⟩ := exists_prepared_literals (by decide : "is" ≠ "")
    refine ⟨ofSurface, ofBaseForm, surfacePrepared, baseFormPrepared, ?_, ?_⟩
    · rw [← Bool.not_eq_true, acceptsSurface, acceptsBaseForm]
      exact ⟨by decide +kernel, "iſ".toList, .inl rfl, by decide +kernel⟩
    · rw [← Bool.not_eq_true, acceptsSurface, acceptsBaseForm]
      exact ⟨by decide +kernel, "is".toList, .inr rfl, by decide +kernel⟩
  · obtain ⟨ofSurface, ofBaseForm, surfacePrepared, baseFormPrepared, acceptsSurface,
      acceptsBaseForm⟩ := exists_prepared_literals (by decide : "i\u0307" ≠ "")
    refine ⟨ofSurface, ofBaseForm, surfacePrepared, baseFormPrepared, ?_⟩
    rw [← Bool.not_eq_true, acceptsSurface, acceptsBaseForm,
      Regex.Comparison.spells_insensitive_iff]
    refine ⟨by decide +kernel, ?_⟩
    rintro (equal | ⟨front, withLineFeed, _⟩)
    · exact absurd equal.length_eq (by decide)
    · have lastCharacter := congrArg (fun text => text.toList.getLast?) withLineFeed
      simp at lastCharacter

end Token

end ProseRules
