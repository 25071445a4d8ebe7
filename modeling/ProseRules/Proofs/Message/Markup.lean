import Mathlib.Data.List.Infix
import ProseRules.Message

namespace ProseRules

/-!
# Tags in a message

A message is read from tag to tag. How a message of several parts is read is put together
from the parts: an opening tag after a part always begins a suggestion or lies in one, and
a closing tag after a part always leaves the message outside of suggestions.
-/

/-- A tag begins with an angle bracket and has no other one. -/
def IsTag (tag : List Char) : Prop :=
  ∃ name, tag = '<' :: name ∧ '<' ∉ name

theorem isTag_openingTag :
    IsTag openingTag :=
  ⟨_, rfl, by decide⟩

theorem isTag_closingTag :
    IsTag closingTag :=
  ⟨_, rfl, by decide⟩

theorem IsTag.ne_nil
    {tag : List Char}
    (isTag : IsTag tag) :
    tag ≠ [] := by
  rintro rfl
  obtain ⟨_, isCons, _⟩ := isTag
  cases isCons

/-- A text holds a tag and after it another one. -/
def HoldsInOrder (first second text : List Char) : Prop :=
  ∃ before between after, text = before ++ first ++ between ++ second ++ after

section Cut

variable {tag text : List Char}

theorem cutAt?_cons_of_begins
    {character : Char}
    {rest : List Char}
    (begins : tag <+: character :: rest) :
    cutAt? tag (character :: rest) = some ([], (character :: rest).drop tag.length) := by
  rw [cutAt?, if_pos (List.isPrefixOf_iff_prefix.mpr begins)]

theorem cutAt?_cons_of_not_begins
    {character : Char}
    {rest : List Char}
    (other : ¬tag <+: character :: rest) :
    cutAt? tag (character :: rest) =
      (cutAt? tag rest).map fun (before, after) => (character :: before, after) := by
  rw [cutAt?, if_neg (mt List.isPrefixOf_iff_prefix.mp other)]

/-- A text cannot be cut exactly if it does not hold the tag. -/
theorem cutAt?_eq_none_iff
    (nonempty : tag ≠ []) :
    cutAt? tag text = none ↔ ¬tag <:+: text := by
  induction text with
  | nil =>
      simp [cutAt?, nonempty]
  | cons character rest inductionHypothesis =>
      by_cases begins : tag <+: character :: rest
      · simp [cutAt?_cons_of_begins begins, begins.isInfix]
      · simp [cutAt?_cons_of_not_begins begins, List.infix_cons_iff, begins, inductionHypothesis]

/-- The two parts of a cut text stand around the tag. -/
theorem eq_of_cutAt?
    {before after : List Char}
    (isCut : cutAt? tag text = some (before, after)) :
    text = before ++ tag ++ after := by
  induction text generalizing before with
  | nil =>
      rw [cutAt?] at isCut
      split at isCut <;> simp_all
  | cons character rest inductionHypothesis =>
      by_cases begins : tag <+: character :: rest
      · rw [cutAt?_cons_of_begins begins] at isCut
        cases isCut
        rw [List.nil_append]
        exact (List.prefix_iff_eq_append.mp begins).symm
      · rw [cutAt?_cons_of_not_begins begins] at isCut
        obtain ⟨⟨before', after'⟩, isCut', same⟩ := Option.map_eq_some_iff.mp isCut
        cases same
        rw [inductionHypothesis isCut']
        rfl

/-- A text is cut no later than at a given place of the tag. -/
theorem exists_cutAt?
    (nonempty : tag ≠ [])
    (before after : List Char) :
    ∃ before' after',
      cutAt? tag (before ++ tag ++ after) = some (before', after') ∧ after <:+ after' := by
  induction before with
  | nil =>
      obtain ⟨character, name, rfl⟩ := List.exists_cons_of_ne_nil nonempty
      refine ⟨[], after, ?_, List.suffix_rfl⟩
      rw [List.nil_append, List.cons_append, cutAt?_cons_of_begins (List.prefix_append _ _)]
      simp
  | cons character before inductionHypothesis =>
      obtain ⟨before', after', isCut, isLater⟩ := inductionHypothesis
      rw [List.cons_append, List.cons_append]
      by_cases begins : tag <+: character :: (before ++ tag ++ after)
      · refine ⟨_, _, cutAt?_cons_of_begins begins, ?_⟩
        have long : tag.length ≤ (character :: before ++ tag).length := by
          rw [List.length_append]
          omega
        rw [← List.cons_append, ← List.cons_append, List.drop_append_of_le_length long]
        exact List.suffix_append _ _
      · refine ⟨character :: before', after', ?_, isLater⟩
        rw [cutAt?_cons_of_not_begins begins, isCut]
        rfl

/-- A text holds two tags in order exactly if the second one follows where the first one cuts. -/
theorem holdsInOrder_iff
    {second : List Char}
    (nonempty : tag ≠ []) :
    HoldsInOrder tag second text ↔
      ∃ before after, cutAt? tag text = some (before, after) ∧ second <:+: after := by
  constructor
  · rintro ⟨before, between, after, rfl⟩
    obtain ⟨before', after', isCut, isLater⟩ :=
      exists_cutAt? nonempty before (between ++ second ++ after)
    have follows : second <:+: between ++ second ++ after := ⟨between, after, rfl⟩
    simp only [List.append_assoc] at isCut isLater follows ⊢
    exact ⟨before', after', isCut, follows.trans isLater.isInfix⟩
  · rintro ⟨before, after, isCut, between, later, rfl⟩
    exact ⟨before, between, later, by rw [eq_of_cutAt? isCut]; simp⟩

end Cut

section Tags

variable {tag : List Char}

/-- No tag goes on beyond a bracket that follows the text in which it begins. -/
theorem IsTag.prefix_append_iff
    (isTag : IsTag tag)
    {character : Char}
    {text later : List Char} :
    tag <+: character :: (text ++ '<' :: later) ↔ tag <+: character :: text := by
  constructor
  · intro begins
    rcases List.prefix_or_prefix_of_prefix begins
        (List.prefix_append (character :: text) ('<' :: later)) with within | ⟨others, isTagText⟩
    · exact within
    · obtain ⟨name, isName, onlyOne⟩ := isTag
      have goesOn : others <+: '<' :: later := by
        rw [← isTagText, ← List.cons_append] at begins
        exact (List.prefix_append_right_inj _).mp begins
      cases others with
      | nil =>
          rw [← isTagText, List.append_nil]
      | cons bracket others =>
          obtain ⟨rfl, _⟩ := List.cons_prefix_cons.mp goesOn
          rw [isName, List.cons_append, List.cons.injEq] at isTagText
          exact absurd (isTagText.2 ▸ by simp) onlyOne
  · intro begins
    exact begins.trans ⟨'<' :: later, rfl⟩

/-- Where a text before a bracket is cut, or else what follows. -/
theorem IsTag.cutAt?_append
    (isTag : IsTag tag)
    (text later : List Char) :
    cutAt? tag (text ++ '<' :: later) =
      match cutAt? tag text with
        | some (before, after) => some (before, after ++ '<' :: later)
        | none =>
            (cutAt? tag ('<' :: later)).map fun (before, after) => (text ++ before, after) := by
  induction text with
  | nil =>
      have notEmpty : cutAt? tag [] = none := by
        simp [cutAt?, isTag.ne_nil]
      simp [notEmpty]
  | cons character text inductionHypothesis =>
      by_cases begins : tag <+: character :: text
      · have long := begins.length_le
        rw [List.cons_append, cutAt?_cons_of_begins (isTag.prefix_append_iff.mpr begins),
          cutAt?_cons_of_begins begins, ← List.cons_append,
          List.drop_append_of_le_length long]
      · rw [List.cons_append, cutAt?_cons_of_not_begins (mt isTag.prefix_append_iff.mp begins),
          cutAt?_cons_of_not_begins begins, inductionHypothesis]
        cases cutAt? tag text with
        | some parts =>
            rfl
        | none =>
            simp [Function.comp_def]

theorem IsTag.cutAt?_append_tag
    (isTag : IsTag tag)
    {other : List Char}
    (isOther : IsTag other)
    (text later : List Char) :
    cutAt? tag (text ++ other ++ later) =
      match cutAt? tag text with
        | some (before, after) => some (before, after ++ other ++ later)
        | none =>
            (cutAt? tag (other ++ later)).map fun (before, after) => (text ++ before, after) := by
  obtain ⟨name, rfl, _⟩ := isOther
  simp only [List.append_assoc, List.cons_append]
  exact isTag.cutAt?_append text (name ++ later)

theorem IsTag.cutAt?_tag
    (isTag : IsTag tag)
    (later : List Char) :
    cutAt? tag (tag ++ later) = some ([], later) := by
  obtain ⟨name, rfl, _⟩ := isTag
  rw [List.cons_append, cutAt?_cons_of_begins (List.prefix_append _ _)]
  simp

/-- A text is cut at a tag that it does not hold before. -/
theorem IsTag.cutAt?_of_not_infix
    (isTag : IsTag tag)
    {before : List Char}
    (notBefore : ¬tag <:+: before)
    (after : List Char) :
    cutAt? tag (before ++ tag ++ after) = some (before, after) := by
  rw [isTag.cutAt?_append_tag isTag, (cutAt?_eq_none_iff isTag.ne_nil).mpr notBefore,
    isTag.cutAt?_tag]
  simp

/-- A text does not hold the tag before the place where it is cut. -/
theorem IsTag.not_infix_of_cutAt?
    (isTag : IsTag tag)
    {text before after : List Char}
    (isCut : cutAt? tag text = some (before, after)) :
    ¬tag <:+: before := by
  intro isBefore
  obtain ⟨⟨before', after'⟩, isCut'⟩ :=
    Option.ne_none_iff_exists'.mp (mt (cutAt?_eq_none_iff isTag.ne_nil).mp (not_not.mpr isBefore))
  have sameText := eq_of_cutAt? isCut
  have sooner := isTag.cutAt?_append_tag isTag before after
  rw [← sameText, isCut, isCut', Option.some.injEq, Prod.mk.injEq] at sooner
  have lengths := congrArg List.length (eq_of_cutAt? isCut')
  rw [sooner.1] at lengths
  simp only [List.length_append] at lengths
  exact isTag.ne_nil (List.eq_nil_of_length_eq_zero (by omega))

end Tags

/-- A text that does not hold both tags at one place is cut after another tag. -/
theorem IsTag.cutAt?_other
    {tag other : List Char}
    (isTag : IsTag tag)
    (isOther : IsTag other)
    (differ : ¬tag <+: other)
    (differ' : ¬other <+: tag)
    (later : List Char) :
    cutAt? tag (other ++ later) =
      (cutAt? tag later).map fun (before, after) => (other ++ before, after) := by
  have withoutBracket
      (name : List Char)
      (noBracket : '<' ∉ name) :
      cutAt? tag (name ++ later) =
        (cutAt? tag later).map fun (before, after) => (name ++ before, after) := by
    induction name with
    | nil =>
        simp
    | cons character name inductionHypothesis =>
        obtain ⟨isNone, areNone⟩ := not_or.mp (mt List.mem_cons.mpr noBracket)
        have notHere : ¬tag <+: character :: (name ++ later) := by
          intro begins
          obtain ⟨_, rfl, _⟩ := isTag
          exact isNone (List.cons_prefix_cons.mp begins).1
        rw [List.cons_append, cutAt?_cons_of_not_begins notHere, inductionHypothesis areNone]
        simp [Function.comp_def]
  have notAtOther : ¬tag <+: other ++ later := by
    intro begins
    rcases List.prefix_or_prefix_of_prefix begins (List.prefix_append other later) with
      agrees | agrees
    · exact differ agrees
    · exact differ' agrees
  obtain ⟨name, rfl, noBracket⟩ := isOther
  rw [List.cons_append] at notAtOther ⊢
  rw [cutAt?_cons_of_not_begins notAtOther, withoutBracket name noBracket]
  simp [Function.comp_def]

theorem cutAt?_closingTag_openingTag
    (later : List Char) :
    cutAt? closingTag (openingTag ++ later) =
      (cutAt? closingTag later).map fun (before, after) => (openingTag ++ before, after) :=
  isTag_closingTag.cutAt?_other isTag_openingTag (by decide) (by decide) later

theorem cutAt?_openingTag_closingTag
    (later : List Char) :
    cutAt? openingTag (closingTag ++ later) =
      (cutAt? openingTag later).map fun (before, after) => (closingTag ++ before, after) :=
  isTag_openingTag.cutAt?_other isTag_closingTag (by decide) (by decide) later

/-- No closing tag follows the opening tag at which a message without a pair is cut. -/
theorem cutAt?_closingTag_of_not_holdsInOrder
    {message before inside : List Char}
    (noPair : ¬HoldsInOrder openingTag closingTag message)
    (isOpening : cutAt? openingTag message = some (before, inside)) :
    cutAt? closingTag inside = none := by
  refine (cutAt?_eq_none_iff isTag_closingTag.ne_nil).mpr fun holdsClosing => noPair ?_
  exact (holdsInOrder_iff isTag_openingTag.ne_nil).mpr ⟨before, inside, isOpening, holdsClosing⟩

section Segments

theorem segmentsWithin_eq
    {message : List Char}
    {limit limit' : Nat}
    (enough : message.length ≤ limit)
    (enough' : message.length ≤ limit') :
    segmentsWithin limit message = segmentsWithin limit' message := by
  induction limit generalizing limit' message with
  | zero =>
      obtain rfl := List.eq_nil_of_length_eq_zero (Nat.le_zero.mp enough)
      cases limit' with
      | zero =>
          rfl
      | succ limit' =>
          rfl
  | succ limit inductionHypothesis =>
      cases limit' with
      | zero =>
          obtain rfl := List.eq_nil_of_length_eq_zero (Nat.le_zero.mp enough')
          rfl
      | succ limit' =>
          rw [segmentsWithin, segmentsWithin]
          cases isOpening : cutAt? openingTag message with
          | none =>
              rfl
          | some parts =>
              dsimp only
              cases isClosing : cutAt? closingTag parts.2 with
              | none =>
                  rfl
              | some parts' =>
                  have atOpening := congrArg List.length (eq_of_cutAt? isOpening)
                  have atClosing := congrArg List.length (eq_of_cutAt? isClosing)
                  have someTag := List.length_pos_iff.mpr isTag_openingTag.ne_nil
                  simp only [List.length_append] at atOpening atClosing
                  have sameLater :=
                    @inductionHypothesis parts'.2 limit' (by omega) (by omega)
                  simp only [sameLater]

/-- A message without a pair of tags is plain. -/
theorem segments_of_not_holdsInOrder
    {message : List Char}
    (noPair : ¬HoldsInOrder openingTag closingTag message) :
    segments message = [.plain message] := by
  rw [segments]
  cases message.length with
  | zero =>
      rfl
  | succ limit =>
      rw [segmentsWithin]
      cases isOpening : cutAt? openingTag message with
      | none =>
          rfl
      | some parts =>
          dsimp only
          rw [cutAt?_closingTag_of_not_holdsInOrder noPair isOpening]

/-- A message is read up to the first pair of tags, and then what follows. -/
theorem segments_pair
    {before suggestion : List Char}
    (noOpening : ¬openingTag <:+: before)
    (noClosing : ¬closingTag <:+: suggestion)
    (later : List Char) :
    segments (before ++ openingTag ++ (suggestion ++ closingTag ++ later)) =
      .plain before :: .suggestion suggestion :: segments later := by
  have someTag := List.length_pos_iff.mpr isTag_openingTag.ne_nil
  have someLimit :
      ∃ limit,
        (before ++ openingTag ++ (suggestion ++ closingTag ++ later)).length = limit + 1 ∧
          later.length ≤ limit := by
    refine ⟨_, (Nat.succ_pred_eq_of_pos ?_).symm, ?_⟩ <;>
      simp only [List.length_append, Nat.pred_eq_sub_one] <;> omega
  obtain ⟨limit, isLimit, enough⟩ := someLimit
  rw [segments, isLimit, segmentsWithin, isTag_openingTag.cutAt?_of_not_infix noOpening]
  dsimp only
  rw [isTag_closingTag.cutAt?_of_not_infix noClosing]
  dsimp only
  rw [segmentsWithin_eq enough (Nat.le_refl _), segments]

/-- Every message is plain or read up to its first pair of tags. -/
@[elab_as_elim] theorem message_induction
    {motive : List Char → Prop}
    (plain : ∀ message, ¬HoldsInOrder openingTag closingTag message → motive message)
    (pair :
      ∀ before suggestion later,
        ¬openingTag <:+: before →
        ¬closingTag <:+: suggestion →
        motive later →
        motive (before ++ openingTag ++ (suggestion ++ closingTag ++ later)))
    (message : List Char) :
    motive message := by
  induction size : message.length using Nat.strong_induction_on generalizing message with
  | h length inductionHypothesis =>
      by_cases holds : HoldsInOrder openingTag closingTag message
      · obtain ⟨before, inside, isOpening, holdsClosing⟩ :=
          (holdsInOrder_iff isTag_openingTag.ne_nil).mp holds
        obtain ⟨⟨suggestion, later⟩, isClosing⟩ :=
          Option.ne_none_iff_exists'.mp
            (mt (cutAt?_eq_none_iff isTag_closingTag.ne_nil).mp (not_not.mpr holdsClosing))
        have someTag := List.length_pos_iff.mpr isTag_openingTag.ne_nil
        obtain rfl := eq_of_cutAt? isOpening
        obtain rfl := eq_of_cutAt? isClosing
        refine pair before suggestion later (isTag_openingTag.not_infix_of_cutAt? isOpening)
          (isTag_closingTag.not_infix_of_cutAt? isClosing) (inductionHypothesis _ ?_ later rfl)
        rw [← size]
        simp only [List.length_append]
        omega
      · exact plain message holds

/-- The first segments of a message tell how it begins. -/
theorem exists_later_of_segments
    {message before suggestion : List Char}
    {others : List Segment}
    (areSegments : segments message = .plain before :: .suggestion suggestion :: others) :
    ¬openingTag <:+: before ∧
      ¬closingTag <:+: suggestion ∧
        ∃ later,
          message = before ++ openingTag ++ (suggestion ++ closingTag ++ later) ∧
            segments later = others := by
  induction message using message_induction with
  | plain message noPair =>
      rw [segments_of_not_holdsInOrder noPair] at areSegments
      cases areSegments
  | pair before' suggestion' later noOpening noClosing _ =>
      rw [segments_pair noOpening noClosing] at areSegments
      cases areSegments
      exact ⟨noOpening, noClosing, later, rfl, rfl⟩

end Segments

/-- The number of suggestions in a message. -/
def pairsIn (message : List Char) : Nat :=
  ((segments message).filterMap Segment.suggestion?).length

section Pairs

variable {message : List Char}

theorem pairsIn_of_not_holdsInOrder
    (noPair : ¬HoldsInOrder openingTag closingTag message) :
    pairsIn message = 0 := by
  rw [pairsIn, segments_of_not_holdsInOrder noPair]
  rfl

theorem pairsIn_pair
    {before suggestion : List Char}
    (noOpening : ¬openingTag <:+: before)
    (noClosing : ¬closingTag <:+: suggestion)
    (later : List Char) :
    pairsIn (before ++ openingTag ++ (suggestion ++ closingTag ++ later)) = pairsIn later + 1 := by
  rw [pairsIn, segments_pair noOpening noClosing]
  rfl

/-- The suggestions of a message are counted by where it is cut. -/
theorem pairsIn_eq
    (message : List Char) :
    pairsIn message =
      match cutAt? openingTag message with
        | none => 0
        | some (_, inside) =>
            match cutAt? closingTag inside with
            | none => 0
            | some (_, later) => pairsIn later + 1 := by
  induction message using message_induction with
  | plain message noPair =>
      rw [pairsIn_of_not_holdsInOrder noPair]
      split
      · rfl
      · rename_i isOpening
        rw [cutAt?_closingTag_of_not_holdsInOrder noPair isOpening]
  | pair before suggestion later noOpening noClosing _ =>
      rw [pairsIn_pair noOpening noClosing, isTag_openingTag.cutAt?_of_not_infix noOpening]
      dsimp only
      rw [isTag_closingTag.cutAt?_of_not_infix noClosing]

/-- A message has no suggestion exactly if it has no pair of tags. -/
theorem pairsIn_eq_zero_iff :
    pairsIn message = 0 ↔ ¬HoldsInOrder openingTag closingTag message := by
  refine ⟨?_, pairsIn_of_not_holdsInOrder⟩
  induction message using message_induction with
  | plain message noPair =>
      exact fun _ => noPair
  | pair before suggestion later noOpening noClosing _ =>
      rw [pairsIn_pair noOpening noClosing]
      exact fun isZero => absurd isZero (Nat.succ_ne_zero _)

theorem segments_eq_plain_iff :
    segments message = [.plain message] ↔ ¬HoldsInOrder openingTag closingTag message := by
  refine ⟨fun isPlain => ?_, segments_of_not_holdsInOrder⟩
  rw [← pairsIn_eq_zero_iff, pairsIn, isPlain]
  rfl

/-- What follows an opening tag is counted as if the tag began the message. -/
theorem pairsIn_append_openingTag
    (message later : List Char) :
    pairsIn (message ++ openingTag ++ later) =
      pairsIn message + pairsIn (openingTag ++ later) := by
  induction message using message_induction with
  | plain message noPair =>
      rw [pairsIn_of_not_holdsInOrder noPair, pairsIn_eq (message ++ openingTag ++ later),
        pairsIn_eq (openingTag ++ later),
        isTag_openingTag.cutAt?_append_tag isTag_openingTag, isTag_openingTag.cutAt?_tag]
      cases isOpening : cutAt? openingTag message with
      | none =>
          simp
      | some parts =>
          dsimp only
          rw [isTag_closingTag.cutAt?_append_tag isTag_openingTag,
            cutAt?_closingTag_of_not_holdsInOrder noPair isOpening,
            cutAt?_closingTag_openingTag]
          cases cutAt? closingTag later <;> simp
  | pair before suggestion later' noOpening noClosing inductionHypothesis =>
      have regrouped :
          before ++ openingTag ++ (suggestion ++ closingTag ++ later') ++ openingTag ++ later =
            before ++ openingTag
                ++ (suggestion ++ closingTag ++ (later' ++ openingTag ++ later)) := by
        simp only [List.append_assoc]
      rw [regrouped, pairsIn_pair noOpening noClosing, pairsIn_pair noOpening noClosing,
        inductionHypothesis]
      omega

/-- What follows a closing tag is counted on its own. -/
theorem pairsIn_append_closingTag
    (message later : List Char) :
    pairsIn (message ++ closingTag ++ later) =
      pairsIn (message ++ closingTag) + pairsIn later := by
  induction message using message_induction with
  | plain message noPair =>
      have counted
          (later : List Char) :
          pairsIn (message ++ closingTag ++ later) =
            (if cutAt? openingTag message = none then 0 else 1) + pairsIn later := by
        rw [pairsIn_eq (message ++ closingTag ++ later),
          isTag_openingTag.cutAt?_append_tag isTag_closingTag]
        cases isOpening : cutAt? openingTag message with
        | none =>
            rw [pairsIn_eq later, cutAt?_openingTag_closingTag]
            cases cutAt? openingTag later <;> simp
        | some parts =>
            dsimp only
            rw [isTag_closingTag.cutAt?_append_tag isTag_closingTag,
              cutAt?_closingTag_of_not_holdsInOrder noPair isOpening,
              isTag_closingTag.cutAt?_tag]
            simp [Nat.add_comm]
      have closed := counted []
      have isZero : pairsIn [] = 0 := rfl
      rw [List.append_nil, isZero, Nat.add_zero] at closed
      rw [counted, closed]
  | pair before suggestion later' noOpening noClosing inductionHypothesis =>
      have regrouped
          (ending : List Char) :
          before ++ openingTag ++ (suggestion ++ closingTag ++ later') ++ ending =
            before ++ openingTag ++ (suggestion ++ closingTag ++ (later' ++ ending)) := by
        simp only [List.append_assoc]
      rw [List.append_assoc _ closingTag later, regrouped, regrouped,
        pairsIn_pair noOpening noClosing, pairsIn_pair noOpening noClosing,
        ← List.append_assoc, inductionHypothesis]
      omega

theorem holdsInOrder_append_closingTag_iff
    (message : List Char) :
    HoldsInOrder openingTag closingTag (message ++ closingTag) ↔ openingTag <:+: message := by
  constructor
  · intro holds
    by_contra noOpening
    obtain ⟨before, inside, isOpening, _⟩ := (holdsInOrder_iff isTag_openingTag.ne_nil).mp holds
    have isCut := isTag_openingTag.cutAt?_append_tag isTag_closingTag message []
    rw [(cutAt?_eq_none_iff isTag_openingTag.ne_nil).mpr noOpening,
      cutAt?_openingTag_closingTag, List.append_nil, isOpening] at isCut
    cases isCut
  · rintro ⟨before, between, rfl⟩
    exact ⟨before, between, [], by simp⟩

/-- A text between tags makes one suggestion, and more if it closes and opens others itself. -/
theorem pairsIn_between_tags
    (suggestion : List Char) :
    1 ≤ pairsIn (openingTag ++ suggestion ++ closingTag) ∧
      (pairsIn (openingTag ++ suggestion ++ closingTag) = 1 ↔
          ¬HoldsInOrder closingTag openingTag suggestion) := by
  have noOpening : ¬openingTag <:+: [] := by
    rw [List.infix_nil]
    exact isTag_openingTag.ne_nil
  cases isClosing : cutAt? closingTag suggestion with
  | none =>
      have noClosing := (cutAt?_eq_none_iff isTag_closingTag.ne_nil).mp isClosing
      have isOne := pairsIn_pair noOpening noClosing []
      rw [List.nil_append, List.append_nil, ← List.append_assoc] at isOne
      rw [holdsInOrder_iff isTag_closingTag.ne_nil, isClosing, isOne]
      simp [show pairsIn [] = 0 from rfl]
  | some parts =>
      obtain ⟨before, later⟩ := parts
      have counted :=
        pairsIn_pair noOpening (isTag_closingTag.not_infix_of_cutAt? isClosing)
          (later ++ closingTag)
      have regrouped :
          openingTag ++ suggestion ++ closingTag =
            [] ++ openingTag ++ (before ++ closingTag ++ (later ++ closingTag)) := by
        rw [eq_of_cutAt? isClosing]
        simp
      rw [regrouped, counted, holdsInOrder_iff isTag_closingTag.ne_nil, isClosing,
        ← not_iff_not, Nat.add_eq_right, pairsIn_eq_zero_iff, holdsInOrder_append_closingTag_iff]
      simp

end Pairs

end ProseRules
