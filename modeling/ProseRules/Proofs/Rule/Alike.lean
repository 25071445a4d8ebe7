import ProseRules.Proofs.Outcome
import ProseRules.Rule.Matching

namespace ProseRules.Rule

/-!
# Rules that find the same

Two rules with the same pattern and the same corrections find the same places in a sentence.
If the matches that they build there agree up to some change, then so do all of the matches
that they report.
-/

/-- Another rule finds the same, and the matches of both agree up to changes. -/
structure FindsLike (rule other : Rule) (change change' : RuleMatch → RuleMatch) : Prop where
  id : other.id = rule.id
  pattern : other.pattern = rule.pattern
  startCorrection : other.startCorrection = rule.startCorrection
  endCorrection : other.endCorrection = rule.endCorrection
  buildMatch :
    ∀ sentence span wordSpan reference,
      (rule.buildMatch sentence span wordSpan reference).map change =
        (other.buildMatch sentence span wordSpan reference).map change'

section Alike

variable {rule other : Rule} {change change' : RuleMatch → RuleMatch}
  (alike : rule.FindsLike other change change') (sentence : Sentence)
include alike

theorem withoutImmunized_eq
    (scale : UnitScale)
    (candidates : List Candidate) :
    other.withoutImmunized scale sentence candidates =
      rule.withoutImmunized scale sentence candidates := by
  induction candidates with
  | nil =>
      rfl
  | cons candidate rest inductionHypothesis =>
      simp only [withoutImmunized, alike.id, alike.startCorrection, alike.endCorrection,
        inductionHypothesis]

theorem matchOfCandidate_map_eq
    (scale : UnitScale)
    (candidate : Candidate) :
    (rule.matchOfCandidate scale sentence candidate).map change =
      (other.matchOfCandidate scale sentence candidate).map change' := by
  simp only [matchOfCandidate, Outcome.map_bind, alike.startCorrection, alike.endCorrection,
    alike.buildMatch]

theorem matchTokens_map_eq
    (tokens : List Token) :
    (rule.matchTokens tokens sentence).map (List.map change) =
      (other.matchTokens tokens sentence).map (List.map change') := by
  have sameTokens : other.tokens = rule.tokens := by
    rw [Rule.tokens, alike.pattern, Rule.tokens]
  have sameScale : UnitScale.ofRule other = UnitScale.ofRule rule := by
    simp only [UnitScale.ofRule, usesGrouping, unitSizes, sameTokens]
    rfl
  cases tokens with
  | nil =>
      rfl
  | cons =>
      simp only [matchTokens, List.isEmpty_cons, Bool.false_eq_true, if_false, Outcome.map_bind,
        sameScale, withoutImmunized_eq alike,
        Outcome.map_mapM_eq (matchOfCandidate_map_eq alike sentence (.ofRule rule))]

theorem matchOfOccurrence_map_eq
    (mark : Nat)
    (text : List Char)
    (occurrence : Regex.Occurrence) :
    (rule.matchOfOccurrence mark sentence text occurrence).map (Option.map change) =
      (other.matchOfOccurrence mark sentence text occurrence).map (Option.map change') := by
  have regrouped (outcome : Except Failure RuleMatch) (image : RuleMatch → RuleMatch) :
      (outcome.map some).map (Option.map image) = (outcome.map image).map some := by
    cases outcome <;> rfl
  unfold matchOfOccurrence
  split
  · rfl
  · split
    · rfl
    · dsimp only
      split
      · rw [alike.id]
        cases rule.id.shown <;> rfl
      · rw [regrouped, regrouped, alike.buildMatch]

theorem matchExpression_map_eq
    (expression : Regex.Expression)
    (mark : Nat) :
    (rule.matchExpression expression mark sentence).map (List.map change) =
      (other.matchExpression expression mark sentence).map (List.map change') := by
  have each :=
    Outcome.map_mapM_eq (matchOfOccurrence_map_eq alike sentence mark sentence.text.toList)
      (expression.occurrences sentence.text.toList)
  have regrouped
      (outcome : Except Failure (List (Option RuleMatch)))
      (image : RuleMatch → RuleMatch) :
      (outcome >>= fun found => pure (found.filterMap fun entry => entry)).map (List.map image) =
        (outcome.map (List.map (Option.map image))).map (List.filterMap fun entry => entry) := by
    cases outcome with
    | error failure =>
        rfl
    | ok found =>
        simp [bind, Except.bind, pure, Except.pure, Except.map, List.filterMap_map,
          List.map_filterMap]
  exact (regrouped _ _).trans ((congrArg _ each).trans (regrouped _ _).symm)

theorem matchPattern_map_eq :
    (rule.matchPattern sentence).map (List.map change) =
      (other.matchPattern sentence).map (List.map change') := by
  unfold matchPattern
  rw [alike.pattern]
  split
  · rfl
  · exact matchTokens_map_eq alike sentence _
  · exact matchExpression_map_eq alike sentence _ _

/-- Such rules report the same up to changes in a sentence whose words they immunize alike. -/
theorem matchesIn_map_eq
    (hasPattern : rule.hasPattern = true)
    (sameImmunizer : other.immunizer sentence = rule.immunizer sentence) :
    (rule.matchesIn sentence).map (List.map change) =
      (other.matchesIn sentence).map (List.map change') := by
  have sameKind : other.hasPattern = true := by
    rwa [Rule.hasPattern, alike.pattern, ← Rule.hasPattern]
  -- The immunized sentence is matched alike, and failures are reworded alike.
  have sameOutcome :
      (rule.immunizer sentence >>= rule.matchPattern).map (List.map change) =
        (other.immunizer sentence >>= other.matchPattern).map (List.map change') := by
    rw [sameImmunizer, Outcome.map_bind, Outcome.map_bind]
    exact congrArg _ (funext (matchPattern_map_eq alike))
  rw [matchesIn, matchesIn, if_pos hasPattern, if_pos sameKind]
  cases found : rule.immunizer sentence >>= rule.matchPattern <;>
    cases found' : other.immunizer sentence >>= other.matchPattern <;>
      simp_all [Except.map]

end Alike

end ProseRules.Rule
