import ProseRules.Proofs.Rule.Alike

namespace ProseRules

/-!
# What a rule is called does not decide what it matches

The sub-id of a rule is copied into its matches, and the language, the description and
the mark of an alternative are not looked at. Anti-patterns only count by the words that
they immunize.
-/

/-- The match with another sub-id. -/
def RuleMatch.withSubId (ruleMatch : RuleMatch) (subId : Value) : RuleMatch :=
  { ruleMatch with subId := subId }

namespace Rule

/-- Another rule looks for the same and reports the same, apart from its sub-id. -/
structure AgreesWith (rule other : Rule) : Prop where
  id : other.id = rule.id
  message : other.message = rule.message
  shortMessage : other.shortMessage = rule.shortMessage
  extraSuggestions : other.extraSuggestions = rule.extraSuggestions
  pattern : other.pattern = rule.pattern
  startCorrection : other.startCorrection = rule.startCorrection
  endCorrection : other.endCorrection = rule.endCorrection

/-- Rules that agree find the same. -/
theorem AgreesWith.findsLike
    {rule other : Rule}
    (agrees : rule.AgreesWith other) :
    rule.FindsLike other (·.withSubId other.subId) (fun ruleMatch => ruleMatch) := by
  refine ⟨agrees.id, agrees.pattern, agrees.startCorrection, agrees.endCorrection, ?_⟩
  intro sentence span wordSpan reference
  simp only [buildMatch, Outcome.map_bind, agrees.id, agrees.message, agrees.shortMessage,
    agrees.extraSuggestions]
  refine congrArg _ (funext fun message => congrArg _ (funext fun shortMessage => ?_))
  split <;>
    · rw [Outcome.map_bind, Outcome.map_bind]
      rfl

/-- Rules that agree have the same matches in a sentence whose words they immunize alike. -/
theorem matchesIn_eq_map
    {rule other : Rule}
    (agrees : rule.AgreesWith other)
    (sentence : Sentence)
    (sameImmunizer : other.immunizer sentence = rule.immunizer sentence)
    (idIsText : ∃ text, rule.id = .text text)
    (canBeShown : rule.subId.canBeShown = true)
    (canBeShown' : other.subId.canBeShown = true) :
    other.matchesIn sentence =
      (rule.matchesIn sentence).map (List.map (·.withSubId other.subId)) := by
  cases hasPattern : rule.hasPattern with
  | true =>
      rw [matchesIn_map_eq agrees.findsLike sentence hasPattern sameImmunizer, List.map_id_fun']
      cases other.matchesIn sentence <;> rfl
  | false =>
      obtain ⟨text, isText⟩ := idIsText
      have sameKind : other.hasPattern = false := by
        rwa [Rule.hasPattern, agrees.pattern, ← Rule.hasPattern]
      have refuses :
          ∀ rule' : Rule, rule'.id = .text text → rule'.subId.canBeShown = true →
            rule'.hasPattern = false →
              rule'.matchesIn sentence = .error (.definition (.noPattern text)) := by
        intro rule' isText' isShown noPattern
        rw [matchesIn, noPattern, if_neg Bool.false_ne_true]
        simp only [fullId, isText', Value.shown, isShown, if_true]
        split <;> rfl
      rw [refuses rule isText canBeShown hasPattern,
        refuses other (agrees.id.trans isText) canBeShown' sameKind]
      rfl

end Rule

end ProseRules
