import ProseRules.Pattern.Run
import ProseRules.Rule.Basic

namespace ProseRules

/-!
# Immunization

Before a rule is matched, the words taken by its anti-patterns are added to the
words of the sentence that no match may touch. A sentence without such words is
left as it is.
-/

/-- The words of a range as indices. -/
def Candidate.indices (candidate : Candidate) : List Int :=
  (List.range candidate.alignment.length).map fun offset => Int.ofNat (candidate.start + offset)

/-- The words taken by some anti-pattern. -/
def antipatternIndices (antipatterns : List (List Token)) (words : List Word) :
    Except Failure (List Int) := do
  let patterns ← antipatterns.mapM Step.ofTokens
  return (candidates patterns words).flatMap Candidate.indices

/-- The sentence with the words of the anti-patterns immunized; empty anti-patterns do not count. -/
def immunizeByAntipatterns (antipatterns : List (List Token)) : Immunizer := fun sentence => do
  let antipatterns := antipatterns.filter (!·.isEmpty)
  if antipatterns.isEmpty then
    return sentence
  let indices ← antipatternIndices antipatterns sentence.words
  return if indices.isEmpty then sentence else sentence.immunize indices

/-- The step before matching: the one given for the rule, or else its anti-patterns. -/
def Rule.immunizer (rule : Rule) : Immunizer :=
  rule.ownImmunizer.getD (immunizeByAntipatterns rule.antipatterns)

end ProseRules
