import ProseRules.Pattern.Run

namespace ProseRules.Candidate

/-!
# Choosing between overlapping candidates

Of candidates that share a word the longer one is kept, and of equally long ones
the one that starts earlier. The kept candidates are in the order of the text.
-/

/-- The candidate comes before another one when choices are made. -/
def isPreferred (first second : Candidate) : Bool :=
  second.alignment.length < first.alignment.length
    || (first.alignment.length = second.alignment.length && first.start ≤ second.start)

/-- Two candidates share a word. -/
def overlaps (first second : Candidate) : Bool :=
  first.start < second.stop && second.start < first.stop

/-- Add a candidate to those chosen before unless it overlaps one of them. -/
def choose (chosen : List Candidate) (candidate : Candidate) : List Candidate :=
  if chosen.any candidate.overlaps then chosen else chosen ++ [candidate]

/-- The candidates that are kept, in the order of the text. -/
def longestFirst (candidates : List Candidate) : List Candidate :=
  ((candidates.mergeSort isPreferred).foldl choose []).mergeSort
    fun first second => first.start ≤ second.start

end ProseRules.Candidate
