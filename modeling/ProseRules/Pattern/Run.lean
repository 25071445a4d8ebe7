import ProseRules.Pattern.Step

namespace ProseRules

/-!
# Running patterns over words

From each word of a sentence the patterns are run side by side. A thread is one
way to have come so far: the steps that remain and the tokens to which the words
were given. Every range of words that some thread takes is found once, with the
tokens of the thread that took it first.
-/

/-- A way to have taken some words. -/
structure Thread where
  /-- The steps that remain, the current one first. -/
  steps : List Step
  /-- The tokens of the words taken, latest first. -/
  trail : List Nat
  deriving Repr, DecidableEq

/-- What becomes of a thread at the next word. -/
structure Advance where
  /-- Trails on which a pattern is complete. -/
  completed : List (List Nat) := []
  /-- The thread itself, if it goes on. -/
  kept : List Thread := []
  /-- Further threads that branch off. -/
  branched : List Thread := []
  deriving Repr, DecidableEq

namespace Thread

/-- Take or skip steps at a word. -/
def advanceOver (word : Word) (trail : List Nat) : List Step → Advance
  | [] => {}
  | step :: rest =>
      let taken := step.token :: trail
      if step.test.holds word then
        match step.kind, rest with
        | .once, [] => { completed := [taken] }
        | .once, _ => { kept := [⟨rest, taken⟩] }
        | .optional, [] => { completed := [trail, taken] }
        | .repeated, [] => { completed := [trail], kept := [⟨[step], taken⟩] }
        | .optional, _ =>
            let later := advanceOver word trail rest
            { later with branched := ⟨rest, taken⟩ :: later.branched }
        | .repeated, _ =>
            let later := advanceOver word trail rest
            { later with branched := ⟨step :: rest, taken⟩ :: later.branched }
      else
        match step.kind, rest with
        | .once, _ => {}
        | _, [] => { completed := [trail] }
        | _, _ => advanceOver word trail rest

/-- What becomes of a thread at a word. -/
def advance (thread : Thread) (word : Word) : Advance :=
  advanceOver word thread.trail thread.steps

/-- The trail of a thread whose remaining steps can all be skipped. -/
def completed? (thread : Thread) : Option (List Nat) :=
  if thread.steps.all Step.isSkippable then some thread.trail else none

/-- The trails on which threads complete their patterns over the words. -/
def trails (threads : List Thread) : List Word → List (List Nat)
  | [] => threads.filterMap completed?
  | word :: words =>
      let advances := threads.map (·.advance word)
      advances.flatMap (·.completed)
        ++ trails (advances.flatMap (·.kept) ++ advances.flatMap (·.branched)) words

end Thread

/-- A range of words that a pattern takes. -/
structure Candidate where
  start : Nat
  /-- The token to which each word of the range was given. -/
  alignment : List Nat
  deriving Repr, DecidableEq

namespace Candidate

/-- The end of the range. -/
def stop (candidate : Candidate) : Nat :=
  candidate.start + candidate.alignment.length

/-- The words given to a token, in order. -/
def positionsOf (candidate : Candidate) (token : Nat) : List Nat :=
  (candidate.alignment.zipIdx candidate.start).filterMap fun (owner, position) =>
    if owner = token then some position else none

/-- The words given to the tokens from `first` up to `last`, token by token. -/
def positionsBetween (candidate : Candidate) (tokens : Nat) (first last : Int) : List Nat :=
  ((List.range tokens).filter fun (token : Nat) => first ≤ token && token < last).flatMap
    candidate.positionsOf

end Candidate

/-- The distinct non-empty ranges that start at one word. -/
def candidatesFrom (patterns : List (List Step)) (start : Nat) (words : List Word) :
    List Candidate :=
  let trails := Thread.trails (patterns.map fun steps => ⟨steps, []⟩) words
  ((trails.filter (!·.isEmpty)).eraseDupsBy fun left right => left.length == right.length).map
    fun trail => ⟨start, trail.reverse⟩

/-- The distinct non-empty ranges of words that some of the patterns take. -/
def candidates (patterns : List (List Step)) (words : List Word) : List Candidate :=
  (List.range words.length).flatMap fun start =>
    candidatesFrom patterns start (words.drop start)

end ProseRules
