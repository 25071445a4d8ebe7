import ProseRules.Token.Spec

namespace ProseRules

/-!
# Steps of a pattern

A pattern is run as a row of steps. A token contributes one step for each word it
has to take and one for each further word it may take; a token without an upper
bound ends in a step that can be repeated. Every step remembers its token.
-/

/-- How a step takes words. -/
inductive StepKind where
  /-- Exactly one word. -/
  | once
  /-- One word or none. -/
  | optional
  /-- Any number of words. -/
  | repeated
  deriving Repr, DecidableEq

/-- A step of a pattern. -/
structure Step where
  kind : StepKind
  /-- The place of the token in its pattern. -/
  token : Nat
  test : ReadyTest
  deriving Repr, DecidableEq

namespace Step

/-- The step can be passed without taking a word. -/
def isSkippable (step : Step) : Bool :=
  step.kind ≠ .once

/-- The steps of one token. -/
def ofToken (token : Token) (index : Nat) (test : ReadyTest) : List Step :=
  let further :=
    match token.most with
    | none => [⟨.repeated, index, test⟩]
    | some most => List.replicate (most - token.least) ⟨.optional, index, test⟩
  List.replicate token.least ⟨.once, index, test⟩ ++ further

/-- The steps of tokens that start at a place of their pattern. -/
def ofTokensFrom (index : Nat) : List Token → Except Failure (List Step)
  | [] => .ok []
  | token :: rest => do
      let test ← token.wordTest.prepare
      let steps ← ofTokensFrom (index + 1) rest
      return ofToken token index test ++ steps

/-- The steps of a pattern. -/
def ofTokens (tokens : List Token) : Except Failure (List Step) :=
  ofTokensFrom 0 tokens

end Step

end ProseRules
