import ProseRules.Proofs.Pattern.Taking

namespace ProseRules.Step

/-!
# The steps of tokens

The steps of one token take the runs of words that pass its test and whose length
lies within its bounds. The steps of a pattern are those of its tokens in a row,
so a token that has to take a word keeps a step that cannot be skipped.
-/

/-- Steps for exactly so many words take them first and leave the others to the rest. -/
theorem takes_replicate_once_append_iff
    {count index : Nat}
    {test : ReadyTest}
    {rest : List Step}
    {words : List Word}
    {alignment : List Nat} :
    Takes (List.replicate count ⟨.once, index, test⟩ ++ rest) words alignment ↔
      ∃ first later laterAlignment,
        words = first ++ later ∧
          first.length = count ∧
            (∀ word ∈ first, test.holds word = true) ∧
              Takes rest later laterAlignment ∧
                alignment = List.replicate count index ++ laterAlignment := by
  induction count generalizing words alignment with
  | zero =>
      constructor
      · intro takes
        exact ⟨[], words, alignment, rfl, rfl, by simp, by simpa using takes, rfl⟩
      · rintro ⟨first, later, laterAlignment, rfl, noWords, _, takesLater, rfl⟩
        obtain rfl := List.eq_nil_of_length_eq_zero noWords
        simpa using takesLater
  | succ count inductionHypothesis =>
      rw [List.replicate_succ, List.cons_append]
      constructor
      · intro takes
        cases takes with
        | take passed takesRest =>
            obtain ⟨first, later, laterAlignment, rfl, length, allPass, takesLater, rfl⟩ :=
              inductionHypothesis.mp takesRest
            exact
              ⟨_ :: first, later, laterAlignment, rfl, by simp [length],
                by simpa using ⟨passed, allPass⟩, takesLater, by simp [List.replicate_succ]⟩
        | skip skippable _ =>
            simp [isSkippable] at skippable
      · rintro ⟨first, later, laterAlignment, rfl, length, allPass, takesLater, rfl⟩
        cases first with
        | nil =>
            simp at length
        | cons word first =>
            rw [List.forall_mem_cons] at allPass
            exact .take allPass.1
              (inductionHypothesis.mpr
                ⟨first, later, laterAlignment, rfl, by simpa using length, allPass.2,
                  takesLater, rfl⟩)

/-- Steps for at most so many words take any words up to their number that pass. -/
theorem takes_replicate_optional_iff
    {count index : Nat}
    {test : ReadyTest}
    {words : List Word}
    {alignment : List Nat} :
    Takes (List.replicate count ⟨.optional, index, test⟩) words alignment ↔
      words.length ≤ count ∧
        (∀ word ∈ words, test.holds word = true) ∧
          alignment = List.replicate words.length index := by
  induction count generalizing words alignment with
  | zero =>
      constructor
      · intro takes
        cases takes
        simp
      · rintro ⟨noWords, _, rfl⟩
        obtain rfl := List.eq_nil_of_length_eq_zero (Nat.le_zero.mp noWords)
        exact .nil
  | succ count inductionHypothesis =>
      rw [List.replicate_succ]
      constructor
      · intro takes
        cases takes with
        | take passed takesRest =>
            obtain ⟨short, allPass, rfl⟩ := inductionHypothesis.mp takesRest
            exact ⟨Nat.succ_le_succ short, by simpa using ⟨passed, allPass⟩, rfl⟩
        | skip _ takesRest =>
            obtain ⟨short, allPass, rfl⟩ := inductionHypothesis.mp takesRest
            exact ⟨Nat.le_succ_of_le short, allPass, rfl⟩
      · rintro ⟨short, allPass, rfl⟩
        cases words with
        | nil =>
            exact .skip rfl (inductionHypothesis.mpr ⟨Nat.zero_le count, by simp, rfl⟩)
        | cons word words =>
            rw [List.forall_mem_cons] at allPass
            exact .take allPass.1
              (inductionHypothesis.mpr ⟨Nat.le_of_succ_le_succ short, allPass.2, rfl⟩)

/-- A repeated step takes any words that pass. -/
theorem takes_repeated_iff
    {index : Nat}
    {test : ReadyTest}
    {words : List Word}
    {alignment : List Nat} :
    Takes [⟨.repeated, index, test⟩] words alignment ↔
      (∀ word ∈ words, test.holds word = true) ∧
        alignment = List.replicate words.length index := by
  induction words generalizing alignment with
  | nil =>
      simp [Takes.no_words_iff, isSkippable]
  | cons word words inductionHypothesis =>
      constructor
      · intro takes
        cases takes with
        | take passed takesRest =>
            obtain ⟨allPass, rfl⟩ := inductionHypothesis.mp takesRest
            exact ⟨by simpa using ⟨passed, allPass⟩, rfl⟩
        | skip _ takesRest =>
            cases takesRest
      · rintro ⟨allPass, rfl⟩
        rw [List.forall_mem_cons] at allPass
        exact .take allPass.1 (inductionHypothesis.mpr ⟨allPass.2, rfl⟩)

/-- The steps of a token take as many words as its bounds allow if all of them pass. -/
theorem takes_ofToken_iff
    {token : Token}
    {index : Nat}
    {test : ReadyTest}
    {words : List Word}
    {alignment : List Nat} :
    Takes (ofToken token index test) words alignment ↔
      token.least ≤ words.length ∧
        (∀ most, token.most = some most → words.length ≤ most) ∧
          (∀ word ∈ words, test.holds word = true) ∧
            alignment = List.replicate words.length index := by
  have ordered := token.bounds_ordered
  unfold ofToken
  rw [takes_replicate_once_append_iff]
  cases most : token.most with
  | none =>
      simp only [takes_repeated_iff]
      constructor
      · rintro ⟨first, later, _, rfl, length, firstPass, ⟨laterPass, rfl⟩, rfl⟩
        refine ⟨by simp [length], by simp, ?_, ?_⟩
        · exact List.forall_mem_append.mpr ⟨firstPass, laterPass⟩
        · rw [List.replicate_append_replicate, List.length_append, length]
      · rintro ⟨enough, _, allPass, rfl⟩
        refine ⟨words.take token.least, words.drop token.least, _, by simp, by simp [enough],
          fun word member => allPass word (List.mem_of_mem_take member),
          ⟨fun word member => allPass word (List.mem_of_mem_drop member), rfl⟩, ?_⟩
        rw [List.replicate_append_replicate, List.length_drop]
        congr 1
        omega
  | some greatest =>
      have leastBelow := ordered greatest most
      simp only [takes_replicate_optional_iff]
      constructor
      · rintro ⟨first, later, _, rfl, length, firstPass, ⟨short, laterPass, rfl⟩, rfl⟩
        refine ⟨by simp [length], ?_, ?_, ?_⟩
        · rintro _ ⟨⟩
          rw [List.length_append]
          omega
        · exact List.forall_mem_append.mpr ⟨firstPass, laterPass⟩
        · rw [List.replicate_append_replicate, List.length_append, length]
      · rintro ⟨enough, short, allPass, rfl⟩
        have shortEnough := short greatest rfl
        refine ⟨words.take token.least, words.drop token.least, _, by simp, by simp [enough],
          fun word member => allPass word (List.mem_of_mem_take member),
          ⟨?_, fun word member => allPass word (List.mem_of_mem_drop member), rfl⟩, ?_⟩
        · rw [List.length_drop]
          omega
        · rw [List.replicate_append_replicate, List.length_drop]
          congr 1
          omega

/-- A token has at least one step. -/
theorem ofToken_ne_nil
    (token : Token)
    (index : Nat)
    (test : ReadyTest) :
    ofToken token index test ≠ [] := by
  have ordered := token.bounds_ordered
  unfold ofToken
  cases most : token.most with
  | none =>
      simp
  | some most' =>
      have := ordered most' most
      simp only [ne_eq, List.append_eq_nil_iff, List.replicate_eq_nil_iff]
      omega

/-- A token that has to take a word has a step that cannot be skipped. -/
theorem mem_ofToken_of_least_pos
    {token : Token}
    (required : 0 < token.least)
    (index : Nat)
    (test : ReadyTest) :
    ⟨.once, index, test⟩ ∈ ofToken token index test := by
  unfold ofToken
  exact List.mem_append_left _ (List.mem_replicate.mpr ⟨by omega, rfl⟩)

/-- The steps of a pattern are those of its first token and those of the others. -/
theorem ofTokensFrom_cons_eq_ok_iff
    {index : Nat}
    {token : Token}
    {rest : List Token}
    {steps : List Step} :
    ofTokensFrom index (token :: rest) = .ok steps ↔
      ∃ test later,
        token.wordTest.prepare = .ok test ∧
          ofTokensFrom (index + 1) rest = .ok later ∧
            steps = ofToken token index test ++ later := by
  cases prepared : token.wordTest.prepare with
  | error failure =>
      simp [ofTokensFrom, prepared, bind, Except.bind]
  | ok test =>
      cases further : ofTokensFrom (index + 1) rest with
      | error failure =>
          simp [ofTokensFrom, prepared, further, bind, Except.bind]
      | ok later =>
          simp [ofTokensFrom, prepared, further, bind, Except.bind, pure, Except.pure, eq_comm]

/-- Tokens have steps. -/
theorem ofTokens_ne_nil
    {tokens : List Token}
    (someTokens : tokens ≠ [])
    {steps : List Step}
    (compiled : ofTokens tokens = .ok steps) :
    steps ≠ [] := by
  cases tokens with
  | nil =>
      exact (someTokens rfl).elim
  | cons token rest =>
      obtain ⟨test, later, _, _, rfl⟩ := ofTokensFrom_cons_eq_ok_iff.mp compiled
      simp [ofToken_ne_nil]

/-- A token of a pattern that has to take a word keeps a step that cannot be skipped. -/
theorem exists_once_of_mem_ofTokensFrom
    {index : Nat}
    {tokens : List Token}
    {steps : List Step}
    (compiled : ofTokensFrom index tokens = .ok steps)
    {token : Token}
    (member : token ∈ tokens)
    (required : 0 < token.least) :
    ∃ step ∈ steps,
      step.kind = .once ∧ token.wordTest.prepare = .ok step.test := by
  induction tokens generalizing index steps with
  | nil =>
      simp at member
  | cons first rest inductionHypothesis =>
      obtain ⟨test, later, prepared, compiledRest, rfl⟩ :=
        ofTokensFrom_cons_eq_ok_iff.mp compiled
      rcases List.mem_cons.mp member with rfl | inRest
      · exact
          ⟨⟨.once, index, test⟩,
            List.mem_append_left later (mem_ofToken_of_least_pos required index test),
            rfl, prepared⟩
      · obtain ⟨step, stepMember, once, stepPrepared⟩ :=
          inductionHypothesis compiledRest inRest
        exact ⟨step, List.mem_append_right _ stepMember, once, stepPrepared⟩

/-- A token that has to take a word is given one that passes its test. -/
theorem exists_passing_word_of_takes
    {tokens : List Token}
    {steps : List Step}
    (compiled : ofTokens tokens = .ok steps)
    {words : List Word}
    {alignment : List Nat}
    (takes : Takes steps words alignment)
    {token : Token}
    (member : token ∈ tokens)
    (required : 0 < token.least) :
    ∃ test,
      token.wordTest.prepare = .ok test ∧
        ∃ word ∈ words, test.holds word = true := by
  obtain ⟨step, stepMember, once, prepared⟩ :=
    exists_once_of_mem_ofTokensFrom compiled member required
  exact ⟨step.test, prepared, takes.exists_word_of_once stepMember once⟩

end ProseRules.Step
