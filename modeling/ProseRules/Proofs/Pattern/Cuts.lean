import Mathlib.Data.List.Forall2
import ProseRules.Proofs.Pattern.Steps

namespace ProseRules

/-!
# Cutting words into runs

The steps of a pattern take words exactly if these can be cut into consecutive runs, one
for each token: as many words as the operator of the token allows, each of which passes
its test. A run may be empty. The alignment says how the words were cut.
-/

namespace Token

/-- The test of a token can be read, and the word passes it. -/
def Admits (token : Token) (word : Word) : Prop :=
  ∃ test, token.spec.test.prepare = .ok test ∧ test.holds word = true

/-- A run of words that a token takes. -/
structure TakesRun (token : Token) (run : List Word) : Prop where
  enough : token.least ≤ run.length
  notTooMany : ∀ most, token.most = some most → run.length ≤ most
  passing : ∀ word ∈ run, token.Admits word

/-- The operator of a token allows the numbers of words within its bounds. -/
theorem operator_admits_iff
    {token : Token}
    {count : Nat} :
    token.spec.operator.Admits count ↔
      token.least ≤ count ∧ ∀ most, token.most = some most → count ≤ most := by
  have ordered := token.bounds_ordered
  simp only [spec, operator]
  split
  case h_6 =>
    rename_i most isMost _ _
    have inOrder := ordered most isMost
    split
    · simp only [Operator.Admits, isMost, Option.some.injEq, forall_eq']
      omega
    · simp only [Operator.Admits, isMost, Option.some.injEq, forall_eq']
  all_goals simp only [Operator.Admits, *]
  all_goals simp
  all_goals omega

/-- A token that any word passes takes as many words as its operator allows. -/
theorem takesRun_iff_admits
    {token : Token}
    (anyWord : token.spec.test = .any)
    {run : List Word} :
    token.TakesRun run ↔ token.spec.operator.Admits run.length := by
  rw [operator_admits_iff]
  constructor
  · intro takes
    exact ⟨takes.enough, takes.notTooMany⟩
  · rintro ⟨enough, notTooMany⟩
    exact ⟨enough, notTooMany, fun _ _ => ⟨.any, by rw [anyWord]; rfl, rfl⟩⟩

end Token

/-- The tokens of words that are cut into runs, the first of them with a number. -/
def alignmentOf : (index : Nat) → (runs : List (List Word)) → List Nat
  | _, [] => []
  | index, run :: runs => List.replicate run.length index ++ alignmentOf (index + 1) runs

theorem length_alignmentOf
    (index : Nat)
    (runs : List (List Word)) :
    (alignmentOf index runs).length = runs.flatten.length := by
  induction runs generalizing index with
  | nil =>
      rfl
  | cons run runs inductionHypothesis =>
      simp [alignmentOf, inductionHypothesis]

/-- The words are given to the tokens that have a run. -/
theorem lt_of_mem_alignmentOf
    {index token : Nat}
    {runs : List (List Word)}
    (member : token ∈ alignmentOf index runs) :
    token < index + runs.length := by
  induction runs generalizing index with
  | nil =>
      simp [alignmentOf] at member
  | cons run runs inductionHypothesis =>
      rw [List.length_cons]
      rcases List.mem_append.mp member with inFirst | later
      · have := List.eq_of_mem_replicate inFirst
        omega
      · have := inductionHypothesis later
        omega

/-- The runs cut the words, one run for each token. -/
structure Cuts (tokens : List Token) (words : List Word) (runs : List (List Word)) : Prop where
  together : runs.flatten = words
  taken : List.Forall₂ Token.TakesRun tokens runs

namespace Step

/-- Steps in a row take words that can be split between them. -/
theorem Takes.exists_split
    {first second : List Step}
    {words : List Word}
    {alignment : List Nat}
    (takes : Takes (first ++ second) words alignment) :
    ∃ firstWords secondWords firstAlignment secondAlignment,
      words = firstWords ++ secondWords ∧
        alignment = firstAlignment ++ secondAlignment ∧
          Takes first firstWords firstAlignment ∧ Takes second secondWords secondAlignment := by
  generalize inARow : first ++ second = steps at takes
  induction takes generalizing first with
  | nil =>
      obtain ⟨rfl, rfl⟩ := List.append_eq_nil_iff.mp inARow
      exact ⟨[], [], [], [], rfl, rfl, .nil, .nil⟩
  | @take step rest word words alignment passed takesRest inductionHypothesis =>
      cases first with
      | nil =>
          rw [List.nil_append] at inARow
          subst inARow
          exact ⟨[], word :: words, [], _, rfl, rfl, .nil, .take passed takesRest⟩
      | cons step' first =>
          obtain ⟨rfl, rfl⟩ := List.cons_eq_cons.mp inARow
          obtain ⟨firstWords, secondWords, _, _, rfl, rfl, takesFirst, takesSecond⟩ :=
            inductionHypothesis (afterTaking_append step' first second).symm
          exact
            ⟨word :: firstWords, secondWords, _, _, rfl, rfl, .take passed takesFirst,
              takesSecond⟩
  | @skip step rest words alignment skippable takesRest inductionHypothesis =>
      cases first with
      | nil =>
          rw [List.nil_append] at inARow
          subst inARow
          exact ⟨[], words, [], alignment, rfl, rfl, .nil, .skip skippable takesRest⟩
      | cons step' first =>
          obtain ⟨rfl, rfl⟩ := List.cons_eq_cons.mp inARow
          obtain ⟨firstWords, secondWords, _, _, rfl, rfl, takesFirst, takesSecond⟩ :=
            inductionHypothesis rfl
          exact ⟨firstWords, secondWords, _, _, rfl, rfl, .skip skippable takesFirst, takesSecond⟩

/-- The steps of a token take the runs that the token takes. -/
theorem takes_ofToken_iff_takesRun
    {token : Token}
    {index : Nat}
    {test : ReadyTest}
    (prepared : token.wordTest.prepare = .ok test)
    {run : List Word}
    {alignment : List Nat} :
    Takes (ofToken token index test) run alignment ↔
      token.TakesRun run ∧ alignment = List.replicate run.length index := by
  rw [takes_ofToken_iff]
  constructor
  · rintro ⟨enough, notTooMany, passing, rfl⟩
    exact ⟨⟨enough, notTooMany, fun word member => ⟨test, prepared, passing word member⟩⟩, rfl⟩
  · rintro ⟨⟨enough, notTooMany, admitted⟩, rfl⟩
    refine ⟨enough, notTooMany, ?_, rfl⟩
    intro word member
    obtain ⟨test', prepared', passed⟩ := admitted word member
    have sameTest : test = test' := Except.ok.inj (prepared.symm.trans prepared')
    rw [sameTest]
    exact passed

/-- The steps of tokens take exactly the words that can be cut into runs. -/
theorem takes_ofTokensFrom_iff
    {index : Nat}
    {tokens : List Token}
    {steps : List Step}
    (compiled : ofTokensFrom index tokens = .ok steps)
    {words : List Word}
    {alignment : List Nat} :
    Takes steps words alignment ↔
      ∃ runs, Cuts tokens words runs ∧ alignment = alignmentOf index runs := by
  induction tokens generalizing index steps words alignment with
  | nil =>
      cases compiled
      constructor
      · intro takes
        cases takes
        exact ⟨[], ⟨rfl, .nil⟩, rfl⟩
      · rintro ⟨runs, ⟨rfl, taken⟩, rfl⟩
        cases taken
        exact .nil
  | cons token rest inductionHypothesis =>
      obtain ⟨test, later, prepared, compiledRest, rfl⟩ :=
        ofTokensFrom_cons_eq_ok_iff.mp compiled
      constructor
      · intro takes
        obtain ⟨run, laterWords, _, _, rfl, rfl, takesFirst, takesLater⟩ := takes.exists_split
        obtain ⟨takesRun, rfl⟩ := (takes_ofToken_iff_takesRun prepared).mp takesFirst
        obtain ⟨runs, ⟨rfl, taken⟩, rfl⟩ := (inductionHypothesis compiledRest).mp takesLater
        exact ⟨run :: runs, ⟨rfl, .cons takesRun taken⟩, rfl⟩
      · rintro ⟨runs, ⟨rfl, taken⟩, rfl⟩
        cases taken with
        | @cons _ run _ runs takesRun taken =>
            have takesFirst :
                Takes (ofToken token index test) run (List.replicate run.length index) :=
              (takes_ofToken_iff_takesRun prepared).mpr ⟨takesRun, rfl⟩
            have takesLater := (inductionHypothesis compiledRest).mpr ⟨runs, ⟨rfl, taken⟩, rfl⟩
            exact takesFirst.append takesLater

end Step

/-- No word is given to a token before the first run. -/
theorem le_of_mem_alignmentOf
    {index token : Nat}
    {runs : List (List Word)}
    (member : token ∈ alignmentOf index runs) :
    index ≤ token := by
  induction runs generalizing index with
  | nil =>
      simp [alignmentOf] at member
  | cons run runs inductionHypothesis =>
      rcases List.mem_append.mp member with inFirst | later
      · exact Nat.le_of_eq (List.eq_of_mem_replicate inFirst).symm
      · exact Nat.le_of_succ_le (inductionHypothesis later)

/-- The words of runs are given to their tokens in order. -/
theorem pairwise_alignmentOf
    (index : Nat)
    (runs : List (List Word)) :
    (alignmentOf index runs).Pairwise (· ≤ ·) := by
  induction runs generalizing index with
  | nil =>
      exact .nil
  | cons run runs inductionHypothesis =>
      refine List.pairwise_append.mpr ⟨?_, inductionHypothesis (index + 1), ?_⟩
      · exact List.pairwise_replicate.mpr (.inr (Nat.le_refl index))
      · intro token inFirst later laterMember
        rw [List.eq_of_mem_replicate inFirst]
        exact Nat.le_of_succ_le (le_of_mem_alignmentOf laterMember)

/-- The words that an alignment gives to a token are the run of the token. -/
theorem map_filter_zip_alignmentOf
    {index place : Nat}
    {runs : List (List Word)} :
    (((alignmentOf index runs).zip runs.flatten).filter (·.1 = index + place)).map (·.2) =
      runs[place]?.getD [] := by
  induction runs generalizing index place with
  | nil =>
      rfl
  | cons run runs inductionHypothesis =>
      have sameLength : (List.replicate run.length index).length = run.length := by simp
      have ofRun :
          ∀ entry ∈ (List.replicate run.length index).zip run, entry.1 = index :=
        fun entry member => List.eq_of_mem_replicate (List.of_mem_zip member).1
      rw [alignmentOf, List.flatten_cons, List.zip_append sameLength, List.filter_append,
        List.map_append]
      cases place with
      | zero =>
          have wholeRun :
              ((List.replicate run.length index).zip run).filter (·.1 = index + 0) =
                (List.replicate run.length index).zip run :=
            List.filter_eq_self.mpr fun entry member => by simpa using ofRun entry member
          have noneLater :
              ((alignmentOf (index + 1) runs).zip runs.flatten).filter (·.1 = index + 0) = [] := by
            rw [List.filter_eq_nil_iff]
            intro entry member
            have := le_of_mem_alignmentOf (List.of_mem_zip member).1
            simp only [decide_eq_true_eq]
            omega
          rw [wholeRun, noneLater, List.map_snd_zip (Nat.le_of_eq sameLength.symm)]
          simp
      | succ place =>
          have noneOfRun :
              ((List.replicate run.length index).zip run).filter (·.1 = index + (place + 1)) =
                [] := by
            rw [List.filter_eq_nil_iff]
            intro entry member
            have := ofRun entry member
            simp only [decide_eq_true_eq]
            omega
          have samePlace : index + (place + 1) = index + 1 + place := by omega
          rw [noneOfRun, samePlace, inductionHypothesis]
          simp

namespace Candidate

/-- The words given to a token. -/
def runOf (candidate : Candidate) (words : List Word) (token : Nat) : List Word :=
  (candidate.positionsOf token).filterMap (words[·]?)

/-- The words given to a token are those beside which its number stands. -/
theorem runOf_eq
    (candidate : Candidate)
    (words : List Word)
    (token : Nat) :
    candidate.runOf words token =
      ((candidate.alignment.zip (words.drop candidate.start)).filter (·.1 = token)).map (·.2) := by
  obtain ⟨start, alignment⟩ := candidate
  induction alignment generalizing start with
  | nil =>
      rfl
  | cons owner alignment inductionHypothesis =>
      have later := inductionHypothesis (start + 1)
      simp only [runOf, positionsOf] at later ⊢
      rw [List.zipIdx_cons, List.filterMap_cons]
      have laterWords : words.drop (start + 1) = (words.drop start).tail := by
        rw [List.tail_drop]
      have atStart : words[start]? = (words.drop start).head? := by
        rw [List.head?_drop]
      rw [laterWords] at later
      cases left : words.drop start <;> by_cases isOwner : owner = token <;> simp_all

/-- The candidate takes the words of the runs and gives them to their tokens. -/
structure CutInto (candidate : Candidate) (words : List Word) (runs : List (List Word)) :
    Prop where
  isBeginning : runs.flatten <+: words.drop candidate.start
  alignment : candidate.alignment = alignmentOf 0 runs

/-- The words given to a token are its run. -/
theorem CutInto.runOf_eq
    {candidate : Candidate}
    {words : List Word}
    {runs : List (List Word)}
    (cut : candidate.CutInto words runs)
    (token : Nat) :
    candidate.runOf words token = runs[token]?.getD [] := by
  obtain ⟨more, together⟩ := cut.isBeginning
  have sameLength := length_alignmentOf 0 runs
  have ofRun := @map_filter_zip_alignmentOf 0 token runs
  rw [Nat.zero_add] at ofRun
  rw [Candidate.runOf_eq, cut.alignment, ← together, ← List.append_nil (alignmentOf 0 runs),
    List.zip_append sameLength, List.zip_nil_left, List.append_nil]
  exact ofRun

end Candidate

end ProseRules
