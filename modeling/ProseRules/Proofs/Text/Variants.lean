import Mathlib.Data.List.Pairwise
import ProseRules.Text.Case

namespace ProseRules.Text

/-!
# Characters that are equal without case

The runs of the case table are apart from each other, and no small letter of a run is a capital
letter of one. So a capital letter is found by its run and by its small letter, and two characters
are equal without case exactly if their small letters count as the same letter.
-/

section Runs

variable {run other : Nat × Nat × Nat × Int} {code small : Nat}

/-- A code point is a capital letter of the run. -/
def InRun (run : Nat × Nat × Nat × Int) (code : Nat) : Prop :=
  run.1 ≤ code ∧ code ≤ run.2.1 ∧ (code - run.1) % run.2.2.1 = 0

/-- The small letter of a capital letter of the run. -/
def smallInRun (run : Nat × Nat × Nat × Int) (code : Nat) : Nat :=
  ((code : Int) + run.2.2.2).toNat

/-- The first run ends before the second one begins. -/
def EndsBefore (run next : Nat × Nat × Nat × Int) : Prop :=
  run.1 ≤ run.2.1 ∧ run.2.1 < next.1

/-- All code points from the first to the last one are characters. -/
def AreCharacters (first last : Nat) : Prop :=
  last < 0xD800 ∨ 0xDFFF < first ∧ last < 0x110000

/--
The small letters of the run lie before the other run, after it, or on the code points that it
leaves out because capital and small letters alternate there.
-/
def missesRun (run other : Nat × Nat × Nat × Int) : Bool :=
  (smallInRun run run.2.1).blt other.1 ||
    other.2.1.blt (smallInRun run run.1) ||
      (other.2.2.1 == 2 && (run.2.2.1 == 2 || run.1 == run.2.1) &&
        (smallInRun run run.1 + other.1) % 2 == 1)

theorem lowerRuns_isChain :
    lowerRuns.IsChain EndsBefore := by
  unfold EndsBefore
  decide +kernel

theorem areCharacters_of_mem_lowerRuns :
    ∀ run ∈ lowerRuns,
      AreCharacters run.1 run.2.1 ∧
        AreCharacters (smallInRun run run.1) (smallInRun run run.2.1) ∧
          0 ≤ (run.1 : Int) + run.2.2.2 := by
  unfold AreCharacters
  decide +kernel

theorem eq_of_mem_lowerRuns_of_lt :
    ∀ run ∈ lowerRuns, run.1 < 128 → run = (65, 90, 1, 32) := by
  decide +kernel

theorem all_missesRun :
    (lowerRuns.all fun run => lowerRuns.all (missesRun run)) = true := by
  decide +kernel

theorem AreCharacters.isValidChar
    {first last : Nat}
    (areCharacters : AreCharacters first last)
    (notBefore : first ≤ code)
    (notAfter : code ≤ last) :
    code.isValidChar := by
  unfold AreCharacters at areCharacters
  unfold Nat.isValidChar
  omega

/-- No code point is a capital letter of two runs. -/
theorem InRun.eq
    (inRun : InRun run code)
    (member : run ∈ lowerRuns)
    (inOther : InRun other code)
    (otherMember : other ∈ lowerRuns) :
    run = other := by
  have transitive : Trans EndsBefore EndsBefore EndsBefore := by
    refine ⟨fun before after => ?_⟩
    unfold EndsBefore at *
    omega
  have inOrder : lowerRuns.Pairwise EndsBefore :=
    List.isChain_iff_pairwise.mp lowerRuns_isChain
  have apart :
      lowerRuns.Pairwise fun run other => InRun run code → InRun other code → run = other :=
    inOrder.imp fun before inRun inOther => by
      unfold EndsBefore at before
      unfold InRun at inRun inOther
      omega
  have symmetric :
      Std.Symm fun run other => InRun run code → InRun other code → run = other :=
    ⟨fun _ _ same inRun inOther => (same inOther inRun).symm⟩
  exact apart.forall_of_forall (fun _ _ _ _ => rfl) member otherMember inRun inOther

/-- A capital letter of a run becomes the small letter by that run. -/
theorem lowerCode?_eq_some_iff :
    lowerCode? code = some small ↔
      ∃ run ∈ lowerRuns, InRun run code ∧ smallInRun run code = small := by
  have inRun_iff :
      ∀ run : Nat × Nat × Nat × Int,
        (run.1 ≤ code && code ≤ run.2.1 && (code - run.1) % run.2.2.1 == 0) = true ↔
          InRun run code := by
    simp [InRun, and_assoc]
  unfold lowerCode?
  rw [Option.map_eq_some_iff]
  constructor
  · rintro ⟨run, found, isSmall⟩
    have inRun := List.find?_some found
    exact ⟨run, List.mem_of_find?_eq_some found, (inRun_iff run).mp inRun, isSmall⟩
  · rintro ⟨run, member, inRun, isSmall⟩
    refine ⟨run, ?_, isSmall⟩
    generalize found : List.find? _ lowerRuns = result
    cases result with
    | none =>
        exact (List.find?_eq_none.mp found run member ((inRun_iff run).mpr inRun)).elim
    | some other =>
        have inOther := List.find?_some found
        rw [inRun.eq member ((inRun_iff other).mp inOther) (List.mem_of_find?_eq_some found)]

/-- The capital letters of a small letter are those that become it. -/
theorem mem_capitalsOf_iff :
    code ∈ capitalsOf small ↔ lowerCode? code = some small := by
  rw [lowerCode?_eq_some_iff, capitalsOf, List.mem_filterMap]
  refine exists_congr fun run => and_congr_right fun member => ?_
  obtain ⟨_, _, shifted⟩ := areCharacters_of_mem_lowerRuns run member
  obtain ⟨first, last, step, shift⟩ := run
  simp only [InRun, smallInRun, Int.ofNat_eq_natCast, Bool.and_eq_true, decide_eq_true_eq,
    beq_iff_eq, Option.ite_none_right_eq_some, Option.some.injEq] at shifted ⊢
  constructor
  · rintro ⟨⟨⟨notBefore, notAfter⟩, inStep⟩, rfl⟩
    exact ⟨⟨by omega, by omega, inStep⟩, by omega⟩
  · rintro ⟨⟨notBefore, notAfter, inStep⟩, rfl⟩
    have same : ((((code : Int) + shift).toNat : Int) - shift).toNat = code := by
      omega
    exact ⟨⟨⟨by omega, by omega⟩, by rwa [same]⟩, same⟩

/-- What a capital letter becomes is no capital letter. -/
theorem lowerCode?_small
    (isSmall : lowerCode? code = some small) :
    lowerCode? small = none := by
  obtain ⟨run, member, ⟨notBefore, notAfter, inStep⟩, rfl⟩ := lowerCode?_eq_some_iff.mp isSmall
  rw [Option.eq_none_iff_forall_ne_some]
  intro smaller isSmaller
  obtain ⟨other, otherMember, ⟨otherBefore, otherAfter, inOtherStep⟩, -⟩ :=
    lowerCode?_eq_some_iff.mp isSmaller
  have misses : missesRun run other = true :=
    List.all_eq_true.mp (List.all_eq_true.mp all_missesRun run member) other otherMember
  obtain ⟨_, _, shifted⟩ := areCharacters_of_mem_lowerRuns run member
  obtain ⟨first, last, step, shift⟩ := run
  simp only [missesRun, smallInRun, Nat.blt_eq, Bool.or_eq_true,
    Bool.and_eq_true, beq_iff_eq] at *
  rcases misses with (before | after) | ⟨⟨alternate, spaced⟩, odd⟩
  · omega
  · omega
  · rw [alternate] at inOtherStep
    rcases spaced with rfl | rfl <;> omega

theorem isValidChar_of_lowerCode?
    (isSmall : lowerCode? code = some small) :
    code.isValidChar ∧ small.isValidChar := by
  obtain ⟨run, member, ⟨notBefore, notAfter, _⟩, rfl⟩ := lowerCode?_eq_some_iff.mp isSmall
  obtain ⟨capitals, smalls, shifted⟩ := areCharacters_of_mem_lowerRuns run member
  refine ⟨capitals.isValidChar notBefore notAfter, smalls.isValidChar ?_ ?_⟩
  · unfold smallInRun
    omega
  · unfold smallInRun
    omega

end Runs

theorem toNat_ofNat_of_isValidChar
    {code : Nat}
    (isValid : code.isValidChar) :
    (Char.ofNat code).toNat = code := by
  rw [Char.ofNat, dif_pos isValid]
  rfl

/-- The only capital letters among the first 128 characters are those from A to Z. -/
theorem lowerCode?_of_lt
    {code : Nat}
    (isPlain : code < 128) :
    lowerCode? code = if 65 ≤ code ∧ code ≤ 90 then some (code + 32) else none := by
  split
  · rename_i inRange
    refine lowerCode?_eq_some_iff.mpr ⟨(65, 90, 1, 32), List.mem_cons_self, ?_, ?_⟩
    · exact ⟨inRange.1, inRange.2, Nat.mod_one _⟩
    · simp only [smallInRun]
      omega
  · rename_i notInRange
    rw [Option.eq_none_iff_forall_ne_some]
    intro small isSmall
    obtain ⟨run, member, ⟨notBefore, notAfter, _⟩, -⟩ := lowerCode?_eq_some_iff.mp isSmall
    cases eq_of_mem_lowerRuns_of_lt run member (by omega)
    exact notInRange ⟨notBefore, notAfter⟩

/-- The small letter of a character is the one of the table, also among the first 128. -/
theorem toNat_lowerChar
    (c : Char) :
    (lowerChar c).toNat = (lowerCode? c.toNat).getD c.toNat := by
  unfold lowerChar
  split
  · rename_i isPlain
    have isCapital : 'A' ≤ c ∧ c ≤ 'Z' ↔ 65 ≤ c.toNat ∧ c.toNat ≤ 90 := Iff.rfl
    rw [lowerCode?_of_lt isPlain]
    by_cases inRange : 65 ≤ c.toNat ∧ c.toNat ≤ 90
    · have isValid : (c.toNat + 32).isValidChar := by
        unfold Nat.isValidChar
        omega
      simp [isCapital, inRange, toNat_ofNat_of_isValidChar isValid]
    · simp [isCapital, inRange]
  · cases isSmall : lowerCode? c.toNat with
    | none =>
        rfl
    | some small =>
        exact toNat_ofNat_of_isValidChar (isValidChar_of_lowerCode? isSmall).2

/-- A small letter is its own small letter. -/
theorem lowerCode?_toNat_lowerChar
    (c : Char) :
    lowerCode? (lowerChar c).toNat = none := by
  rw [toNat_lowerChar]
  cases isSmall : lowerCode? c.toNat with
  | none =>
      exact isSmall
  | some small =>
      exact lowerCode?_small isSmall

section Alike

variable {code other : Nat}

/-- The letters of a class are small letters, and the class is that of each of them. -/
theorem alike_of_mem_alikeClasses :
    ∀ kind ∈ alikeClasses, ∀ code ∈ kind,
      alike code = kind ∧ lowerCode? code = none ∧ code.isValidChar := by
  decide +kernel

/-- A small letter either counts as no other one, or is of a class of the table. -/
theorem alike_eq_or_mem
    (code : Nat) :
    alike code = [code] ∨ alike code ∈ alikeClasses ∧ code ∈ alike code := by
  unfold alike
  cases found : alikeClasses.find? (·.contains code) with
  | none =>
      exact .inl rfl
  | some kind =>
      exact .inr ⟨List.mem_of_find?_eq_some found, by simpa using List.find?_some found⟩

theorem mem_alike_self
    (code : Nat) :
    code ∈ alike code := by
  rcases alike_eq_or_mem code with alone | ⟨_, member⟩
  · rw [alone]
    exact List.mem_cons_self
  · exact member

/-- A small letter counts as another one exactly if the same letters count as the two. -/
theorem mem_alike_iff :
    code ∈ alike other ↔ alike code = alike other := by
  constructor
  · intro member
    rcases alike_eq_or_mem other with alone | ⟨isClass, _⟩
    · rw [alone, List.mem_singleton] at member
      rw [member]
    · exact (alike_of_mem_alikeClasses _ isClass code member).1
  · intro same
    rw [← same]
    exact mem_alike_self code

/-- What counts as a small letter is one. -/
theorem lowerCode?_of_mem_alike
    {c : Char}
    (member : code ∈ alike (lowerChar c).toNat) :
    lowerCode? code = none ∧ code.isValidChar := by
  rcases alike_eq_or_mem (lowerChar c).toNat with alone | ⟨isClass, _⟩
  · rw [alone, List.mem_singleton] at member
    subst member
    exact ⟨lowerCode?_toNat_lowerChar c, (lowerChar c).valid⟩
  · exact (alike_of_mem_alikeClasses _ isClass code member).2

end Alike

/-- The small letter of a small letter is the letter itself. -/
theorem lowerChar_lowerChar
    (c : Char) :
    lowerChar (lowerChar c) = lowerChar c := by
  rw [← Char.toNat_inj, toNat_lowerChar (lowerChar c), lowerCode?_toNat_lowerChar,
    Option.getD_none]

/-- Characters are equal without case exactly if the same letters count as their small letters. -/
theorem mem_variants_iff
    {c d : Char} :
    c ∈ variants d ↔ alike (lowerChar c).toNat = alike (lowerChar d).toNat := by
  rw [← mem_alike_iff]
  simp only [variants, List.mem_flatMap, List.mem_map, List.mem_cons]
  constructor
  · rintro ⟨small, isAlike, form, rfl | isCapital, rfl⟩
    · obtain ⟨isSmall, isValid⟩ := lowerCode?_of_mem_alike isAlike
      rwa [toNat_lowerChar (Char.ofNat form), toNat_ofNat_of_isValidChar isValid, isSmall,
        Option.getD_none]
    · have isSmall := mem_capitalsOf_iff.mp isCapital
      have isValid := (isValidChar_of_lowerCode? isSmall).1
      rwa [toNat_lowerChar (Char.ofNat form), toNat_ofNat_of_isValidChar isValid, isSmall,
        Option.getD_some]
  · intro isAlike
    refine ⟨_, isAlike, c.toNat, ?_, Char.ofNat_toNat c⟩
    rw [toNat_lowerChar c]
    cases isSmall : lowerCode? c.toNat with
    | none =>
        exact .inl rfl
    | some small =>
        exact .inr (mem_capitalsOf_iff.mpr isSmall)

theorem mem_variants_comm
    {c d : Char} :
    c ∈ variants d ↔ d ∈ variants c := by
  rw [mem_variants_iff, mem_variants_iff]
  exact eq_comm

theorem mem_variants_trans
    {c d e : Char}
    (first : c ∈ variants d)
    (second : d ∈ variants e) :
    c ∈ variants e :=
  mem_variants_iff.mpr ((mem_variants_iff.mp first).trans (mem_variants_iff.mp second))

theorem lowerChar_mem_variants
    (c : Char) :
    lowerChar c ∈ variants c := by
  rw [mem_variants_iff, lowerChar_lowerChar]

end ProseRules.Text
