import ProseRules.Proofs.Pattern.Cuts

namespace ProseRules

/-!
# Signs of operators

The matcher that a pattern is handed to only sees the sign of an operator. What such a sign
allows is told by its characters, and a sign stands for one operator only: where the digits of
a number end, the next character tells how the sign goes on.
-/

/-- A sign, or the lack of one, allows a run of so many words. -/
inductive SignAdmits : Option String → Nat → Prop
  | once :
      SignAdmits none 1
  | optional
      {count : Nat}
      (notMore : count ≤ 1) :
      SignAdmits (some "?") count
  | anyNumber
      (count : Nat) :
      SignAdmits (some "*") count
  | atLeastOnce
      {count : Nat}
      (enough : 1 ≤ count) :
      SignAdmits (some "+") count
  | exactly
      (count : Nat) :
      SignAdmits (some ("\x7b" ++ toString count ++ "\x7d")) count
  | atLeast
      {least count : Nat}
      (enough : least ≤ count) :
      SignAdmits (some ("\x7b" ++ toString least ++ ",\x7d")) count
  | between
      {least most count : Nat}
      (enough : least ≤ count)
      (notMore : count ≤ most) :
      SignAdmits (some ("\x7b" ++ toString least ++ "," ++ toString most ++ "\x7d")) count

theorem toDigits_inj
    {first second : Nat} :
    Nat.toDigits 10 first = Nat.toDigits 10 second ↔ first = second := by
  constructor
  · intro same
    have sameNumber := congrArg (fun digits => Nat.ofDigitChars 10 digits 0) same
    rwa [Nat.ofDigitChars_ten_toDigits, Nat.ofDigitChars_ten_toDigits] at sameNumber
  · rintro rfl
    rfl

/-- A number is told by its digits, and what follows them if that begins with no digit. -/
theorem toDigits_append_cons_inj
    {first second : Nat}
    {c d : Char}
    {rest others : List Char}
    (noDigit : c.isDigit = false)
    (noDigit' : d.isDigit = false) :
    Nat.toDigits 10 first ++ c :: rest = Nat.toDigits 10 second ++ d :: others ↔
      first = second ∧ c = d ∧ rest = others := by
  have areDigits :
      ∀ number, ∀ character ∈ Nat.toDigits 10 number, character.isDigit = true :=
    fun _ _ member => Nat.isDigit_of_mem_toDigits (by decide) (by decide) member
  constructor
  · intro same
    have digits := congrArg (List.takeWhile Char.isDigit) same
    have others := congrArg (List.dropWhile Char.isDigit) same
    rw [List.takeWhile_append_of_pos (areDigits first),
      List.takeWhile_append_of_pos (areDigits second),
      List.takeWhile_cons_of_neg (by simp [noDigit]),
      List.takeWhile_cons_of_neg (by simp [noDigit']), List.append_nil, List.append_nil] at digits
    rw [List.dropWhile_append_of_pos (areDigits first),
      List.dropWhile_append_of_pos (areDigits second),
      List.dropWhile_cons_of_neg (by simp [noDigit]),
      List.dropWhile_cons_of_neg (by simp [noDigit'])] at others
    exact ⟨toDigits_inj.mp digits, List.cons.inj others⟩
  · rintro ⟨rfl, rfl, rfl⟩
    rfl

namespace Operator

/-- No two operators have the same sign. -/
theorem sign?_injective :
    Function.Injective sign? := by
  intro first second same
  have sameCharacters := congrArg (Option.map String.toList) same
  cases first <;> cases second <;>
    simp (disch := decide) [sign?, toDigits_inj, toDigits_append_cons_inj] at sameCharacters <;>
      simp [sameCharacters]

/-- What a sign allows is what some operator with this sign does. -/
theorem signAdmits_iff_exists
    {sign : Option String}
    {count : Nat} :
    SignAdmits sign count ↔
      ∃ operator : Operator, operator.sign? = sign ∧ operator.Admits count := by
  constructor
  · intro admits
    cases admits with
    | once =>
        exact ⟨.once, rfl, rfl⟩
    | optional notMore =>
        exact ⟨.optional, rfl, notMore⟩
    | anyNumber =>
        exact ⟨.anyNumber, rfl, trivial⟩
    | atLeastOnce enough =>
        exact ⟨.atLeastOnce, rfl, enough⟩
    | exactly =>
        exact ⟨.exactly count, rfl, rfl⟩
    | atLeast enough =>
        exact ⟨.atLeast _, rfl, enough⟩
    | between enough notMore =>
        exact ⟨.between _ _, rfl, enough, notMore⟩
  · rintro ⟨operator, rfl, admits⟩
    cases operator with
    | once =>
        obtain rfl : count = 1 := admits
        exact .once
    | optional =>
        exact .optional admits
    | anyNumber =>
        exact .anyNumber count
    | atLeastOnce =>
        exact .atLeastOnce admits
    | exactly wanted =>
        obtain rfl : count = wanted := admits
        exact .exactly count
    | atLeast =>
        exact .atLeast admits
    | between =>
        exact .between admits.1 admits.2

/-- An operator allows what its sign allows. -/
theorem signAdmits_iff
    {operator : Operator}
    {count : Nat} :
    SignAdmits operator.sign? count ↔ operator.Admits count := by
  rw [signAdmits_iff_exists]
  constructor
  · rintro ⟨other, sameSign, admits⟩
    rwa [sign?_injective sameSign] at admits
  · intro admits
    exact ⟨operator, rfl, admits⟩

end Operator

/-- The operator of a token can be written exactly if its bounds can. -/
theorem Token.canBeWritten_operator_iff
    {token : Token} :
    token.operator.canBeWritten = true ↔
      token.least < Text.digitBound ∧
        ∀ most, token.most = some most → most < Text.digitBound := by
  have someDigits := Text.two_lt_digitBound
  -- The bound itself is never looked at.
  generalize isBound : Text.digitBound = bound at someDigits
  simp only [operator]
  split
  case h_6 =>
    rename_i most isMost _ _
    rw [isMost]
    split
    · rename_i sameBounds
      simp [Operator.canBeWritten, isBound, ← sameBounds]
    · simp [Operator.canBeWritten, isBound]
  all_goals simp only [Operator.canBeWritten, *]
  all_goals simp
  all_goals omega

end ProseRules
