namespace ProseRules

/-!
# Binary numbers of 64 bits

A real number of the data formats has a sign, 11 bits of exponent and 52 bits of
fraction. Its value is decoded into a whole number times a power of two, and every
operation rounds the exact result once, to the nearest number and to the even
neighbour in the middle.
-/

/-- A binary number given by its bits. -/
structure Real64 where
  bits : UInt64
  deriving Repr, DecidableEq

/-- The value that some bits stand for. -/
inductive Decoded where
  /-- The number `mantissa * 2 ^ exponent` with a sign. -/
  | finite (negative : Bool) (mantissa : Nat) (exponent : Int)
  | infinite (negative : Bool)
  | undefined
  deriving Repr, DecidableEq

namespace Real64

/-- The least exponent of two of a finite number. -/
def leastExponent : Int :=
  -1074

/-- The value of a number. -/
def decode (x : Real64) : Decoded :=
  let bits := x.bits.toNat
  let negative := bits ≥ Nat.pow 2 63
  let biased := bits / Nat.pow 2 52 % Nat.pow 2 11
  let fraction := bits % Nat.pow 2 52
  if biased = 2047 then
    if fraction = 0 then .infinite negative else .undefined
  else if biased = 0 then
    .finite negative fraction leastExponent
  else
    .finite negative (Nat.pow 2 52 + fraction) (leastExponent + (biased - 1 : Nat))

/-- The number with a sign and the other 63 bits. -/
def ofParts (negative : Bool) (rest : Nat) : Real64 :=
  ⟨UInt64.ofNat (if negative then Nat.pow 2 63 + rest else rest)⟩

/-- Infinity with a sign. -/
def infinity (negative : Bool) : Real64 :=
  ofParts negative (2047 * Nat.pow 2 52)

/-- The value of no number. -/
def undefined : Real64 :=
  ofParts false (2047 * Nat.pow 2 52 + Nat.pow 2 51)

/-- Zero with a sign. -/
def zero (negative : Bool := false) : Real64 :=
  ofParts negative 0

/-- The quotient rounded to the nearest whole number, to the even one in the middle. -/
def roundedQuotient (numerator denominator : Nat) : Nat :=
  let quotient := numerator / denominator
  let twice := 2 * (numerator % denominator)
  if twice > denominator || (twice = denominator && quotient % 2 = 1) then
    quotient + 1
  else
    quotient

/-- The number `numerator / denominator` is at least `2 ^ exponent`. -/
def reaches (numerator denominator : Nat) (exponent : Int) : Bool :=
  numerator * Nat.pow 2 (-exponent).toNat ≥ denominator * Nat.pow 2 exponent.toNat

/-- The number nearest to a quotient of whole numbers; the denominator is not zero. -/
def ofRatio (negative : Bool) (numerator denominator : Nat) : Real64 :=
  if numerator = 0 then
    zero negative
  else
    let estimate := Int.ofNat numerator.log2 - Int.ofNat denominator.log2
    let leading := if reaches numerator denominator estimate then estimate else estimate - 1
    let exponent := max (leading - 52) leastExponent
    let mantissa := roundedQuotient (numerator * Nat.pow 2 (-exponent).toNat)
      (denominator * Nat.pow 2 exponent.toNat)
    let rest := mantissa + (exponent - leastExponent).toNat * Nat.pow 2 52
    if rest ≥ 2047 * Nat.pow 2 52 then infinity negative else ofParts negative rest

/-- The number nearest to `mantissa * 2 ^ exponent`. -/
def ofDyadic (negative : Bool) (mantissa : Nat) (exponent : Int) : Real64 :=
  ofRatio negative (mantissa * Nat.pow 2 exponent.toNat) (Nat.pow 2 (-exponent).toNat)

/-- The number nearest to `mantissa * 10 ^ exponent`. -/
def ofDecimal (negative : Bool) (mantissa : Nat) (exponent : Int) : Real64 :=
  let size := exponent + (Nat.toDigits 10 mantissa).length
  if mantissa = 0 || size < -400 then zero negative
  else if size > 400 then infinity negative
  else ofRatio negative (mantissa * Nat.pow 10 exponent.toNat) (Nat.pow 10 (-exponent).toNat)

/-- The number nearest to a whole number. -/
def ofInt (n : Int) : Real64 :=
  ofRatio (n < 0) n.natAbs 1

/-- The number is not zero. -/
def isNonzero (x : Real64) : Bool :=
  match x.decode with
  | .finite _ mantissa _ => mantissa ≠ 0
  | _ => true

/-- The number with the other sign. -/
def negate (x : Real64) : Real64 :=
  ⟨x.bits ^^^ 0x8000000000000000⟩

/-- A whole number with a sign. -/
def signed (negative : Bool) (magnitude : Nat) : Int :=
  if negative then -Int.ofNat magnitude else Int.ofNat magnitude

/-- The product. -/
def mul (x y : Real64) : Real64 :=
  match x.decode, y.decode with
  | .finite xNegative xMantissa xExponent, .finite yNegative yMantissa yExponent =>
      ofDyadic (xNegative != yNegative) (xMantissa * yMantissa) (xExponent + yExponent)
  | .undefined, _ | _, .undefined => undefined
  | .infinite xNegative, .infinite yNegative => infinity (xNegative != yNegative)
  | .infinite xNegative, .finite yNegative mantissa _
  | .finite yNegative mantissa _, .infinite xNegative =>
      if mantissa = 0 then undefined else infinity (xNegative != yNegative)

/-- The sum. -/
def add (x y : Real64) : Real64 :=
  match x.decode, y.decode with
  | .finite xNegative xMantissa xExponent, .finite yNegative yMantissa yExponent =>
      let exponent := min xExponent yExponent
      let sum := signed xNegative (xMantissa * Nat.pow 2 (xExponent - exponent).toNat)
        + signed yNegative (yMantissa * Nat.pow 2 (yExponent - exponent).toNat)
      if sum = 0 then zero (xNegative && yNegative)
      else ofDyadic (sum < 0) sum.natAbs exponent
  | .undefined, _ | _, .undefined => undefined
  | .infinite xNegative, .infinite yNegative =>
      if xNegative = yNegative then x else undefined
  | .infinite _, _ => x
  | _, .infinite _ => y

/-- A number as a quotient of whole numbers with a positive denominator. -/
structure Ratio where
  numerator : Int
  denominator : Nat
  deriving Repr, DecidableEq

/-- A finite number as a quotient. -/
def ratio? (x : Real64) : Option Ratio :=
  match x.decode with
  | .finite negative mantissa exponent =>
      some ⟨signed negative (mantissa * Nat.pow 2 exponent.toNat), Nat.pow 2 (-exponent).toNat⟩
  | _ => none

/-- The comparison of two numbers, none if one has no value. -/
def compare? (x y : Real64) : Option Ordering :=
  match x.decode, y.decode with
  | .undefined, _ | _, .undefined => none
  | .infinite xNegative, .infinite yNegative =>
      some (compare yNegative.toNat xNegative.toNat)
  | .infinite negative, _ => some (if negative then .lt else .gt)
  | _, .infinite negative => some (if negative then .gt else .lt)
  | .finite .., .finite .. => do
      let left ← x.ratio?
      let right ← y.ratio?
      return compare (left.numerator * right.denominator) (right.numerator * left.denominator)

/-- The comparison with a whole number. -/
def compareInt? (x : Real64) (n : Int) : Option Ordering :=
  match x.decode with
  | .undefined => none
  | .infinite negative => some (if negative then .lt else .gt)
  | .finite .. => do
      let left ← x.ratio?
      return compare left.numerator (n * left.denominator)

/-- The whole part of a finite number, toward zero. -/
def truncated? (x : Real64) : Option Int :=
  x.ratio?.map fun ratio => Int.tdiv ratio.numerator ratio.denominator

end Real64

end ProseRules
