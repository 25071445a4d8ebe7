import ProseRules.Number.Real64

namespace ProseRules

/-!
# The shortest decimal of a binary number

A number is written with the fewest digits that read back to it, and of several
such decimals with the nearest one. The search goes over the grids of 1, 2, … 17
digits and tests the two neighbours of the number on each grid exactly.
-/

/-- The number `digits * 10 ^ exponent`. -/
structure Decimal where
  digits : Nat
  exponent : Int
  deriving Repr, DecidableEq

/-- A positive binary number with the halves of the gaps around it, in quarters of a unit. -/
structure Neighbourhood where
  /-- Four times the mantissa. -/
  centre : Nat
  /-- The lower end. -/
  low : Nat
  /-- The upper end. -/
  high : Nat
  /-- The power of two of a quarter. -/
  exponent : Int
  /-- Decimals at the ends read back to the number. -/
  closed : Bool
  deriving Repr, DecidableEq

namespace Neighbourhood

/-- The neighbourhood of `mantissa * 2 ^ exponent`. -/
def ofFinite (mantissa : Nat) (exponent : Int) : Neighbourhood where
  centre := 4 * mantissa
  low :=
    if mantissa = Nat.pow 2 52 && exponent > Real64.leastExponent then 4 * mantissa - 1
    else 4 * mantissa - 2
  high := 4 * mantissa + 2
  exponent := exponent - 2
  closed := mantissa % 2 = 0

/-- The comparison of a decimal with `quarters` quarters. -/
def compareDecimal (neighbourhood : Neighbourhood) (decimal : Decimal) (quarters : Nat) :
    Ordering :=
  compare
    (decimal.digits * Nat.pow 10 decimal.exponent.toNat * Nat.pow 2 (-neighbourhood.exponent).toNat)
    (quarters * Nat.pow 2 neighbourhood.exponent.toNat * Nat.pow 10 (-decimal.exponent).toNat)

/-- A decimal reads back to the number. -/
def holds (neighbourhood : Neighbourhood) (decimal : Decimal) : Bool :=
  let atLow := neighbourhood.compareDecimal decimal neighbourhood.low
  let atHigh := neighbourhood.compareDecimal decimal neighbourhood.high
  (atLow = .gt || (atLow = .eq && neighbourhood.closed))
    && (atHigh = .lt || (atHigh = .eq && neighbourhood.closed))

/-- The whole number of grid steps `10 ^ exponent` below the number. -/
def stepsBelow (neighbourhood : Neighbourhood) (exponent : Int) : Nat :=
  (neighbourhood.centre * Nat.pow 2 neighbourhood.exponent.toNat * Nat.pow 10 (-exponent).toNat)
    / (Nat.pow 2 (-neighbourhood.exponent).toNat * Nat.pow 10 exponent.toNat)

/-- The decimal in the middle between `steps` and `steps + 1` steps is not above the number. -/
def prefersAbove (neighbourhood : Neighbourhood) (steps : Nat) (exponent : Int) : Bool :=
  match neighbourhood.compareDecimal ⟨2 * steps + 1, exponent⟩ (2 * neighbourhood.centre) with
  | .lt => true
  | .eq => steps % 2 = 1
  | .gt => false

/-- The nearest decimal of a grid that reads back, if one does. -/
def onGrid? (neighbourhood : Neighbourhood) (exponent : Int) : Option Decimal :=
  let steps := neighbourhood.stepsBelow exponent
  let below : Decimal := ⟨steps, exponent⟩
  let above : Decimal := ⟨steps + 1, exponent⟩
  match neighbourhood.holds below && steps ≠ 0, neighbourhood.holds above with
  | true, true => some (if neighbourhood.prefersAbove steps exponent then above else below)
  | true, false => some below
  | false, true => some above
  | false, false => none

/-- The least `scale` at or above `guess` with the number below `10 ^ scale`. -/
def scaleFrom (neighbourhood : Neighbourhood) : (limit : Nat) → (guess : Int) → Int
  | 0, guess => guess
  | limit + 1, guess =>
      if neighbourhood.compareDecimal ⟨1, guess⟩ neighbourhood.centre = .gt then guess
      else scaleFrom neighbourhood limit (guess + 1)

/-- The least scale with the number below `10 ^ scale`, from an estimate below it. -/
def scale (neighbourhood : Neighbourhood) : Int :=
  let bits := Int.ofNat neighbourhood.centre.log2 + neighbourhood.exponent
  neighbourhood.scaleFrom 8 (bits * 30103 / 100000 - 2)

/-- The first hit on the grids with `count` digits and more. -/
def search (neighbourhood : Neighbourhood) (scale : Int) : (limit count : Nat) → Option Decimal
  | 0, _ => none
  | limit + 1, count =>
      (neighbourhood.onGrid? (scale - count)).or (search neighbourhood scale limit (count + 1))

end Neighbourhood

namespace Decimal

/-- Zeros at the end of the digits moved into the exponent. -/
def strip (decimal : Decimal) : (limit : Nat) → Decimal
  | 0 => decimal
  | limit + 1 =>
      if decimal.digits ≠ 0 && decimal.digits % 10 = 0 then
        strip ⟨decimal.digits / 10, decimal.exponent + 1⟩ limit
      else
        decimal

/-- The shortest decimal of a positive binary number. -/
def shortest (mantissa : Nat) (exponent : Int) : Decimal :=
  let neighbourhood := Neighbourhood.ofFinite mantissa exponent
  ((neighbourhood.search neighbourhood.scale 17 1).getD ⟨mantissa, 0⟩).strip 20

end Decimal

/-- How decimals are laid out. -/
structure DecimalStyle where
  /-- The least power of ten of the leading digit that is written positionally. -/
  leastPositional : Int
  /-- Powers of ten of the leading digit from this one on are written with an exponent. -/
  leastExponential : Int
  /-- The least number of digits of an exponent. -/
  exponentDigits : Nat
  /-- The text of infinity. -/
  infinity : String
  /-- The text of a number without a value. -/
  undefined : String

/-- Numbers are positional from 0.0001 on and below 10 ^ 16, always with a digit after the point. -/
def DecimalStyle.plain : DecimalStyle where
  leastPositional := -4
  leastExponential := 16
  exponentDigits := 2
  infinity := "inf"
  undefined := "nan"

namespace Decimal

/-- The characters of a number in digits to the base of 10, padded with zeros on the left. -/
def paddedDigits (width value : Nat) : List Char :=
  let digits := Nat.toDigits 10 value
  List.replicate (width - digits.length) '0' ++ digits

/-- A positive decimal laid out in a style. -/
def layout (decimal : Decimal) (style : DecimalStyle) : List Char :=
  let digits := Nat.toDigits 10 decimal.digits
  let leading : Int := decimal.exponent + digits.length - 1
  if leading < style.leastPositional || leading ≥ style.leastExponential then
    let fraction := if digits.length > 1 then '.' :: digits.drop 1 else []
    let sign := if leading < 0 then '-' else '+'
    digits.take 1 ++ fraction ++ ['e', sign] ++ paddedDigits style.exponentDigits leading.natAbs
  else if leading < 0 then
    '0' :: '.' :: List.replicate (-leading - 1).toNat '0' ++ digits
  else
    let whole := leading.toNat + 1
    let padded := digits ++ List.replicate (whole - digits.length) '0'
    let fraction := padded.drop whole
    padded.take whole ++ '.' :: (if fraction.isEmpty then ['0'] else fraction)

end Decimal

namespace Real64

/-- The text of a number in a style. -/
def render (x : Real64) (style : DecimalStyle := DecimalStyle.plain) : String :=
  let sign := fun (negative : Bool) => if negative then "-" else ""
  match x.decode with
  | .undefined => style.undefined
  | .infinite negative => sign negative ++ style.infinity
  | .finite negative mantissa exponent =>
      if mantissa = 0 then
        sign negative ++ "0.0"
      else
        sign negative ++ String.ofList ((Decimal.shortest mantissa exponent).layout style)

end Real64

end ProseRules
