import ProseRules.Text.Blank
import ProseRules.Text.CaseTable

namespace ProseRules.Text

/-!
# Lower case and comparison without case

`lower` writes a text in small letters: a capital sigma becomes the final small
sigma at the end of a word, and a dotted capital I becomes an i with a dot mark.
`variants` lists the characters that equal a character when case is ignored.
-/

/-- The small letter of a capital letter by the runs of the table, if it is one. -/
def lowerCode? (code : Nat) : Option Nat :=
  (lowerRuns.find? fun (first, last, step, _) =>
      first ≤ code && code ≤ last && (code - first) % step == 0).map
    fun (_, _, _, shift) => (Int.ofNat code + shift).toNat

/-- The small letter of one character, itself if there is none. -/
def lowerChar (c : Char) : Char :=
  if c.toNat < 128 then
    if 'A' ≤ c && c ≤ 'Z' then Char.ofNat (c.toNat + 32) else c
  else
    match lowerCode? c.toNat with
    | some code => Char.ofNat code
    | none => c

/-- The small letter of an unaccented Latin capital, any other character itself. -/
def lowerPlainChar (c : Char) : Char :=
  if 'A' ≤ c && c ≤ 'Z' then Char.ofNat (c.toNat + 32) else c

/-- A character with case that ends a run of ignorable characters. -/
def isCased (c : Char) : Bool :=
  inRanges casedRanges c.toNat

/-- A character that the rule of the final sigma skips. -/
def isIgnorable (c : Char) : Bool :=
  inRanges ignorableRanges c.toNat

/-- The nearest character that is not ignorable has case. -/
def nearestIsCased (cs : List Char) : Bool :=
  ((cs.dropWhile isIgnorable).head?.map isCased).getD false

/--
Small form of one character between the characters before it (nearest first)
and those after it.
-/
def lowerBetween (before : List Char) (c : Char) (after : List Char) : List Char :=
  if c = 'Σ' then
    [if nearestIsCased before && !nearestIsCased after then 'ς' else 'σ']
  else if c = 'İ' then
    ['i', '\u0307']
  else
    [lowerChar c]

/-- Small form of characters that stand after `before` (nearest first). -/
def lowerAfter (before : List Char) : List Char → List Char
  | [] => []
  | c :: rest => lowerBetween before c rest ++ lowerAfter (c :: before) rest

/-- The text in small letters. -/
def lower (s : String) : String :=
  String.ofList (lowerAfter [] s.toList)

/-- The small letters that count as the same letter as `code`. -/
def alike (code : Nat) : List Nat :=
  (alikeClasses.find? (·.contains code)).getD [code]

/-- The code points whose small letter is `code`. -/
def capitalsOf (code : Nat) : List Nat :=
  lowerRuns.filterMap fun (first, last, step, shift) =>
    let capital := Int.ofNat code - shift
    if Int.ofNat first ≤ capital && capital ≤ Int.ofNat last
        && (capital.toNat - first) % step == 0 then
      some capital.toNat
    else
      none

/-- The characters that equal `c` when case is ignored, over all scripts. -/
def variants (c : Char) : List Char :=
  (alike (lowerChar c).toNat).flatMap fun code =>
    (code :: capitalsOf code).map Char.ofNat

/-- The characters that equal `c` when the case of unaccented Latin letters is ignored. -/
def plainVariants (c : Char) : List Char :=
  let small := lowerPlainChar c
  if 'a' ≤ small && small ≤ 'z' then [small, Char.ofNat (small.toNat - 32)] else [c]

end ProseRules.Text
