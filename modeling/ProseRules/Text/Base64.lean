namespace ProseRules.Text

/-!
# Bytes as text

Three bytes are written as four characters of an alphabet of 64, and a last group
of one or two bytes is filled up with equals signs.
-/

/-- The 64 characters in the order of their values. -/
def base64Alphabet : List Char :=
  "ABCDEFGHIJKLMNOPQRSTUVWXYZabcdefghijklmnopqrstuvwxyz0123456789+/".toList

/-- The character of a value below 64. -/
def base64Char (value : Nat) : Char :=
  base64Alphabet.getD (value % 64) 'A'

/-- The value of a character of the alphabet. -/
def base64Value? (c : Char) : Option Nat :=
  base64Alphabet.idxOf? c

/-- The characters of some bytes. -/
def encodeBase64 : List UInt8 → List Char
  | [] => []
  | [a] =>
      let group := a.toNat * 65536
      [base64Char (group / 262144), base64Char (group / 4096), '=', '=']
  | [a, b] =>
      let group := a.toNat * 65536 + b.toNat * 256
      [base64Char (group / 262144), base64Char (group / 4096), base64Char (group / 64), '=']
  | a :: b :: c :: rest =>
      let group := a.toNat * 65536 + b.toNat * 256 + c.toNat
      base64Char (group / 262144) :: base64Char (group / 4096) :: base64Char (group / 64)
        :: base64Char group :: encodeBase64 rest

/-- The first `count` bytes of a group of 24 bits. -/
def bytesOfGroup (group count : Nat) : List UInt8 :=
  ([group / 65536, group / 256, group].take count).map UInt8.ofNat

/--
The bytes of some characters. Characters outside of the alphabet are skipped. `group`
holds the values read since the last full group and `padding` the equals signs since
then; reading ends where a group is filled up by them.
-/
def decodeBase64From (group : List Nat) (padding : Nat) : List Char → Option (List UInt8)
  | [] => if group.isEmpty then some [] else none
  | c :: rest =>
      if c = '=' then
        match group with
        | [a, b, d] => some (bytesOfGroup (a * 262144 + b * 4096 + d * 64) 2)
        | [a, b] =>
            if padding = 1 then some (bytesOfGroup (a * 262144 + b * 4096) 1)
            else decodeBase64From group (padding + 1) rest
        | _ => decodeBase64From group padding rest
      else
        match base64Value? c with
        | none => decodeBase64From group padding rest
        | some value =>
            match group with
            | [a, b, d] =>
                (decodeBase64From [] 0 rest).map
                  (bytesOfGroup (a * 262144 + b * 4096 + d * 64 + value) 3 ++ ·)
            | _ => decodeBase64From (group ++ [value]) 0 rest

/-- The bytes of some characters, if the last group is complete. -/
def decodeBase64 (cs : List Char) : Option (List UInt8) :=
  decodeBase64From [] 0 cs

end ProseRules.Text
