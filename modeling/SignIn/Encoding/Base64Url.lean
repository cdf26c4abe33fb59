import SignIn.Text.Utf8

/-!
# Base64 for URLs

The URL-safe alphabet without padding. Three bytes become four characters, a rest of two bytes
three and of one byte two. `decode?` accepts only what `encode` writes : the bits that stand for
no byte must be zero, so each list of bytes has one text.
-/

namespace SignIn.Base64Url

/-- The character of a digit below 64. -/
def digitChar (n : Nat) : Char :=
  if n < 26 then Char.ofNat (65 + n)
  else if n < 52 then Char.ofNat (71 + n)
  else if n < 62 then Char.ofNat (n - 4)
  else if n = 62 then '-' else '_'

/-- The digit of a character, none outside the alphabet. -/
def digitValue? (c : Char) : Option Nat :=
  let n := c.toNat
  if 65 ≤ n ∧ n ≤ 90 then some (n - 65)
  else if 97 ≤ n ∧ n ≤ 122 then some (n - 71)
  else if 48 ≤ n ∧ n ≤ 57 then some (n + 4)
  else if c = '-' then some 62
  else if c = '_' then some 63
  else none

/-- Writes bytes, three at a time. -/
def encode : Bytes → List Char
  | a :: b :: c :: rest =>
    let n := a.toNat * 65536 + b.toNat * 256 + c.toNat
    digitChar (n / 262144) :: digitChar (n / 4096 % 64) :: digitChar (n / 64 % 64) ::
      digitChar (n % 64) :: encode rest
  | [a, b] =>
    let n := a.toNat * 1024 + b.toNat * 4
    [digitChar (n / 4096), digitChar (n / 64 % 64), digitChar (n % 64)]
  | [a] =>
    let n := a.toNat * 16
    [digitChar (n / 64), digitChar (n % 64)]
  | [] => []

/-- Reads digits, four at a time; none when a digit is left over or a spare bit is set. -/
def decodeDigits? : List Nat → Option Bytes
  | w :: x :: y :: z :: rest =>
    let n := w * 262144 + x * 4096 + y * 64 + z
    (decodeDigits? rest).map fun bs =>
      UInt8.ofNat (n / 65536) :: UInt8.ofNat (n / 256 % 256) :: UInt8.ofNat (n % 256) :: bs
  | [x, y, z] =>
    let n := x * 4096 + y * 64 + z
    if n % 4 = 0 then some [UInt8.ofNat (n / 1024), UInt8.ofNat (n / 4 % 256)] else none
  | [y, z] =>
    let n := y * 64 + z
    if n % 16 = 0 then some [UInt8.ofNat (n / 16)] else none
  | [_] => none
  | [] => some []

/-- Reads a text, none unless every character is a digit and the bits close. -/
def decode? (cs : List Char) : Option Bytes := (cs.mapM digitValue?).bind decodeDigits?

/-- The text of bytes. -/
def encodeText (bs : Bytes) : String := String.ofList (encode bs)

end SignIn.Base64Url
