import SignIn.Text.Utf8

/-!
# Form encoding of query values

A value of a query is written byte by byte: letters, digits and `* - . _` stand for themselves,
a space becomes `+`, and every other byte of the UTF-8 text becomes `%` and two upper-case
hexadecimal digits.
-/

namespace SignIn.FormUrl

/-- The bytes that stand for themselves. -/
def isPlain (b : UInt8) : Bool :=
  let n := b.toNat
  (48 ≤ n && n ≤ 57) || (65 ≤ n && n ≤ 90) || (97 ≤ n && n ≤ 122) || n == 0x2A || n == 0x2D ||
    n == 0x2E || n == 0x5F

/-- An upper-case hexadecimal digit. -/
def hexDigit (n : Nat) : Char := if n < 10 then Char.ofNat (48 + n) else Char.ofNat (55 + n)

/-- The characters of one byte. -/
def encodeByte (b : UInt8) : List Char :=
  if isPlain b then [Char.ofNat b.toNat]
  else if b.toNat = 0x20 then ['+']
  else ['%', hexDigit (b.toNat / 16), hexDigit (b.toNat % 16)]

/-- The encoded form of a text. -/
def encode (s : String) : String := String.ofList ((Utf8.bytes s).flatMap encodeByte)

end SignIn.FormUrl
