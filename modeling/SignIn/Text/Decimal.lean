import SignIn.Text.Ascii

/-!
# Decimal numbers in texts

Writing whole numbers, with leading zeros up to a width, and reading signed whole numbers of
64 bits: an optional sign, then digits and nothing else.
-/

namespace SignIn.Decimal

/-- The digits of `n`, most significant first. -/
def digits (n : Nat) : List Char := Nat.toDigits 10 n

/-- The digits of `n` with zeros in front up to `width`. -/
def padded (width n : Nat) : List Char :=
  let ds := digits n
  List.replicate (width - ds.length) '0' ++ ds

/-- A whole number with a minus sign when it is negative. -/
def signed (n : Int) : List Char :=
  if n < 0 then '-' :: digits n.natAbs else digits n.natAbs

/-- The number that a list of digits writes, most significant first. -/
def value (cs : List Char) : Nat := cs.foldl (fun n c => 10 * n + (c.toNat - 48)) 0

/-- The range of signed 64-bit whole numbers. -/
def inInt64 (n : Int) : Bool := -9223372036854775808 ≤ n && n ≤ 9223372036854775807

/-- Digits alone, at least one. -/
def natural? (cs : List Char) : Option Nat :=
  if !cs.isEmpty && cs.all Text.isDigit then some (value cs) else none

/-- An optional sign, then digits; none unless the number fits 64 bits. -/
def int64? (cs : List Char) : Option Int :=
  let unbounded : Option Int := match cs with
    | '-' :: ds => (natural? ds).map fun n => -(n : Int)
    | '+' :: ds => (natural? ds).map fun n => (n : Int)
    | ds => (natural? ds).map fun n => (n : Int)
  unbounded.filter inInt64

end SignIn.Decimal
