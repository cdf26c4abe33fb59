import SignIn.Text.Decimal

/-!
# Numerals of JSON

A number as it is written: digits, and perhaps a minus sign, digits after a point and an exponent.
Without point and exponent it is a whole number of 64 bits, when it is in their range (`int?`).

A reader that keeps any other numeral makes a double of it. It takes digits of the whole part and
then of the fraction into a significand, in each part up to the first digit that would lift it to
2^64; the digits of the whole part that are left count as places. The significand and the power of
ten are rounded to doubles before they are multiplied.

A product beyond the doubles stops the reader at the end of the numeral, and an exponent above
2^31 - 1 at the digit that lifts it there, unless the significand is zero or the exponent negative
(`reading`).
-/

namespace SignIn

/-- How a reader that keeps a value leaves it. -/
inductive Reading where
  /-- All of the value is read. -/
  | complete
  /-- The reader stopped with nothing of the value left. -/
  | exhausted
  /-- The reader stopped with a part of the value left. -/
  | stuck
  deriving DecidableEq

/-- A number as written. -/
structure Numeral where
  negative : Bool
  whole : List Char
  fraction : List Char
  /-- The digits of the exponent, behind true for a minus sign. -/
  exponent : Option (Bool × List Char)
  deriving DecidableEq

namespace Numeral

/-- A whole number from -2^63 to 2^64-1, written without point, exponent or minus zero. -/
def int? (n : Numeral) : Option Int :=
  if !n.fraction.isEmpty || n.exponent.isSome || 20 < n.whole.length then none
  else
    let m : Int := Decimal.value n.whole
    if n.negative then (if m = 0 ∨ 9223372036854775808 < m then none else some (-m))
    else if 18446744073709551615 < m then none
    else some m

/-! ## Doubles -/

/-- Digits are taken into a significand as long as it stays below 2^64; the others follow it. -/
def significand (m : Nat) : List Char → Nat × List Char
  | [] => (m, [])
  | d :: ds =>
    let next := 10 * m + (d.toNat - 48)
    if next < 18446744073709551616 then significand next ds else (m, d :: ds)

/-- The nearest number with 53 significant bits, a half going to the even neighbour. -/
def nearestDouble (n : Nat) : Nat :=
  let unit := Nat.pow 2 (n.log2 - 52)
  let below := n / unit
  let twice := 2 * (n % unit)
  (if twice < unit ∨ (twice = unit ∧ below % 2 = 0) then below else below + 1) * unit

/-- The product of a significand and a power of ten is below the number from which a product
rounds to infinity, half a unit above the largest double. -/
def fitsDouble (m : Nat) (e : Int) : Bool :=
  m == 0 || e < 0 ||
    (e ≤ 308 &&
      nearestDouble m * nearestDouble (Nat.pow 10 e.toNat) < Nat.pow 2 1024 - Nat.pow 2 970)

/-- The digits of an exponent behind the first one that lifts it above 2^31-1, if any does. -/
def excess? (n : Nat) : List Char → Option (List Char)
  | [] => none
  | d :: ds =>
    let next := 10 * n + (d.toNat - 48)
    if 2147483647 < next then some ds else excess? next ds

/-- How a reader that makes a double of the numeral leaves it. -/
def reading (n : Numeral) : Reading :=
  let (m, dropped) := significand 0 n.whole
  let (m, ignored) := significand m n.fraction
  let places : Int := dropped.length - (n.fraction.length - ignored.length)
  let product (e : Int) : Reading := if fitsDouble m e then .complete else .exhausted
  match n.exponent with
  | none => product places
  | some (negative, ds) =>
    match excess? 0 ds with
    | none => product (if negative then places - Decimal.value ds else places + Decimal.value ds)
    | some rest =>
      if m = 0 ∨ negative then .complete else if rest.isEmpty then .exhausted else .stuck

end Numeral

end SignIn
