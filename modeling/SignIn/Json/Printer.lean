import SignIn.Json.Basic
import SignIn.Text.Decimal

/-!
# Writing JSON

The compact form, without blanks. In a string the quote, the backslash and the control
characters below U+0020 are escaped, the usual ones by a letter and the others by `\u00` and two
lower-case hexadecimal digits; every other character stands for itself.
-/

namespace SignIn.Json

/-- A lower-case hexadecimal digit. -/
def hexDigit (n : Nat) : Char := if n < 10 then Char.ofNat (48 + n) else Char.ofNat (87 + n)

/-- The characters that a character of a string is written as. -/
def escape (c : Char) : List Char :=
  if c = '"' then ['\\', '"']
  else if c = '\\' then ['\\', '\\']
  else if c.toNat = 8 then ['\\', 'b']
  else if c.toNat = 9 then ['\\', 't']
  else if c.toNat = 10 then ['\\', 'n']
  else if c.toNat = 12 then ['\\', 'f']
  else if c.toNat = 13 then ['\\', 'r']
  else if c.toNat < 32 then ['\\', 'u', '0', '0', hexDigit (c.toNat / 16), hexDigit (c.toNat % 16)]
  else [c]

/-- A string between quotes. -/
def quote (s : String) : List Char := '"' :: s.toList.flatMap escape ++ ['"']

/-- A string that denotes no text, as the escape of a lone surrogate : a high one shows to be
alone only at the closing quote, a low one at once. -/
def brokenText (atEnd : Bool) : List Char :=
  ['"', '\\', 'u', 'd', if atEnd then '8' else 'c', '0', '0', '"']

/-- A name between quotes. -/
def printName : Option String → List Char
  | some s => quote s
  | none => brokenText true

/-- A numeral, with `e` before its exponent. -/
def printNumeral (n : Numeral) : List Char :=
  (if n.negative then ['-'] else []) ++ n.whole ++
    (if n.fraction.isEmpty then [] else '.' :: n.fraction) ++
    n.exponent.elim [] fun e => 'e' :: (if e.1 then '-' :: e.2 else e.2)

mutual

/-- The compact text of a value. -/
def print : Json → List Char
  | .null => ['n', 'u', 'l', 'l']
  | .bool true => ['t', 'r', 'u', 'e']
  | .bool false => ['f', 'a', 'l', 's', 'e']
  | .int n => Decimal.signed n
  | .real n => printNumeral n
  | .str s => quote s
  | .broken atEnd => brokenText atEnd
  | .arr [] => ['[', ']']
  | .arr (j :: js) => '[' :: print j ++ printItems js
  | .obj [] => ['\x7b', '\x7d']
  | .obj ((name, j) :: ms) => '\x7b' :: printName name ++ ':' :: print j ++ printMembers ms

/-- The items after the first, and the closing bracket. -/
def printItems : List Json → List Char
  | [] => [']']
  | j :: js => ',' :: print j ++ printItems js

/-- The members after the first, and the closing brace. -/
def printMembers : List (Option String × Json) → List Char
  | [] => ['\x7d']
  | (name, j) :: ms => ',' :: printName name ++ ':' :: print j ++ printMembers ms

end

/-- The compact text of a value. -/
def toText (j : Json) : String := String.ofList j.print

end SignIn.Json
