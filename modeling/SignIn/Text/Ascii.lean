/-!
# ASCII letters and comparison without case

Header names, media types and the fixed words of settings are compared without regard to the
case of the letters A to Z. No other character lower-cases to a letter of those words, so the
ASCII rule decides the comparison for every text.
-/

namespace SignIn.Text

/-- Lower case for A to Z, every other character as it is. -/
def lowerChar (c : Char) : Char :=
  if 65 ≤ c.toNat ∧ c.toNat ≤ 90 then Char.ofNat (c.toNat + 32) else c

/-- Lower case for A to Z throughout. -/
def lower (s : String) : String := String.ofList (s.toList.map lowerChar)

/-- Equality up to the case of A to Z. -/
def sameIgnoringCase (s t : String) : Bool := s.toList.map lowerChar == t.toList.map lowerChar

/-- Every character is ASCII. -/
def isAscii (s : String) : Bool := s.toList.all fun c => c.toNat < 128

/-- One of the digits 0 to 9. -/
def isDigit (c : Char) : Bool := 48 ≤ c.toNat && c.toNat ≤ 57

end SignIn.Text
