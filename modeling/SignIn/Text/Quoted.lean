import SignIn.Text.Hidden

/-!
# Quoted texts

A text between double quotes as it is shown to an operator. The quote and the backslash are
escaped by a backslash; so are the tab, the line feed, the carriage return and the null character,
by a letter or a digit, and hidden characters, by their code point between braces. Every other
character stands for itself.
-/

namespace SignIn.Quoted

/-- The characters that a character of a text is shown as. -/
def escape (c : Char) : List Char :=
  if c.toNat = 0 then ['\\', '0']
  else if c = '\t' then ['\\', 't']
  else if c = '\n' then ['\\', 'n']
  else if c = '\r' then ['\\', 'r']
  else if c = '"' then ['\\', '"']
  else if c = '\\' then ['\\', '\\']
  else if Text.isHidden c then ['\\', 'u', '\x7b'] ++ Nat.toDigits 16 c.toNat ++ ['\x7d']
  else [c]

/-- The text between quotes. -/
def encode (s : String) : String := String.ofList ('"' :: s.toList.flatMap escape ++ ['"'])

end SignIn.Quoted
