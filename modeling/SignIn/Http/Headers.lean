import SignIn.Text.Ascii
import SignIn.Text.Blank

/-!
# Headers

Header lines in order, names without regard to case. A value is text when its bytes are visible
ASCII, spaces and tabs; where a value is read as text, any other value counts as absent.
-/

namespace SignIn

/-- Header lines, name and value. -/
abbrev Headers := List (String × String)

namespace Headers

/-- The value is visible ASCII, spaces and tabs. -/
def isText (value : String) : Bool :=
  value.toList.all fun c => (32 ≤ c.toNat && c.toNat ≤ 126) || c.toNat == 9

/-- The value can stand in a header: no control character but the tab. -/
def isValue (value : String) : Bool :=
  value.toList.all fun c => (32 ≤ c.toNat && c.toNat != 127) || c.toNat == 9

/-- The values of a name, in order. -/
def values (headers : Headers) (name : String) : List String :=
  (headers.filter fun line => Text.sameIgnoringCase line.1 name).map (·.2)

/-- The value of the first line of a name. -/
def first? (headers : Headers) (name : String) : Option String := (headers.values name).head?

/-- The value of the first line of a name, if it is text. -/
def firstText? (headers : Headers) (name : String) : Option String :=
  (headers.first? name).filter isText

end Headers

end SignIn
