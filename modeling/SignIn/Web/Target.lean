import SignIn.Text.Ascii

/-!
# Request targets

A target names a path in one of two forms: it begins with the path, or with a scheme, `://` and
an authority that is not empty, before the path. Either way the path ends at a query or a
fragment, and the empty path behind an authority is the root. A target of any other form, as a
host and a port, has no path.
-/

namespace SignIn.Target

/-- Ends the authority and begins something else. -/
def isDelimiter (c : Char) : Bool := c == '/' || c == '?' || c == '#'

/-- May stand in a scheme. -/
def isSchemeChar (c : Char) : Bool :=
  Text.isDigit c || (97 ≤ (Text.lowerChar c).toNat && (Text.lowerChar c).toNat ≤ 122) ||
    ['+', '-', '.', '~'].contains c

/-- The longest scheme. -/
def maxScheme : Nat := 64

/-- The characters up to a query or a fragment. -/
def upToQuery (cs : List Char) : List Char := cs.takeWhile fun c => c ≠ '?' && c ≠ '#'

/-- What follows the scheme and `://`. -/
def afterScheme? (cs : List Char) : Option (List Char) :=
  match cs.dropWhile isSchemeChar with
  | ':' :: '/' :: '/' :: rest =>
    if (cs.takeWhile isSchemeChar).length ≤ maxScheme then some rest else none
  | _ => none

/-- The path behind a scheme and an authority. -/
def absolutePath (cs : List Char) : List Char :=
  match afterScheme? cs with
  | none => []
  | some rest =>
    if (rest.takeWhile fun c => !isDelimiter c).isEmpty then []
    else match upToQuery (rest.dropWhile fun c => !isDelimiter c) with
      | [] => ['/']
      | path => path

/-- The path of a target, empty when it has none. -/
def path (target : String) : String :=
  match target.toList with
  | '/' :: rest => String.ofList (upToQuery ('/' :: rest))
  | cs => String.ofList (absolutePath cs)

end SignIn.Target
