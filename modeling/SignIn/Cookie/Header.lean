import SignIn.Http.Headers
import SignIn.Text.Segments

/-!
# Reading cookies

A `Cookie` header holds `name=value` pairs between semicolons. The value of a name is that of the
first pair with that name over all `Cookie` lines, with the blanks around names and values cut
off. Pairs without an equals sign and lines that are no text are passed over.
-/

namespace SignIn.Cookie

/-- The name and the value of one segment of a header, none without an equals sign. -/
def pair? (segment : List Char) : Option (List Char × List Char) :=
  (Text.cut? '=' (Text.trimChars segment)).map fun (name, value) =>
    (Text.trimChars name, Text.trimChars value)

/-- The pairs of all `Cookie` lines in order. -/
def pairs (headers : Headers) : List (List Char × List Char) :=
  (((headers.values "cookie").filter Headers.isText).flatMap
    fun line => Text.segments ';' line.toList).filterMap pair?

/-- The value of the first cookie of a name. -/
def value? (headers : Headers) (name : String) : Option String :=
  ((pairs headers).lookup name.toList).map String.ofList

end SignIn.Cookie
