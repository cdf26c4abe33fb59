import SignIn.Text.Ascii
import SignIn.Text.Segments

/-!
# Media types

`type/subtype` with parameters, as a `Content-Type` header writes it. The subtype may end in a
suffix after its last plus sign. A body is read as JSON when the type is `application` and the
subtype or its suffix is `json`.
-/

namespace SignIn.MediaType

/-- The characters of a token. -/
def isToken (c : Char) : Bool :=
  let n := c.toNat
  (48 ≤ n && n ≤ 57) || (65 ≤ n && n ≤ 90) || (97 ≤ n && n ≤ 122) ||
    "!#$%&'*+-.^_\x60|~".toList.contains c

/-- The characters that may stand between quotes. -/
def isQuotable (c : Char) : Bool := 32 ≤ c.toNat && c.toNat != 127

/-- Parameters after a semicolon, each `name=value` with a token or a quoted text of at least one
character; blanks may stand before a name and behind a quoted text, and nothing at all is fine. -/
def parametersFit : Nat → List Char → Bool
  | 0, _ => false
  | _ + 1, [] => true
  | steps + 1, ' ' :: rest => parametersFit steps rest
  | steps + 1, cs =>
    if (cs.takeWhile isToken).isEmpty then false
    else match cs.dropWhile isToken with
      | '=' :: '"' :: c :: rest =>
        if isQuotable c then
          match rest.dropWhile fun c => isQuotable c && c != '"' with
          | '"' :: rest =>
            match rest.dropWhile (· == ' ') with
            | [] => true
            | ';' :: rest => parametersFit steps rest
            | _ => false
          | _ => false
        else false
      | '=' :: rest =>
        match rest.dropWhile isToken with
        | [] => true
        | ';' :: more => !(rest.takeWhile isToken).isEmpty && parametersFit steps more
        | _ => false
      | _ => false

/-- The subtype and its suffix, cut at the last plus sign behind its first character. -/
def cutSuffix (subtype : List Char) : List Char × List Char :=
  match subtype with
  | [] => ([], [])
  | c :: cs => (Text.cutLast? '+' cs).elim (subtype, []) fun (a, b) => (c :: a, b)

/-- The type, the subtype and its suffix, in lower case; none unless the text is a media type. -/
def parse? (text : String) : Option (List Char × List Char × List Char) :=
  let cs := text.toList.map Text.lowerChar
  match cs.takeWhile isToken, cs.dropWhile isToken with
  | [], _ => none
  | type, '/' :: rest =>
    let subtype := cutSuffix (rest.takeWhile isToken)
    match rest.dropWhile isToken with
    | [] => some (type, subtype)
    | ';' :: parameters =>
      if !(rest.takeWhile isToken).isEmpty && parametersFit (parameters.length + 1) parameters then
        some (type, subtype)
      else none
    | _ => none
  | _, _ => none

/-- The media type announces JSON. -/
def isJson (text : String) : Bool :=
  (parse? text).any fun (type, subtype, suffix) =>
    type == "application".toList && (subtype == "json".toList || suffix == "json".toList)

end SignIn.MediaType
