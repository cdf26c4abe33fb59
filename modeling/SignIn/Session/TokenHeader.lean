import SignIn.Session.WebKey

/-!
# Headers of session tokens

A header names the algorithm HS256, as a text or as the name of an only member with null for its
value. Its other members may be null or absent, but have a form when they are there. A header is
an object, in which each of the ten members stands at most once and others are passed over, or
the list of all ten values in order.
-/

namespace SignIn.TokenHeader

/-- The algorithm HS256. -/
def isHs256 (j : Json) : Bool := j.word? Json.isNull == some "HS256"

/-- The members in the order of the list, with their forms. -/
def members : List (String × (Json → Bool)) :=
  [("typ", Json.nullOr WebKey.isText), ("alg", isHs256), ("cty", Json.nullOr WebKey.isText),
   ("jku", Json.nullOr WebKey.isText), ("jwk", Json.nullOr WebKey.isKey),
   ("kid", Json.nullOr WebKey.isText), ("x5u", Json.nullOr WebKey.isText),
   ("x5c", Json.nullOr WebKey.isTexts), ("x5t", Json.nullOr WebKey.isText),
   ("x5t#S256", Json.nullOr WebKey.isText)]

/-- The values of a list are those of a header. -/
def hasItems (items : List Json) : Bool :=
  items.length == members.length && (members.zip items).all fun (m, j) => m.2 j

/-- The members of an object are those of a header. -/
def hasMembers (ms : List (String × Json)) : Bool :=
  Json.requiredFits ms "alg" isHs256 && members.all fun m => Json.optionalFits ms m.1 m.2

/-- The value is a header that names HS256. -/
def isAccepted : Json → Bool
  | .arr items => hasItems items
  | j => j.record?.any hasMembers

end SignIn.TokenHeader
