import SignIn.Json.Basic

/-!
# Public keys in JSON

A key as a JSON object : members that every key may have, each of which may be null, and those
that a key of its type must have. A header may carry a key that nobody uses, but then it must have
this form.

Every value of the object is kept, also those of members that no key has. An algorithm, a curve or
a type is a word, written as a text or as the name of an only member whose value is null; for the
algorithm an empty object serves as well.
-/

namespace SignIn.WebKey

/-- The algorithms that a key may be meant for. -/
def algorithms : List String :=
  ["HS256", "HS384", "HS512", "ES256", "ES384", "RS256", "RS384", "RS512", "PS256", "PS384",
   "PS512", "EdDSA"]

/-- The curves of a key. -/
def curves : List String := ["P-256", "P-384", "P-521", "Ed25519"]

/-- A text. -/
def isText (j : Json) : Bool := j.text?.isSome

/-- A list of texts. -/
def isTexts (j : Json) : Bool := j.texts?.isSome

/-- One of the algorithms. -/
def isAlgorithm (j : Json) : Bool :=
  (j.word? fun j => j.isNull || j.isEmptyObject).any algorithms.contains

/-- One of the curves. -/
def isCurve (j : Json) : Bool := (j.word? Json.isNull).any curves.contains

/-- The members that every key may have, each of which may be null. -/
def common : List (String × (Json → Bool)) :=
  [("use", isText), ("key_ops", isTexts), ("alg", isAlgorithm), ("kid", isText), ("x5u", isText),
   ("x5c", isTexts), ("x5t", isText), ("x5t#S256", isText)]

/-- The members that a key of a type must have beside its type. -/
def particular? (type : String) : Option (List (String × (Json → Bool))) :=
  if type = "EC" then some [("crv", isCurve), ("x", isText), ("y", isText)]
  else if type = "RSA" then some [("n", isText), ("e", isText)]
  else if type = "oct" then some [("k", isText)]
  else if type = "OKP" then some [("crv", isCurve), ("x", isText)]
  else none

/-- The members are those of a key. -/
def hasMembers (ms : List (String × Json)) : Bool :=
  (common.all fun m => Json.optionalFits ms m.1 (Json.nullOr m.2)) &&
    ((Json.required? ms "kty" fun j => j.word? Json.isNull).bind particular?).any fun members =>
      members.all fun m => Json.requiredFits ms m.1 m.2

/-- The value is a key and can be kept in an object around it. -/
def isKey (j : Json) : Bool := j.reading 126 == .complete && j.record?.any hasMembers

end SignIn.WebKey
