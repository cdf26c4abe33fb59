import SignIn.Http.MediaType
import SignIn.Json.Reader
import SignIn.Web.Message

/-!
# The body of a login

An object with the ID token and the nonce, or a list of the two in that order; what is missing is
empty, and members of other names are ignored. The body must be announced as JSON and must not be
too long. The first complete value counts, whatever follows it.
-/

namespace SignIn

/-- What a login shows. -/
structure LoginBody where
  idToken : String
  nonce : String
  deriving DecidableEq

namespace LoginBody

/-- The values of a list, at most two. -/
def ofItems? : List Json → Option LoginBody
  | [] => some ⟨"", ""⟩
  | [a] => a.text?.map fun idToken => ⟨idToken, ""⟩
  | [a, b] => do
    let idToken ← a.text?
    let nonce ← b.text?
    pure ⟨idToken, nonce⟩
  | _ => none

/-- The values of the members of an object. -/
def ofMembers? (ms : List (String × Json)) : Option LoginBody := do
  let idToken ← Json.optional? ms "google_id_token" Json.text? ""
  let nonce ← Json.optional? ms "nonce_token" Json.text? ""
  pure ⟨idToken, nonce⟩

/-- The values of a JSON value. -/
def ofJson? : Json → Option LoginBody
  | .arr items => ofItems? items
  | j => j.record?.bind ofMembers?

/-- The longest body that is read, in bytes. -/
def maxLength : Nat := 2097152

/-- The values of a request. -/
def ofRequest? (r : Request) : Option LoginBody :=
  if (r.headers.firstText? "content-type").any MediaType.isJson && r.body.length ≤ maxLength then
    (Json.first? (Utf8.decode r.body)).bind ofJson?
  else none

end LoginBody

end SignIn
