import SignIn.Encoding.FormUrl
import SignIn.Http.Status
import SignIn.Identity.Basic
import SignIn.Json.Reader
import SignIn.Text.Blank
import SignIn.Time.Instant

/-!
# Asking for token information

The provider's endpoint takes an ID token in a query and answers with the claims of the token as
JSON, after it has checked the signature. What is left to check is the audience and the expiry.
The provider writes numbers and booleans as strings at times, so both forms are read.
-/

namespace SignIn.TokenInfo

/-- What comes back from the endpoint. -/
inductive Exchange where
  /-- The connection was not made or was closed without an answer. -/
  | unanswered
  | answered (status : Nat) (body : Bytes)

/-- A member that is a text, empty for anything else. -/
def textMember (body : Json) (name : String) : String :=
  ((body.member? name).bind Json.text?).getD ""

/-- A member that is a whole number of 64 bits or the text of one. -/
def int64Member? (body : Json) (name : String) : Option Int :=
  match body.member? name with
  | some (.str s) => Decimal.int64? s.toList
  | some j => j.int64?
  | none => none

/-- A member that is true or the text of it in any case. -/
def flagMember (body : Json) (name : String) : Bool :=
  match body.member? name with
  | some (.bool b) => b
  | some (.str s) => Text.sameIgnoringCase s "true"
  | _ => false

/-- The claims of an answer for this audience that has not expired at a second. -/
def claims (body : Json) (audience : String) (now : Int) : Except IdentityError IdentityClaims :=
  let told := textMember body "aud"
  if told = "" then .error (.rejected .missingAudience)
  else if told ≠ audience then .error (.rejected .wrongAudience)
  else match int64Member? body "exp" with
    | none => .error (.rejected .missingExpiry)
    | some expires =>
      if expires ≤ now then .error (.rejected .expired)
      else .ok
        { issuer := textMember body "iss"
          subject := textMember body "sub"
          email := textMember body "email"
          emailVerified := flagMember body "email_verified"
          displayName := textMember body "name"
          avatarUrl := textMember body "picture"
          nonce := textMember body "nonce" }

/-- The request for an ID token, none for a blank one. -/
def target? (idToken : String) : Option String :=
  if Text.allBlank idToken then none else some ("/tokeninfo?id_token=" ++ FormUrl.encode idToken)

/-- The claims of an exchange. -/
def ofExchange (exchange : Exchange) (audience : String) (now : Instant) :
    Except IdentityError IdentityClaims :=
  match exchange with
  | .unanswered => .error (.unavailable .noAnswer)
  | .answered status body =>
    if 400 ≤ status ∧ status < 500 then .error (.rejected (.status status (Status.reason status)))
    else if status < 200 ∨ 300 ≤ status then
      .error (.unavailable (.status status (Status.reason status)))
    else match (Json.ofBytes? body).filter Json.isSound with
      | none => .error (.unavailable .unreadable)
      | some j => claims j audience now.seconds

/-- The claims of an ID token; a blank one is rejected unasked. -/
def ask (fetch : String → Exchange) (now : Instant) (idToken audience : String) :
    Except IdentityError IdentityClaims :=
  match target? idToken with
  | none => .error (.rejected .emptyToken)
  | some target => ofExchange (fetch target) audience now

end SignIn.TokenInfo
