import SignIn.Cookie.Header
import SignIn.Session.Token

/-!
# Session validators

What another service needs to accept sessions : the signing key, the issuer and the name of the
session cookie. A request is good when the cookie is there, is not blank and holds a good token.
-/

namespace SignIn

/-- Accepts the sessions of one issuer. -/
structure Validator where
  signingKey : Bytes
  issuer : String
  cookieName : String
  deriving DecidableEq

namespace Validator

/-- The name of the cookie when none is given. -/
def defaultCookieName : String := "app_session"

/-- A validator needs a key and an issuer; a blank name stands for the default. -/
def make (signingKey : Bytes) (issuer cookieName : String) : Except SessionError Validator :=
  if signingKey.isEmpty then .error .missingSigningKey
  else if Text.allBlank issuer then .error .missingIssuer
  else .ok ⟨signingKey, issuer, if Text.allBlank cookieName then defaultCookieName else cookieName⟩

/-- Checks a token. -/
def checkToken (v : Validator) (now : Instant) (token : String) : Except SessionError Claims :=
  SessionToken.verify v.signingKey v.issuer now token

/-- Checks the session cookie of a request. -/
def checkRequest (v : Validator) (now : Instant) (headers : Headers) : Except SessionError Claims :=
  match (Cookie.value? headers v.cookieName).filter fun value => !Text.allBlank value with
  | none => .error .missingCookie
  | some token => v.checkToken now token

end Validator

end SignIn
