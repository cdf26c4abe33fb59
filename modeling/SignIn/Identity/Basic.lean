/-!
# What an identity provider vouches for

The claims of an ID token, and the two ways in which asking about one can fail: the provider (or
a rule on its answer) rejects the token, or no usable answer came back.
-/

namespace SignIn

/-- Claims about the holder of an ID token. -/
structure IdentityClaims where
  issuer : String := ""
  subject : String := ""
  email : String := ""
  emailVerified : Bool := false
  displayName : String := ""
  avatarUrl : String := ""
  nonce : String := ""
  deriving DecidableEq

/-- Why an ID token is rejected. -/
inductive Rejection where
  | emptyToken
  /-- The provider refused it with a status and its reason. -/
  | status (code : Nat) (reason : String)
  | missingAudience
  | wrongAudience
  | expired
  | missingExpiry
  | told (reason : String)
  deriving DecidableEq

/-- The wording of a rejection. -/
def Rejection.message : Rejection → String
  | .emptyToken => "empty id_token"
  | .status code reason => "tokeninfo status " ++ toString code ++ " " ++ reason
  | .missingAudience => "token missing audience"
  | .wrongAudience => "token audience mismatch"
  | .expired => "token has expired"
  | .missingExpiry => "token missing expiry"
  | .told reason => reason

/-- Why there is no usable answer. -/
inductive Outage where
  /-- Nothing came back. -/
  | noAnswer
  /-- The answer is no JSON. -/
  | unreadable
  | status (code : Nat) (reason : String)
  | told (reason : String)
  deriving DecidableEq

/-- The wording of an outage. -/
def Outage.message : Outage → String
  | .noAnswer => "no answer"
  | .unreadable => "unreadable answer"
  | .status code reason => "tokeninfo status " ++ toString code ++ " " ++ reason
  | .told reason => reason

/-- Why there are no claims. -/
inductive IdentityError where
  | rejected (cause : Rejection)
  | unavailable (cause : Outage)
  deriving DecidableEq

/-- The wording of a failure. -/
def IdentityError.message : IdentityError → String
  | .rejected cause => "identity token rejected: " ++ cause.message
  | .unavailable cause => "identity provider unavailable: " ++ cause.message

end SignIn
