import SignIn.Encoding.Base64Url
import SignIn.Hash.Hmac
import SignIn.Json.Printer
import SignIn.Json.Reader
import SignIn.Session.Claims
import SignIn.Session.TokenHeader
import SignIn.Text.Blank
import SignIn.Text.Segments
import SignIn.Users.Profile

/-!
# Session tokens

A token is `header.payload.signature`, each part in base64: a JSON header that names the
algorithm HS256, the claims as JSON, and the HMAC of the first two parts with their dot. The
signature is compared as text, so a header and a payload have one signature.

`mint` writes a token for a profile; its expiry is the instant of issue plus the lifetime, and
there is none when that sum leaves the calendar. `read?` accepts a token whose signature and form
are right, and `verify` adds the issuer and the times, in whole seconds and in that order. A
payload whose expiry or start of validity is negative is unreadable, and so is one whose audience
stops its reader before the end (`isAudience`).
-/

namespace SignIn

/-- Why a session is not accepted. -/
inductive SessionError where
  | missingSigningKey
  | missingIssuer
  | missingToken
  | missingCookie
  | invalidToken
  | invalidIssuer
  | expired
  | notYetValid
  deriving DecidableEq

/-- The stable code of a cause. -/
def SessionError.message : SessionError → String
  | .missingSigningKey => "session.validator.missing_signing_key"
  | .missingIssuer => "session.validator.missing_issuer"
  | .missingToken => "session.validator.missing_token"
  | .missingCookie => "session.validator.missing_cookie"
  | .invalidToken => "session.validator.invalid_token"
  | .invalidIssuer => "session.validator.invalid_issuer"
  | .expired => "session.validator.expired"
  | .notYetValid => "session.validator.not_yet_valid"

/-- Why no token is minted. -/
inductive MintError where
  | missingUserId
  | missingSigningKey
  deriving DecidableEq

/-- The wording of a cause. -/
def MintError.message : MintError → String
  | .missingUserId => "session token requires a user id"
  | .missingSigningKey => "session token requires a signing key"

/-- A token and the instant at which it expires. -/
structure Minted where
  token : String
  expires : Instant

namespace SessionToken

/-- Seconds by which the start of validity lies before the instant of issue. -/
def skew : Int := 30

/-- The signature of a message, as text. -/
def signature (key : Bytes) (message : List Char) : List Char :=
  Base64Url.encode (Hmac.sha256 key (Utf8.bytes (String.ofList message)))

/-! ## Writing -/

/-- The header of every token. -/
def header : Json := .record [("typ", .str "JWT"), ("alg", .str "HS256")]

/-- The base64 text of a JSON value. -/
def part (j : Json) : List Char := Base64Url.encode (Utf8.bytes j.toText)

/-- The header and the payload with the dot between them. -/
def message (claims : Claims) : List Char := part header ++ '.' :: part claims.toJson

/-- The signed token of claims. -/
def sign (key : Bytes) (claims : Claims) : String :=
  String.ofList (message claims ++ '.' :: signature key (message claims))

/-- The claims of a session for a profile. -/
def claims (profile : Profile) (issuer : String) (issuedAt expires : Instant) : Claims where
  userId := profile.userId
  email := profile.email
  displayName := profile.displayName
  avatarUrl := profile.avatarUrl
  roles := profile.roles
  issuer := issuer
  subject := profile.userId
  issuedAt := issuedAt.seconds
  notBefore := issuedAt.seconds - skew
  expires := expires.seconds

/-- A token for a profile, none within when it would expire outside the calendar. -/
def mint (profile : Profile) (issuer : String) (key : Bytes) (now : Instant) (lifetime : Span) :
    Except MintError (Option Minted) :=
  if Text.allBlank profile.userId then .error .missingUserId
  else if key.isEmpty then .error .missingSigningKey
  else .ok ((now.add? lifetime).map fun expires =>
    ⟨sign key (claims profile issuer now expires), expires⟩)

/-! ## Reading -/

/-- The JSON value of a base64 part. -/
def json? (part : List Char) : Option Json := (Base64Url.decode? part).bind Json.ofBytes?

/-- An audience is compared with nothing, but its reader must get to its end. A reader that a flaw
stops inside takes what is left of the audience for the rest of the payload, and that is none. -/
def isAudience (j : Json) : Bool := j.reading 126 != .stuck

/-- The claims of a payload. Its audience stands at most once, and neither the expiry nor the
start of validity may be negative. -/
def payload? (j : Json) : Option Claims := do
  let ms ← j.record?
  let claims ← Claims.ofMembers? ms
  if Json.optionalFits ms "aud" isAudience && 0 ≤ claims.expires && 0 ≤ claims.notBefore then
    pure claims
  else none

/-- The three parts of a token, cut at its last two dots. -/
def parts? (token : List Char) : Option (List Char × List Char × List Char) := do
  let (message, signature) ← Text.cutLast? '.' token
  let (header, payload) ← Text.cutLast? '.' message
  pure (header, payload, signature)

/-- The claims of a token whose form and signature are right. -/
def read? (key : Bytes) (token : String) : Option Claims := do
  let (h, p, s) ← parts? token.toList
  let header ← json? h
  if TokenHeader.isAccepted header && s == signature key (h ++ '.' :: p) then
    let payload ← json? p
    payload? payload
  else none

/-- The claims of a token that is good at an instant. -/
def verify (key : Bytes) (issuer : String) (now : Instant) (token : String) :
    Except SessionError Claims :=
  if Text.allBlank token then .error .missingToken
  else match read? key token with
    | none => .error .invalidToken
    | some claims =>
      if claims.issuer ≠ issuer then .error .invalidIssuer
      else if claims.expires ≤ now.seconds then .error .expired
      else if now.seconds < claims.notBefore ∨ now.seconds < claims.issuedAt then
        .error .notYetValid
      else .ok claims

end SessionToken

end SignIn
