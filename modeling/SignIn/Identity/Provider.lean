import SignIn.Identity.TokenInfo

/-!
# Identity providers

A provider is asked about an ID token for an audience at an instant. Besides a provider that asks
over the network there are those that answer as told, with claims, with token information or with
a failure.
-/

namespace SignIn

/-- What an identity provider says about an ID token for an audience at an instant. -/
abbrev Provider := Instant → String → String → Except IdentityError IdentityClaims

namespace Provider

/-- Asks for token information over the network. -/
def asking (fetch : String → TokenInfo.Exchange) : Provider := TokenInfo.ask fetch

/-- Vouches for every ID token with the same claims. -/
def vouching (claims : IdentityClaims) : Provider := fun _ _ _ => .ok claims

/-- Has the same token information for every ID token, read at the instant of asking. -/
def informed (body : Json) : Provider :=
  fun now _ audience => TokenInfo.claims body audience now.seconds

/-- Fails for every ID token. -/
def failing (error : IdentityError) : Provider := fun _ _ _ => .error error

/-- Answers for one ID token and rejects all others. -/
def only (p : Provider) (idToken : String) : Provider := fun now token audience =>
  if token = idToken then p now token audience
  else .error (.rejected (.told "unexpected token"))

end Provider

end SignIn
