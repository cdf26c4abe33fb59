import SignIn.Hash.Fingerprint
import SignIn.Identity.Basic

/-!
# Binding an identity to a nonce

Rules on top of what the provider checked, the first broken one deciding: the issuer is one of
the provider's two spellings, the subject and the email are there and the email is verified, and
the nonce of the claims is the presented one or its fingerprint.
-/

namespace SignIn

/-- Why claims are not bound. -/
inductive BindingError where
  | invalidIssuer
  | unverifiedIdentity
  | nonceMismatch
  deriving DecidableEq

/-- The wording of a cause. -/
def BindingError.message : BindingError → String
  | .invalidIssuer => "invalid_issuer"
  | .unverifiedIdentity => "unverified_identity"
  | .nonceMismatch => "nonce_mismatch"

/-- An identity that passed every rule. -/
structure BoundIdentity where
  subject : String
  email : String
  displayName : String
  avatarUrl : String
  deriving DecidableEq

/-- The spellings of the issuer. -/
def acceptedIssuers : List String := ["https://accounts.google.com", "accounts.google.com"]

/-- The nonce of claims matches the presented nonce. -/
def nonceMatches (claimed nonce : String) : Bool :=
  claimed != "" && nonce != "" && (claimed == nonce || claimed == fingerprint nonce)

/-- The identity of claims that keep every rule for a nonce. -/
def IdentityClaims.bind (claims : IdentityClaims) (nonce : String) :
    Except BindingError BoundIdentity :=
  if !acceptedIssuers.contains claims.issuer then .error .invalidIssuer
  else if claims.subject == "" || claims.email == "" || !claims.emailVerified then
    .error .unverifiedIdentity
  else if !nonceMatches claims.nonce nonce then .error .nonceMismatch
  else .ok ⟨claims.subject, claims.email, claims.displayName, claims.avatarUrl⟩

end SignIn
