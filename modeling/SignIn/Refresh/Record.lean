import SignIn.Hash.Fingerprint
import SignIn.Identifier
import SignIn.Storage.Backend
import SignIn.Storage.Table

/-!
# Refresh records

A client holds a secret, a store only its fingerprint. A record is never deleted: revoking it
stamps the second of revocation, never 0, which marks an active record. Each record that takes
the place of another names it, so that records form chains that start at a login.
-/

namespace SignIn

/-- A refresh token as stored. -/
structure RefreshRecord where
  tokenId : String
  userId : String
  tokenHash : String
  /-- The second from which on the token is no longer good. -/
  expires : Int
  /-- The second of revocation, 0 while the token is active. -/
  revokedAt : Int
  /-- The id of the token whose place it took, empty after a login. -/
  previous : String
  issuedAt : Int
  deriving DecidableEq

/-- The record is revoked. -/
def RefreshRecord.isRevoked (r : RefreshRecord) : Bool := r.revokedAt != 0

/-- The record revoked at a second. -/
def RefreshRecord.revoke (r : RefreshRecord) (now : Int) : RefreshRecord :=
  { r with revokedAt := max now 1 }

/-- Why a store refuses. -/
inductive RefreshCause where
  | emptySecret
  | notFound
  | revoked
  | expired
  | alreadyRevoked
  | duplicate
  | storage (error : StorageError)
  deriving DecidableEq

/-- The wording of a cause. -/
def RefreshCause.message : RefreshCause → String
  | .emptySecret => "empty refresh token"
  | .notFound => "refresh token not found"
  | .revoked => "refresh token revoked"
  | .expired => "refresh token expired"
  | .alreadyRevoked => "refresh token already revoked"
  | .duplicate => "refresh token already stored"
  | .storage e => "storage error: " ++ e.message

/-- What a store can be asked for. -/
inductive RefreshOperation where
  | issue
  | validate
  | revoke
  deriving DecidableEq

/-- The operation as text. -/
def RefreshOperation.text : RefreshOperation → String
  | .issue => "issue"
  | .validate => "validate"
  | .revoke => "revoke"

/-- A refusal with the store and the operation it comes from. -/
structure RefreshError where
  backend : Backend
  operation : RefreshOperation
  cause : RefreshCause
  deriving DecidableEq

/-- The wording of a refusal. -/
def RefreshError.message (e : RefreshError) : String :=
  "refresh_store." ++ e.operation.text ++ "." ++ e.backend.text ++ ": " ++ e.cause.message

/-- A new token: the secret goes to the client alone. -/
structure IssuedRefresh where
  tokenId : String
  secret : String
  deriving DecidableEq

/-- What a store says about a good secret. -/
structure ValidRefresh where
  userId : String
  tokenId : String
  expires : Int
  deriving DecidableEq

/-- The record of a new token. -/
def IssuedRefresh.record (i : IssuedRefresh) (now : Instant) (userId : String) (expires : Int)
    (previous : String) : RefreshRecord where
  tokenId := i.tokenId
  userId := userId
  tokenHash := fingerprint i.secret
  expires := expires
  revokedAt := 0
  previous := previous
  issuedAt := now.seconds

/-- A new token from random bytes, those of the secret first. -/
def IssuedRefresh.draw (now : Instant) (entropy : Entropy) : IssuedRefresh × Entropy :=
  let (secret, entropy) := entropy.draw Identifier.secretBytes
  let (suffix, entropy) := entropy.draw Identifier.tokenBytes
  (⟨Identifier.token now suffix, Identifier.secret secret⟩, entropy)

/-- What the record of a secret, if there is one, says at a second. -/
def RefreshRecord.judge (now : Int) : Option RefreshRecord → Except RefreshCause ValidRefresh
  | none => .error .notFound
  | some r =>
    if r.isRevoked then .error .revoked
    else if r.expires ≤ now then .error .expired
    else .ok ⟨r.userId, r.tokenId, r.expires⟩

end SignIn
