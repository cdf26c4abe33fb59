import SignIn.Identity.Binding
import SignIn.Json.Printer
import SignIn.Nonce.Store
import SignIn.Refresh.Record
import SignIn.Session.Token
import SignIn.Users.Profile

/-!
# Failures of the service

Every way in which a request of the service can fail is a cause of its own. A cause has a wording
for the log, a stable code for log and client, and is either internal, a fault of the
infrastructure, or the client's. The client sees the code alone, under one of four kinds.
-/

namespace SignIn

/-- The kinds of errors that a client sees. -/
inductive ApiErrorKind where
  | unauthorized
  | badRequest
  | notFound
  | internal
  deriving DecidableEq

/-- A kind and a stable cause. -/
structure ApiError where
  kind : ApiErrorKind
  cause : String
  deriving DecidableEq

namespace ApiErrorKind

/-- The kind in words. -/
def label : ApiErrorKind → String
  | .unauthorized => "Unauthorized"
  | .badRequest => "Bad Request"
  | .notFound => "Not Found"
  | .internal => "Internal Server Error"

/-- The kind as a code. -/
def code : ApiErrorKind → String
  | .unauthorized => "UNAUTHORIZED"
  | .badRequest => "BAD_REQUEST"
  | .notFound => "NOT_FOUND"
  | .internal => "INTERNAL_SERVER_ERROR"

/-- The status of a response. -/
def status : ApiErrorKind → Nat
  | .unauthorized => 401
  | .badRequest => 400
  | .notFound => 404
  | .internal => 500

end ApiErrorKind

namespace ApiError

/-- The wording of an error. -/
def message (e : ApiError) : String := e.kind.label ++ ": " ++ e.cause

/-- The body of a response. -/
def body (e : ApiError) : String :=
  (Json.record [("error", .str e.cause), ("code", .str e.kind.code)]).toText

end ApiError

/-- Why a login, a refresh or the issue of a nonce failed. -/
inductive AuthFailure where
  | invalidJson
  | missingIdToken
  | missingNonce
  | invalidNonce (error : NonceError)
  | nonceIssue (error : NonceError)
  | httpsRequired
  | identity (error : IdentityError)
  | binding (error : BindingError)
  | userStore (error : UserError)
  | mint (error : MintError)
  | issueRefresh (error : RefreshError)
  | missingRefreshCookie
  | invalidRefresh (error : RefreshError)
  | profileUnavailable (error : UserError)
  | revokePrevious (error : RefreshError)
  deriving DecidableEq

/-- The refusal comes from the storage below the store. -/
def RefreshCause.isStorage : RefreshCause → Bool
  | .storage _ => true
  | _ => false

namespace AuthFailure

/-- The wording of a cause. -/
def message : AuthFailure → String
  | .invalidJson => "malformed request body"
  | .missingIdToken => "missing google_id_token"
  | .missingNonce => "missing nonce_token"
  | .invalidNonce e => "nonce rejected: " ++ e.message
  | .nonceIssue e => "failed to issue nonce: " ++ e.message
  | .httpsRequired => "login requires https"
  | .identity e => e.message
  | .binding e => "identity binding failed: " ++ e.message
  | .userStore e => "user store failed: " ++ e.message
  | .mint e => "failed to mint session token: " ++ e.message
  | .issueRefresh e => "failed to issue refresh token: " ++ e.message
  | .missingRefreshCookie => "missing refresh cookie"
  | .invalidRefresh e => "refresh token rejected: " ++ e.message
  | .profileUnavailable e => "profile unavailable: " ++ e.message
  | .revokePrevious e => "failed to revoke previous refresh token: " ++ e.message

/-- The stable code of a cause. -/
def code : AuthFailure → String
  | .invalidJson => "invalid_json"
  | .missingIdToken => "missing_token"
  | .missingNonce => "missing_nonce"
  | .invalidNonce _ => "invalid_nonce_token"
  | .nonceIssue _ => "issue_nonce"
  | .httpsRequired => "https_required"
  | .identity (.rejected _) => "invalid_google_token"
  | .identity (.unavailable _) => "google_unavailable"
  | .binding .invalidIssuer => "invalid_issuer"
  | .binding .unverifiedIdentity => "unverified_identity"
  | .binding .nonceMismatch => "nonce_mismatch"
  | .userStore _ => "user_store"
  | .mint _ => "mint_jwt"
  | .issueRefresh _ => "issue_refresh"
  | .missingRefreshCookie => "missing_cookie"
  | .invalidRefresh e => if e.cause = .expired then "expired" else "validate"
  | .profileUnavailable _ => "profile"
  | .revokePrevious _ => "revoke_previous"

/-- The infrastructure failed, not the client. -/
def isInternal : AuthFailure → Bool
  | .nonceIssue _ => true
  | .identity (.unavailable _) => true
  | .userStore _ => true
  | .mint _ => true
  | .issueRefresh _ => true
  | .revokePrevious _ => true
  | .invalidRefresh e => e.cause.isStorage
  | _ => false

/-- What the client sees. -/
def toApi (f : AuthFailure) : ApiError :=
  if f.isInternal then ⟨.internal, f.code⟩
  else match f with
    | .invalidJson | .missingIdToken | .missingNonce | .httpsRequired => ⟨.badRequest, f.code⟩
    | _ => ⟨.unauthorized, f.code⟩

end AuthFailure

end SignIn
