import SignIn.Log.Entry
import SignIn.Script
import SignIn.Service.Failure

/-!
# Collaborators

The questions that an operation of the service asks: the time, the nonce store, the identity
provider, the two other stores, the counters and the log. `halt` has no answer; it stands where
an expiry would lie outside the calendar and the operation cannot go on.
-/

namespace SignIn

/-- Events that are counted. -/
inductive Event where
  | loginSuccess
  | loginFailure
  | refreshSuccess
  | refreshFailure
  | logoutSuccess
  deriving DecidableEq

namespace Event

/-- The name of an event. -/
def name : Event → String
  | .loginSuccess => "auth.login.success"
  | .loginFailure => "auth.login.failure"
  | .refreshSuccess => "auth.refresh.success"
  | .refreshFailure => "auth.refresh.failure"
  | .logoutSuccess => "auth.logout.success"

/-- Every event. -/
def all : List Event :=
  [.loginSuccess, .loginFailure, .refreshSuccess, .refreshFailure, .logoutSuccess]

end Event

/-- The questions of an operation. -/
inductive Call where
  | readClock
  | issueNonce
  | consumeNonce (nonce : String)
  | verifyIdentity (idToken audience : String)
  | upsertUser (details : UserDetails)
  | userProfile (userId : String)
  | issueRefresh (userId : String) (expires : Int) (previous : String)
  | validateRefresh (secret : String)
  | revokeRefresh (tokenId : String)
  | count (event : Event)
  | log (entry : LogEntry)
  | halt

/-- The answers. -/
def Call.Reply : Call → Type
  | .readClock => Instant
  -- none when the nonce would expire outside the calendar
  | .issueNonce => Except NonceError (Option String)
  | .consumeNonce _ => Except NonceError Unit
  | .verifyIdentity _ _ => Except IdentityError IdentityClaims
  | .upsertUser _ => Except UserError (String × List String)
  | .userProfile _ => Except UserError Profile
  | .issueRefresh _ _ _ => Except RefreshError IssuedRefresh
  | .validateRefresh _ => Except RefreshError ValidRefresh
  | .revokeRefresh _ => Except RefreshError Unit
  | .count _ => Unit
  | .log _ => Unit
  | .halt => Empty

/-- The questions with their answers. -/
abbrev collaborators : Interface := ⟨Call, Call.Reply⟩

/-- A script of the service. -/
abbrev Operation := Script collaborators

end SignIn
