import SignIn.Identity.Provider
import SignIn.Nonce.Store
import SignIn.Refresh.Store
import SignIn.Service.Collaborator
import SignIn.Settings.Basic
import SignIn.Users.Store

/-!
# The world of the service

All collaborators together: a clock, random bytes, an identity provider, the stores, the counters
and the log. `serve` answers a question by doing the work; `answer` does the same unless a fault is
set, which takes the place of the work and changes nothing. `halt` has no answer and ends the run.
-/

namespace SignIn

/-- Errors that collaborators answer with in place of their work. -/
structure Faults where
  nonceIssue : Option NonceError := none
  nonceConsume : Option NonceError := none
  userUpsert : Option UserError := none
  userProfile : Option UserError := none
  refreshIssue : Option RefreshCause := none
  refreshValidate : Option RefreshCause := none
  refreshRevoke : Option RefreshCause := none

/-- How often each event was counted. -/
abbrev Counters := Event → Nat

namespace Counters

/-- Nothing counted yet. -/
def zero : Counters := fun _ => 0

/-- One more of an event. -/
def increment (c : Counters) (event : Event) : Counters :=
  fun e => if e = event then c e + 1 else c e

end Counters

/-- The collaborators of the service. -/
structure World where
  clock : Instant
  entropy : Entropy
  provider : Provider
  faults : Faults
  nonces : NonceStore
  refreshTokens : RefreshStore
  users : UserStore
  /-- Events are counted; otherwise they are dropped. -/
  counting : Bool
  counters : Counters
  log : List LogEntry

namespace World

/-- A world in which nothing has happened yet, its stores of the given kind and its provider
vouching for nobody in particular. -/
def start (settings : Settings) (backend : Backend) (clock : Instant) (entropy : Entropy)
    (counting : Bool) : World where
  clock := clock
  entropy := entropy
  provider := .vouching {}
  faults := {}
  nonces := .empty settings.nonceLifetime
  refreshTokens := RefreshStore.empty backend
  users := UserStore.empty backend
  counting := counting
  counters := .zero
  log := []

/-- The error that takes the place of an answer. -/
def fault? (w : World) : (c : Call) → Option c.Reply
  | .issueNonce => w.faults.nonceIssue.map .error
  | .consumeNonce _ => w.faults.nonceConsume.map .error
  | .upsertUser _ => w.faults.userUpsert.map .error
  | .userProfile _ => w.faults.userProfile.map .error
  | .issueRefresh _ _ _ =>
    w.faults.refreshIssue.map fun cause => .error (w.refreshTokens.fail .issue cause)
  | .validateRefresh _ =>
    w.faults.refreshValidate.map fun cause => .error (w.refreshTokens.fail .validate cause)
  | .revokeRefresh _ =>
    w.faults.refreshRevoke.map fun cause => .error (w.refreshTokens.fail .revoke cause)
  | _ => none

/-- Answers a question by doing the work. -/
def serve : (c : Call) → World → Option (c.Reply × World)
  | .readClock, w => some (w.clock, w)
  | .issueNonce, w =>
    let (bytes, entropy) := w.entropy.draw Identifier.secretBytes
    let (issued, nonces) := w.nonces.issue w.clock (Identifier.secret bytes)
    some (.ok issued, { w with nonces := nonces, entropy := entropy })
  | .consumeNonce nonce, w =>
    let (reply, nonces) := w.nonces.consume w.clock nonce
    some (reply, { w with nonces := nonces })
  | .verifyIdentity idToken audience, w => some (w.provider w.clock idToken audience, w)
  | .upsertUser details, w =>
    let (reply, users, entropy) := w.users.upsert w.entropy details
    some (reply, { w with users := users, entropy := entropy })
  | .userProfile userId, w => some (w.users.profile userId, w)
  | .issueRefresh userId expires previous, w =>
    let (reply, refreshTokens, entropy) :=
      w.refreshTokens.issue w.clock w.entropy userId expires previous
    some (reply, { w with refreshTokens := refreshTokens, entropy := entropy })
  | .validateRefresh secret, w => some (w.refreshTokens.validate w.clock secret, w)
  | .revokeRefresh tokenId, w =>
    let (reply, refreshTokens) := w.refreshTokens.revoke w.clock tokenId
    some (reply, { w with refreshTokens := refreshTokens })
  | .count event, w =>
    some ((), if w.counting then { w with counters := w.counters.increment event } else w)
  | .log entry, w => some ((), { w with log := w.log ++ [entry] })
  | .halt, _ => none

/-- Answers a question, with a fault if one is set for it. -/
def answer (c : Call) (w : World) : Option (c.Reply × World) :=
  match w.fault? c with
  | some reply => some (reply, w)
  | none => serve c w

/-- Runs an operation alone. -/
def perform {α : Type} (w : World) (operation : Operation α) : Option (α × World) :=
  operation.run? answer w

end World

end SignIn
