import SignIn.Cookie.Set
import SignIn.Service.Collaborator

/-!
# Handing out a session

The last steps of a login and of a refresh: a session token is minted, a refresh token is issued,
and both go into cookies, the session first. No cookie exists before every step has succeeded.
-/

namespace SignIn

/-- The operation cannot go on. -/
def Operation.halt {α : Type} : Operation α := .ask .halt Empty.elim

namespace Service

/-- Writes a failure to the log, with its operation in the code. -/
def failureEntry (operation : String) (f : AuthFailure) : LogEntry :=
  ⟨if f.isInternal then .error else .warn, "auth." ++ operation ++ "." ++ f.code⟩

/-- Mints a session for a profile and issues a refresh token in the place of `previous`. -/
def handOut (settings : Settings) (profile : Profile) (previous : String) :
    Operation (Except AuthFailure (List String)) :=
  .ask .readClock fun now =>
  .ask .readClock fun issuedAt =>
  match SessionToken.mint profile settings.issuer settings.signingKey issuedAt
      settings.sessionLifetime, now.add? settings.refreshLifetime with
  | .error e, _ => .done (.error (.mint e))
  | .ok none, _ => Operation.halt
  | .ok (some _), none => Operation.halt
  | .ok (some minted), some refreshExpires =>
    .ask (.issueRefresh profile.userId refreshExpires.seconds previous) fun reply =>
    Script.andThen reply .issueRefresh fun issued =>
    .done (.ok
      [Cookie.setSession settings minted.token minted.expires now,
       Cookie.setRefresh settings issued.secret refreshExpires now])

end Service

end SignIn
