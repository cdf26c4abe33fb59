import SignIn.Service.Session

/-!
# Refresh and logout

A refresh trades the presented secret for a new session and a new secret, and revokes the old
one last. If another call has revoked it by then, the refresh still succeeds; any other refusal
leaves the new record unused. A logout never fails: it revokes the presented secret when it can
and clears both cookies.
-/

namespace SignIn.Service

/-- The presented secret, trimmed, unless it is blank. -/
def presented? (cookie : Option String) : Option String :=
  (cookie.map Text.trim).filter (· ≠ "")

/-- The steps of a refresh. -/
def tryRefresh (settings : Settings) (cookie : Option String) :
    Operation (Except AuthFailure (List String)) :=
  match presented? cookie with
  | none => .done (.error .missingRefreshCookie)
  | some secret =>
    .ask (.validateRefresh secret) fun reply =>
    Script.andThen reply .invalidRefresh fun current =>
    .ask (.userProfile current.userId) fun reply =>
    Script.andThen reply .profileUnavailable fun profile =>
    (handOut settings profile current.tokenId).bind fun
    | .error f => .done (.error f)
    | .ok cookies =>
      .ask (.revokeRefresh current.tokenId) fun
      | .ok () => .done (.ok cookies)
      | .error e =>
        if e.cause = .alreadyRevoked then .done (.ok cookies)
        else .done (.error (.revokePrevious e))

/-- A refresh, counted and logged. -/
def refresh (settings : Settings) (cookie : Option String) :
    Operation (Except AuthFailure (List String)) :=
  (tryRefresh settings cookie).bind fun
  | .ok cookies => .ask (.count .refreshSuccess) fun _ => .done (.ok cookies)
  | .error f =>
    .ask (.count .refreshFailure) fun _ =>
    .ask (.log (failureEntry "refresh" f)) fun _ =>
    .done (.error f)

/-- Revokes a secret if that can be done. -/
def revokeQuietly (secret : String) : Operation Unit :=
  .ask (.validateRefresh secret) fun
  | .error _ => .ask (.log ⟨.debug, "auth.logout.validate"⟩) .done
  | .ok current =>
    .ask (.revokeRefresh current.tokenId) fun
    | .ok () => .done ()
    | .error e =>
      if e.cause = .alreadyRevoked then .done ()
      else .ask (.log ⟨.warn, "auth.logout.revoke"⟩) .done

/-- A logout: the clearing cookies, the session's first. -/
def logout (settings : Settings) (cookie : Option String) : Operation (List String) :=
  (match presented? cookie with
    | some secret => revokeQuietly secret
    | none => .done ()).bind fun _ =>
  .ask (.count .logoutSuccess) fun _ =>
  .done [Cookie.clearSession settings, Cookie.clearRefresh settings]

end SignIn.Service
