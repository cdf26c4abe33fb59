import SignIn.Service.Session

/-!
# Nonces and login

A login shows an ID token and a nonce. In this order: both are there, the nonce is consumed, the
transport is secure or need not be, the provider vouches for the token, its claims are bound to
the nonce, the user is written down, and a session is handed out. The first step that fails ends
the login; a nonce that was consumed stays consumed.
-/

namespace SignIn

/-- The result of a login. -/
structure LoginOutcome where
  user : Profile
  cookies : List String
  deriving DecidableEq

namespace Service

/-- Issues a nonce for the next login. -/
def issueNonce : Operation (Except AuthFailure String) :=
  .ask .issueNonce fun
  | .ok (some nonce) => .done (.ok nonce)
  | .ok none => Operation.halt
  | .error e => .ask (.log (failureEntry "nonce" (.nonceIssue e))) fun _ =>
    .done (.error (.nonceIssue e))

/-- The steps of a login. -/
def tryLogin (settings : Settings) (idToken nonce : String) (https : Bool) :
    Operation (Except AuthFailure LoginOutcome) :=
  let idToken := Text.trim idToken
  let nonce := Text.trim nonce
  if idToken = "" then .done (.error .missingIdToken)
  else if nonce = "" then .done (.error .missingNonce)
  else
    .ask (.consumeNonce nonce) fun reply =>
    Script.andThen reply .invalidNonce fun _ =>
    if !https && !settings.allowInsecureHttp then .done (.error .httpsRequired)
    else
      .ask (.verifyIdentity idToken settings.clientId) fun reply =>
      Script.andThen reply .identity fun claims =>
      Script.andThen (claims.bind nonce) .binding fun identity =>
      .ask (.upsertUser ⟨identity.subject, identity.email, identity.displayName,
        identity.avatarUrl⟩) fun reply =>
      Script.andThen reply .userStore fun (userId, roles) =>
      let user : Profile :=
        ⟨userId, identity.email, identity.displayName, identity.avatarUrl, roles⟩
      (handOut settings user "").bind fun cookies =>
      .done (cookies.map fun cookies => ⟨user, cookies⟩)

/-- Counts and logs a login that failed. -/
def loginFailed (f : AuthFailure) : Operation AuthFailure :=
  .ask (.count .loginFailure) fun _ =>
  .ask (.log (failureEntry "login" f)) fun _ =>
  .done f

/-- A login, counted and logged. -/
def login (settings : Settings) (idToken nonce : String) (https : Bool) :
    Operation (Except AuthFailure LoginOutcome) :=
  (tryLogin settings idToken nonce https).bind fun
  | .ok outcome => .ask (.count .loginSuccess) fun _ => .done (.ok outcome)
  | .error f => (loginFailed f).bind fun f => .done (.error f)

end Service

end SignIn
