import SignIn.Cookie.Header
import SignIn.Http.Transport
import SignIn.Service.Login
import SignIn.Service.Refresh
import SignIn.Session.Validator
import SignIn.Web.AuthedUser
import SignIn.Web.LoginBody

/-!
# Routes

Four routes of sign-in, each by POST, and the profile of the current user by GET. A path is
matched as it stands. The profile is behind the session check, which also comes before the
complaint about a wrong method.
-/

namespace SignIn

/-- The routes. -/
inductive Route where
  | nonce
  | login
  | refresh
  | logout
  | me
  deriving DecidableEq

namespace Route

/-- The path of a route. -/
def path : Route → String
  | .nonce => "/auth/nonce"
  | .login => "/auth/google"
  | .refresh => "/auth/refresh"
  | .logout => "/auth/logout"
  | .me => "/me"

/-- Every route. -/
def all : List Route := [.nonce, .login, .refresh, .logout, .me]

/-- The route of a path. -/
def ofPath? (path : String) : Option Route := all.find? fun r => r.path == path

/-- The methods of a route. -/
def methods : Route → List String
  | .me => ["GET", "HEAD"]
  | _ => ["POST"]

/-- The methods as the value of an `allow` header. -/
def allow (r : Route) : String := ",".intercalate r.methods

end Route

/-- What the handlers need. -/
structure App where
  settings : Settings
  validator : Validator

namespace App

/-- The application of settings; its validator has their key, issuer and session cookie. -/
def ofSettings (settings : Settings) : App :=
  ⟨settings, ⟨settings.signingKey, settings.issuer, settings.sessionCookie⟩⟩

/-- The members of a user in a response. -/
def userMembers (p : Profile) : List (String × Json) :=
  [("user_id", .str p.userId),
   ("user_email", .str p.email),
   ("display", .str p.displayName),
   ("avatar_url", .str p.avatarUrl),
   ("roles", .strings p.roles)]

/-- A response that says who the user is. -/
def userResponse (members : List (String × Json)) : Response :=
  .json 200 (Json.record members).toText

/-- The secret of the refresh cookie. -/
def refreshCookie? (app : App) (r : Request) : Option String :=
  Cookie.value? r.headers app.settings.refreshCookie

/-! ## Handlers -/

/-- Issues a nonce. -/
def handleNonce : Operation Response :=
  Service.issueNonce.bind fun
  | .ok nonce => .done (.json 200 (Json.record [("nonce", .str nonce)]).toText)
  | .error f => .done (.ofError f.toApi)

/-- Trades an ID token and a nonce for cookies. -/
def handleLogin (app : App) (r : Request) : Operation Response :=
  match LoginBody.ofRequest? r with
  | none => (Service.loginFailed .invalidJson).bind fun f => .done (.ofError f.toApi)
  | some body =>
    (Service.login app.settings body.idToken body.nonce (Transport.isHttps r.headers)).bind fun
    | .ok outcome =>
      .done ((userResponse (userMembers outcome.user)).withCookies outcome.cookies)
    | .error f => .done (.ofError f.toApi)

/-- Trades the refresh cookie for new cookies. -/
def handleRefresh (app : App) (r : Request) : Operation Response :=
  (Service.refresh app.settings (app.refreshCookie? r)).bind fun
  | .ok cookies => .done ((Response.empty 204).withCookies cookies)
  | .error f => .done (.ofError f.toApi)

/-- Revokes the refresh cookie and clears both cookies. -/
def handleLogout (app : App) (r : Request) : Operation Response :=
  (Service.logout app.settings (app.refreshCookie? r)).bind fun cookies =>
  .done ((Response.empty 204).withCookies cookies)

/-- Tells the profile behind a session. -/
def handleMe (claims : Claims) : Operation Response :=
  match AuthedUser.ofClaims? (some claims) with
  | .error e => .done (.ofError e)
  | .ok user =>
    .ask (.userProfile user.id) fun
    | .ok profile =>
      .done (userResponse (userMembers profile ++
        [("expires", .str (String.ofList (Stamp.toSeconds user.expires)))]))
    | .error .notFound =>
      .ask (.log ⟨.warn, "me.profile_missing"⟩) fun _ =>
      .done (.ofError ⟨.notFound, "profile_not_found"⟩)
    | .error _ =>
      .ask (.log ⟨.error, "me.user_store"⟩) fun _ =>
      .done (.ofError ⟨.internal, "user_store"⟩)

/-! ## Dispatch -/

/-- The handler of a sign-in route. -/
def handlePost (app : App) (r : Request) : Route → Operation Response
  | .nonce => handleNonce
  | .login => app.handleLogin r
  | .refresh => app.handleRefresh r
  | .logout => app.handleLogout r
  | .me => .done (.empty 404)

/-- The complaint about a wrong method. -/
def wrongMethod (status : Nat) (route : Route) : Response :=
  (Response.empty status).withHeader "allow" route.allow

/-- The route of the current user, behind the session check. A HEAD has no body. -/
def handleProtected (app : App) (r : Request) : Operation Response :=
  .ask .readClock fun now =>
  match app.validator.checkRequest now r.headers, Route.me.methods.contains r.method with
  | .error _, true => .done (.empty 401)
  | .error _, false => .done (wrongMethod 401 .me)
  | .ok _, false => .done (wrongMethod 405 .me)
  | .ok claims, true =>
    (handleMe claims).bind fun response =>
    .done (if r.method = "HEAD" then { response with body := "" } else response)

/-- Answers a request. -/
def handle (app : App) (r : Request) : Operation Response :=
  match Route.ofPath? r.path with
  | none => .done (.empty 404)
  | some .me => app.handleProtected r
  | some route =>
    if route.methods.contains r.method then app.handlePost r route
    else .done (wrongMethod 405 route)

end App

end SignIn
