import SignIn.Text.Blank
import SignIn.Text.Utf8
import SignIn.Time.Instant

/-!
# Settings

A draft holds settings as given; `Draft.build` checks them in a fixed order and reports the first
rule that is broken. What is blank is missing; the two cookies must have different names and every
lifetime must be positive. The client id and the issuer are kept trimmed, the names of the cookies
as they are.

A broken rule is reported under the name of the environment variable that sets the value.
-/

namespace SignIn

/-- The SameSite attribute of the cookies. -/
inductive SameSite where
  | strict
  | lax
  | none
  deriving DecidableEq

/-- The attribute's value. -/
def SameSite.text : SameSite → String
  | .strict => "Strict"
  | .lax => "Lax"
  | .none => "None"

/-- The environment variables that hold settings. -/
inductive Variable where
  | clientId
  | signingKey
  | issuer
  | cookieDomain
  | sessionCookie
  | refreshCookie
  | sessionLifetime
  | refreshLifetime
  | nonceLifetime
  | crossOrigin
  | insecureHttp
  deriving DecidableEq

/-- The variable's name. -/
def Variable.name : Variable → String
  | .clientId => "GOOGLE_CLIENT_ID"
  | .signingKey => "JWT_SIGNING_KEY"
  | .issuer => "JWT_ISSUER"
  | .cookieDomain => "COOKIE_DOMAIN"
  | .sessionCookie => "SESSION_COOKIE_NAME"
  | .refreshCookie => "REFRESH_COOKIE_NAME"
  | .sessionLifetime => "SESSION_TTL_SECONDS"
  | .refreshLifetime => "REFRESH_TTL_SECONDS"
  | .nonceLifetime => "NONCE_TTL_SECONDS"
  | .crossOrigin => "ENABLE_CORS"
  | .insecureHttp => "DEV_INSECURE_HTTP"

/-- Why settings are refused. -/
inductive SettingsError where
  | missing (v : Variable)
  | invalid (v : Variable) (value : String)
  | notPositive (v : Variable)
  deriving DecidableEq

/-- The wording of a refusal. -/
def SettingsError.message : SettingsError → String
  | .missing v => "missing required configuration: " ++ v.name
  | .invalid v value => "invalid value for " ++ v.name ++ ": " ++ value
  | .notPositive v => v.name ++ " must be positive"

/-- The settings of the service. -/
structure Settings where
  clientId : String
  signingKey : Bytes
  issuer : String
  /-- The domain of the cookies, none for cookies of the host alone. -/
  cookieDomain : Option String
  sessionCookie : String
  refreshCookie : String
  sessionLifetime : Span
  refreshLifetime : Span
  nonceLifetime : Span
  sameSite : SameSite
  allowInsecureHttp : Bool
  deriving DecidableEq

/-- Settings before they are checked. -/
structure Draft where
  clientId : String := ""
  signingKey : Bytes := []
  issuer : String := "tauth"
  cookieDomain : Option String := none
  sessionCookie : String := "app_session"
  refreshCookie : String := "app_refresh"
  /-- Fifteen minutes unless set. -/
  sessionLifetime : Span := ⟨900 * 1000000000, by decide⟩
  /-- Sixty days unless set. -/
  refreshLifetime : Span := ⟨5184000 * 1000000000, by decide⟩
  /-- Five minutes unless set. -/
  nonceLifetime : Span := ⟨300 * 1000000000, by decide⟩
  sameSite : SameSite := .strict
  allowInsecureHttp : Bool := false

namespace Draft

/-- Sets the domain, trimmed; a blank one stands for none. -/
def setCookieDomain (draft : Draft) (domain : String) : Draft :=
  { draft with cookieDomain := if Text.allBlank domain then none else some (Text.trim domain) }

/-- The rules, each with what its breach reports. -/
def rules (draft : Draft) : List (Bool × SettingsError) :=
  [(!Text.allBlank draft.clientId, .missing .clientId),
   (!draft.signingKey.isEmpty, .missing .signingKey),
   (!Text.allBlank draft.issuer, .missing .issuer),
   (!Text.allBlank draft.sessionCookie, .missing .sessionCookie),
   (!Text.allBlank draft.refreshCookie, .missing .refreshCookie),
   (draft.sessionCookie != draft.refreshCookie, .invalid .refreshCookie draft.refreshCookie),
   (0 < draft.sessionLifetime.nanos, .notPositive .sessionLifetime),
   (0 < draft.refreshLifetime.nanos, .notPositive .refreshLifetime),
   (0 < draft.nonceLifetime.nanos, .notPositive .nonceLifetime)]

/-- The first broken rule. -/
def breach? (draft : Draft) : Option SettingsError :=
  (draft.rules.find? fun rule => !rule.1).map (·.2)

/-- The settings of a draft that breaks no rule. -/
def build (draft : Draft) : Except SettingsError Settings :=
  match draft.breach? with
  | some e => .error e
  | none => .ok
    { clientId := Text.trim draft.clientId
      signingKey := draft.signingKey
      issuer := Text.trim draft.issuer
      cookieDomain := draft.cookieDomain
      sessionCookie := draft.sessionCookie
      refreshCookie := draft.refreshCookie
      sessionLifetime := draft.sessionLifetime
      refreshLifetime := draft.refreshLifetime
      nonceLifetime := draft.nonceLifetime
      sameSite := draft.sameSite
      allowInsecureHttp := draft.allowInsecureHttp }

end Draft

end SignIn
