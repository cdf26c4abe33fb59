import SignIn.Settings.Basic
import SignIn.Text.Decimal
import SignIn.Text.Quoted

/-!
# Settings as a line of a log

All settings on one line, as operators see them at the start of the service. The signing key is
left out, whatever it is: two settings that differ in their keys alone have the same description
(`describe_signingKey`).
-/

namespace SignIn

/-- A name and its fields between braces. -/
def describeFields (name : String) (fields : List (String × String)) : String :=
  name ++ " \x7b " ++ ", ".intercalate (fields.map fun f => f.1 ++ ": " ++ f.2) ++ " \x7d"

/-- A span in whole seconds and the nanoseconds beyond them. -/
def Span.describe (d : Span) : String :=
  describeFields "TimeDelta"
    [("secs", String.ofList (Decimal.signed d.floorSeconds)),
     ("nanos", String.ofList (Decimal.digits d.subsecond))]

/-- A flag in words. -/
def describeFlag (b : Bool) : String := if b then "true" else "false"

namespace Settings

/-- The domain of the cookies, if there is one. -/
def describeDomain : Option String → String
  | some domain => "Some(" ++ Quoted.encode domain ++ ")"
  | none => "None"

/-- The settings on one line. -/
def describe (s : Settings) : String :=
  describeFields "ServerConfig"
    [("google_client_id", Quoted.encode s.clientId),
     ("signing_key", Quoted.encode "<redacted>"),
     ("issuer", Quoted.encode s.issuer),
     ("cookie_domain", describeDomain s.cookieDomain),
     ("session_cookie_name", Quoted.encode s.sessionCookie),
     ("refresh_cookie_name", Quoted.encode s.refreshCookie),
     ("session_ttl", s.sessionLifetime.describe),
     ("refresh_ttl", s.refreshLifetime.describe),
     ("nonce_ttl", s.nonceLifetime.describe),
     ("same_site", s.sameSite.text),
     ("allow_insecure_http", describeFlag s.allowInsecureHttp)]

/-- No signing key shows in the description of the settings that it belongs to. -/
theorem describe_signingKey (s : Settings) (key : Bytes) :
    describe { s with signingKey := key } = describe s := rfl

end Settings

end SignIn
