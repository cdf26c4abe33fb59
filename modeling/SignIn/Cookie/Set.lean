import SignIn.Settings.Basic
import SignIn.Text.Segments
import SignIn.Time.Stamp

/-!
# Writing cookies

The text of a `Set-Cookie` header. A cookie is set with its date of expiry and the whole seconds
left, never a negative number; it is cleared by an empty value, the start of 1970 and no seconds.
Setting and clearing write the same path and attributes, so that clearing hits the cookie that
was set. `Secure` is left out only over insecure transport and never with `SameSite=None`.
-/

namespace SignIn.Cookie

/-- The session cookie goes to every path. -/
def sessionPath : String := "/"

/-- The refresh cookie goes to the sign-in routes only. -/
def refreshPath : String := "/auth"

/-- The attributes that every cookie of the service ends in. -/
def attributes (settings : Settings) : String :=
  (settings.cookieDomain.elim "" fun domain => "; Domain=" ++ domain) ++
    (if !settings.allowInsecureHttp || settings.sameSite == .none then "; Secure" else "") ++
    "; SameSite=" ++ settings.sameSite.text

/-- A cookie with its path, its date of expiry and the seconds left. -/
def compose (settings : Settings) (name value path expires : String) (maxAge : Int) : String :=
  name ++ "=" ++ value ++ "; Path=" ++ path ++ "; HttpOnly; Expires=" ++ expires ++
    "; Max-Age=" ++ String.ofList (Decimal.signed maxAge) ++ attributes settings

/-- Sets a cookie until an instant. -/
def set (settings : Settings) (name value path : String) (expires now : Instant) : String :=
  compose settings name value path (String.ofList (Stamp.cookieDate expires))
    (max (expires.secondsSince now) 0)

/-- Clears a cookie that was set on a path. -/
def clear (settings : Settings) (name path : String) : String :=
  compose settings name "" path "Thu, 01 Jan 1970 00:00:00 GMT" 0

/-- Sets the session cookie. -/
def setSession (settings : Settings) (token : String) (expires now : Instant) : String :=
  set settings settings.sessionCookie token sessionPath expires now

/-- Sets the refresh cookie. -/
def setRefresh (settings : Settings) (secret : String) (expires now : Instant) : String :=
  set settings settings.refreshCookie secret refreshPath expires now

/-- Clears the session cookie. -/
def clearSession (settings : Settings) : String := clear settings settings.sessionCookie sessionPath

/-- Clears the refresh cookie. -/
def clearRefresh (settings : Settings) : String := clear settings settings.refreshCookie refreshPath

/-- The value that the first text for `name` sets, up to its first semicolon. -/
def setValue? (texts : List String) (name : String) : Option String :=
  let start := name.toList ++ ['=']
  (texts.find? fun text => start.isPrefixOf text.toList).map fun text =>
    String.ofList (Text.upTo ';' (text.toList.drop start.length))

end SignIn.Cookie
