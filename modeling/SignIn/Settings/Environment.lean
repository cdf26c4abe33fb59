import SignIn.Settings.Basic
import SignIn.Text.Ascii
import SignIn.Text.Decimal

/-!
# Settings from the environment

Each variable that is set overrides the default of the draft. A lifetime is a whole number of
seconds with blanks around it; a blank one counts as unset. A flag is on for `true`, `1` and
`yes`. Lifetimes are read one after the other, and each is made into a span before the next is
read, so the first fault among them decides.
-/

namespace SignIn

/-- The values of the variables that are set. -/
abbrev Environment := String → Option String

/-- Words that turn a flag on. -/
def flagWords : List String := ["true", "1", "yes"]

/-- The value turns a flag on. -/
def isFlagOn (value : String) : Bool := flagWords.contains (Text.lower (Text.trim value))

namespace Environment

/-- The value of a variable. -/
def value? (env : Environment) (v : Variable) : Option String := env v.name

/-- A flag is on. -/
def flag (env : Environment) (v : Variable) : Bool := (env.value? v).any isFlagOn

/-- The whole seconds of a lifetime, none when unset or blank. -/
def seconds (env : Environment) (v : Variable) : Except SettingsError (Option Int) :=
  match env.value? v with
  | some raw =>
    if Text.allBlank raw then .ok none
    else match Decimal.int64? (Text.trimChars raw.toList) with
      | some n => .ok (some n)
      | none => .error (.invalid v raw)
  | none => .ok none

end Environment

/-- Why no settings came out of an environment. -/
inductive EnvironmentFault where
  | refused (error : SettingsError)
  /-- A lifetime of so many seconds does not exist. -/
  | noSuchSpan
  deriving DecidableEq

namespace Settings

/-- A lifetime from its variable, `default` when it is unset. -/
def lifetime (env : Environment) (v : Variable) (default : Span) : Except EnvironmentFault Span :=
  match env.seconds v with
  | .error e => .error (.refused e)
  | .ok none => .ok default
  | .ok (some n) =>
    match Span.ofSeconds? n with
    | some d => .ok d
    | none => .error .noSuchSpan

/-- The draft of an environment without its lifetimes. -/
def draftOfTexts (env : Environment) : Draft :=
  let draft : Draft := {}
  let draft := { draft with
    clientId := (env.value? .clientId).getD ""
    signingKey := Utf8.bytes ((env.value? .signingKey).getD "")
    issuer := (env.value? .issuer).getD draft.issuer
    sessionCookie := (env.value? .sessionCookie).getD draft.sessionCookie
    refreshCookie := (env.value? .refreshCookie).getD draft.refreshCookie
    sameSite := if env.flag .crossOrigin then .none else draft.sameSite
    allowInsecureHttp := env.flag .insecureHttp }
  match env.value? .cookieDomain with
  | some domain => draft.setCookieDomain domain
  | none => draft

/-- The settings of an environment. -/
def ofEnvironment (env : Environment) : Except EnvironmentFault Settings := do
  let draft := draftOfTexts env
  let session ← lifetime env .sessionLifetime draft.sessionLifetime
  let refresh ← lifetime env .refreshLifetime draft.refreshLifetime
  let nonce ← lifetime env .nonceLifetime draft.nonceLifetime
  let draft := { draft with
    sessionLifetime := session, refreshLifetime := refresh, nonceLifetime := nonce }
  match draft.build with
  | .ok settings => pure settings
  | .error e => throw (.refused e)

end Settings

end SignIn
