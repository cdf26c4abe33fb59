import SignIn.Json.Basic
import SignIn.Time.Instant

/-!
# Claims

What a session token says, and its JSON form. Times are whole seconds since the start of 1970.
Reading asks for every member once, the display name, the avatar and the roles excepted, which
are empty when absent; members of other names are ignored. A list of all ten values in order is
read as well, though not in a token.
-/

namespace SignIn

/-- What a session token says. -/
structure Claims where
  userId : String
  email : String
  displayName : String
  avatarUrl : String
  roles : List String
  issuer : String
  subject : String
  issuedAt : Int
  notBefore : Int
  expires : Int
  deriving DecidableEq

namespace Claims

/-- The instant of issue, none outside the calendar. -/
def issuedInstant? (c : Claims) : Option Instant := Instant.ofSeconds? c.issuedAt

/-- The instant of expiry, none outside the calendar. -/
def expiryInstant? (c : Claims) : Option Instant := Instant.ofSeconds? c.expires

/-- The user has a role. -/
def hasRole (c : Claims) (role : String) : Bool := c.roles.contains role

/-- The members in the order in which they are written. -/
def toJson (c : Claims) : Json :=
  .record
    [("user_id", .str c.userId),
     ("user_email", .str c.email),
     ("user_display_name", .str c.displayName),
     ("user_avatar_url", .str c.avatarUrl),
     ("user_roles", .strings c.roles),
     ("iss", .str c.issuer),
     ("sub", .str c.subject),
     ("iat", .int c.issuedAt),
     ("nbf", .int c.notBefore),
     ("exp", .int c.expires)]

/-- The claims of an object. -/
def ofMembers? (ms : List (String × Json)) : Option Claims := do
  let userId ← Json.required? ms "user_id" Json.text?
  let email ← Json.required? ms "user_email" Json.text?
  let displayName ← Json.optional? ms "user_display_name" Json.text? ""
  let avatarUrl ← Json.optional? ms "user_avatar_url" Json.text? ""
  let roles ← Json.optional? ms "user_roles" Json.texts? []
  let issuer ← Json.required? ms "iss" Json.text?
  let subject ← Json.required? ms "sub" Json.text?
  let issuedAt ← Json.required? ms "iat" Json.int64?
  let notBefore ← Json.required? ms "nbf" Json.int64?
  let expires ← Json.required? ms "exp" Json.int64?
  pure
    { userId, email, displayName, avatarUrl, roles, issuer, subject, issuedAt, notBefore, expires }

/-- The names of the members in the order in which they are written. -/
def names : List String :=
  ["user_id", "user_email", "user_display_name", "user_avatar_url", "user_roles", "iss", "sub",
   "iat", "nbf", "exp"]

/-- The claims of the list of all values in the order in which they are written. -/
def ofItems? (items : List Json) : Option Claims :=
  if items.length = names.length then ofMembers? (names.zip items) else none

/-- The claims of a JSON value. -/
def ofJson? : Json → Option Claims
  | .arr items => ofItems? items
  | j => j.record?.bind ofMembers?

end Claims

end SignIn
