import SignIn.Storage.Table

/-!
# Profiles

What the service knows about a user, and why a store has no profile to give. A user is known by
the provider's subject when signing in and by the service's own id from then on.
-/

namespace SignIn

/-- A user as stored and as written into sessions. -/
structure Profile where
  userId : String
  email : String
  displayName : String
  avatarUrl : String
  roles : List String
  deriving DecidableEq

/-- What the provider says about a user at each sign-in. -/
structure UserDetails where
  subject : String
  email : String
  displayName : String
  avatarUrl : String
  deriving DecidableEq

/-- The role that every new user has. -/
def defaultRole : String := "user"

/-- The identity provider of all users. -/
def providerName : String := "google"

/-- Why a store has no profile. -/
inductive UserError where
  | notFound
  | storage (error : StorageError)
  /-- The stored roles are no JSON list of strings. -/
  | malformedRoles
  deriving DecidableEq

/-- The wording of a cause. -/
def UserError.message : UserError → String
  | .notFound => "user not found"
  | .storage e => "database error: " ++ e.message
  | .malformedRoles => "malformed roles column"

end SignIn
