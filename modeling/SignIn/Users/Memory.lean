import SignIn.Storage.Dict
import SignIn.Users.Profile

/-!
# Profiles in memory

A user's id is the provider's name and the subject with a colon between them.
-/

namespace SignIn

/-- Profiles by user id. -/
structure UserMemory where
  profiles : Dict Profile

namespace UserMemory

/-- No user. -/
def empty : UserMemory := ⟨.empty⟩

/-- The id of a subject. -/
def userId (subject : String) : String := providerName ++ ":" ++ subject

/-- Writes the details of a user down and keeps the roles. -/
def upsert (m : UserMemory) (d : UserDetails) : (String × List String) × UserMemory :=
  let id := userId d.subject
  let roles := match m.profiles.get? id with
    | some p => p.roles
    | none => [defaultRole]
  ((id, roles), ⟨m.profiles.insert id ⟨id, d.email, d.displayName, d.avatarUrl, roles⟩⟩)

/-- The profile of a user id. -/
def profile (m : UserMemory) (id : String) : Except UserError Profile :=
  match m.profiles.get? id with
  | some p => .ok p
  | none => .error .notFound

end UserMemory

end SignIn
