import SignIn.Json.Reader
import SignIn.Script
import SignIn.Users.Profile

/-!
# Profiles in a table

The id is the primary key, and provider and subject together are unique. An empty name or avatar
is stored as no value, and the roles are the text of a JSON list. Writing a user down is an
insert that turns into an update when the subject is known, and a look at the row afterwards; the
candidate id counts only for a new row.
-/

namespace SignIn

/-- A user as stored. -/
structure UserRow where
  id : String
  email : String
  name : Option String
  avatar : Option String
  /-- A JSON list of strings. -/
  roles : String
  provider : String
  subject : String
  deriving DecidableEq

namespace UserRow

/-- The roles of a new row. -/
def defaultRoles : String := "[\"user\"]"

/-- No value for an empty text. -/
def optional (s : String) : Option String := if s = "" then none else some s

/-- A new row. -/
def fresh (id : String) (d : UserDetails) : UserRow where
  id := id
  email := d.email
  name := optional d.displayName
  avatar := optional d.avatarUrl
  roles := defaultRoles
  provider := providerName
  subject := d.subject

/-- The row with other details and the same id and roles. -/
def update (r : UserRow) (d : UserDetails) : UserRow :=
  { r with email := d.email, name := optional d.displayName, avatar := optional d.avatarUrl }

/-- The roles that a text lists. -/
def roles? (text : String) : Option (List String) := (Json.ofText? text).bind Json.texts?

/-- The profile of a row. -/
def profile (r : UserRow) : Except UserError Profile :=
  match roles? r.roles with
  | some roles => .ok ⟨r.id, r.email, r.name.getD "", r.avatar.getD "", roles⟩
  | none => .error .malformedRoles

/-- The row belongs to a subject of the provider. -/
def hasSubject (subject : String) (r : UserRow) : Bool :=
  r.provider == providerName && r.subject == subject

end UserRow

/-- The statements on the table of users. -/
inductive UserStatement where
  /-- Inserts a row with an id, or updates the row of the subject. -/
  | upsert (id : String) (details : UserDetails)
  | selectBySubject (subject : String)
  | selectById (id : String)

/-- The answers. -/
def UserStatement.Reply : UserStatement → Type
  | .upsert _ _ => Except StorageError Unit
  | .selectBySubject _ => Except StorageError (Option UserRow)
  | .selectById _ => Except StorageError (Option UserRow)

/-- The statements as questions. -/
def userStatements : Interface := ⟨UserStatement, UserStatement.Reply⟩

namespace UserTable

/-- Carries out one statement. A known subject is updated whatever the id; only then does a taken
id refuse the row. -/
def execute : (s : UserStatement) → Table UserRow → s.Reply × Table UserRow
  | .upsert id d, t => t.onOpen fun rows =>
    if rows.any (UserRow.hasSubject d.subject) then
      (.ok (), rows.map fun r => if UserRow.hasSubject d.subject r then r.update d else r)
    else if rows.any fun r => r.id == id then (.error (.taken "users.id"), rows)
    else (.ok (), rows ++ [UserRow.fresh id d])
  | .selectBySubject subject, t => t.onOpen fun rows =>
    (.ok (rows.find? (UserRow.hasSubject subject)), rows)
  | .selectById id, t => t.onOpen fun rows => (.ok (rows.find? fun r => r.id == id), rows)

/-- The profile of a row that was looked for, or what it means that there is none. -/
def found (missing : UserError) : Except StorageError (Option UserRow) → Except UserError Profile
  | .error e => .error (.storage e)
  | .ok none => .error missing
  | .ok (some r) => r.profile

/-- Writes the details of a user down; the candidate id is for a new row. The row is looked for as
one that must be there. -/
def upsert (candidate : String) (d : UserDetails) :
    Script userStatements (Except UserError (String × List String)) :=
  .ask (.upsert candidate d) fun
    | .error e => .done (.error (.storage e))
    | .ok () => .ask (.selectBySubject d.subject) fun row =>
      .done ((found (.storage .noRow) row).map fun p => (p.userId, p.roles))

/-- The profile of a user id. -/
def profile (id : String) : Script userStatements (Except UserError Profile) :=
  .ask (.selectById id) fun row => .done (found .notFound row)

/-- Writes the text of the roles of a user id; the number of rows changed. -/
def setRoles (t : Table UserRow) (id text : String) : Except StorageError Nat × Table UserRow :=
  t.onOpen fun rows =>
    (.ok (rows.filter fun r => r.id == id).length,
      rows.map fun r => if r.id == id then { r with roles := text } else r)

end UserTable

end SignIn
