import SignIn.Entropy
import SignIn.Identifier
import SignIn.Storage.Backend
import SignIn.Users.Memory
import SignIn.Users.Table

/-!
# User stores

One of the two stores of profiles, with each operation as one step. The table draws a candidate id
for every upsert, also when the user is known; the memory draws nothing.
-/

namespace SignIn

/-- A store of profiles. -/
inductive UserStore where
  | memory (m : UserMemory)
  | table (t : Table UserRow)

namespace UserStore

/-- A store of a kind without users. -/
def empty : Backend → UserStore
  | .memory => .memory .empty
  | .sqlite => .table .empty

/-- Writes the details of a user down; the user's id and roles. -/
def upsert (s : UserStore) (entropy : Entropy) (d : UserDetails) :
    Except UserError (String × List String) × UserStore × Entropy :=
  match s with
  | .memory m =>
    let (known, m) := m.upsert d
    (.ok known, .memory m, entropy)
  | .table t =>
    let (bytes, entropy) := entropy.draw Identifier.userBytes
    let (answer, t) := (UserTable.upsert (Identifier.user bytes) d).run UserTable.execute t
    (answer, .table t, entropy)

/-- The profile of a user id. -/
def profile (s : UserStore) (id : String) : Except UserError Profile :=
  match s with
  | .memory m => m.profile id
  | .table t => ((UserTable.profile id).run UserTable.execute t).1

end UserStore

end SignIn
