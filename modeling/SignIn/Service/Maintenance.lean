import SignIn.Service.World

/-!
# Looking after the tables

What an operator does to the tables behind a service: list their rows, empty them, write roles
by hand and close the connection. Stores in memory have no tables.
-/

namespace SignIn

/-- The tables of refresh records and of users. -/
structure Tables where
  refreshTokens : Table RefreshRecord
  users : Table UserRow

/-- The rows in the order of a text, on an open connection. -/
def Table.sorted {ρ : Type} (t : Table ρ) (key : ρ → String) : Except StorageError (List ρ) :=
  if t.isOpen then .ok (t.rows.mergeSort fun a b => decide (key a ≤ key b)) else .error .closed

namespace Tables

/-- Closes the connection. -/
def close (t : Tables) : Tables := ⟨t.refreshTokens.close, t.users.close⟩

/-- Brings the tables up to date, emptied first when `reset` is set. -/
def migrate (t : Tables) (reset : Bool) : Except StorageError Tables :=
  if !(t.refreshTokens.isOpen && t.users.isOpen) then .error .closed
  else .ok (if reset then ⟨t.refreshTokens.clear, t.users.clear⟩ else t)

/-- The refresh records by token id. -/
def refreshRows (t : Tables) : Except StorageError (List RefreshRecord) :=
  t.refreshTokens.sorted (·.tokenId)

/-- The users by subject. -/
def userRows (t : Tables) : Except StorageError (List UserRow) := t.users.sorted (·.subject)

/-- Writes the text of a user's roles; the number of rows changed. -/
def setRoles (t : Tables) (userId roles : String) : Except StorageError Nat × Tables :=
  let (changed, users) := UserTable.setRoles t.users userId roles
  (changed, { t with users := users })

end Tables

namespace World

/-- The tables behind the stores. -/
def tables? (w : World) : Option Tables :=
  match w.refreshTokens, w.users with
  | .table refreshTokens, .table users => some ⟨refreshTokens, users⟩
  | _, _ => none

/-- The world with other tables. -/
def withTables (w : World) (t : Tables) : World :=
  { w with refreshTokens := .table t.refreshTokens, users := .table t.users }

end World

end SignIn
