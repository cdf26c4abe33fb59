import SignIn.Refresh.Memory
import SignIn.Refresh.Table

/-!
# Refresh stores

One of the two stores of refresh records, with each operation as one step. A new token is drawn
before it is stored, so a refused insert has used its random bytes too.
-/

namespace SignIn

/-- A store of refresh records. -/
inductive RefreshStore where
  | memory (m : RefreshMemory)
  | table (t : Table RefreshRecord)

namespace RefreshStore

/-- A store of a kind without records. -/
def empty : Backend → RefreshStore
  | .memory => .memory .empty
  | .sqlite => .table .empty

/-- The kind of a store. -/
def backend : RefreshStore → Backend
  | .memory _ => .memory
  | .table _ => .sqlite

/-- A refusal of this store. -/
def fail (s : RefreshStore) (operation : RefreshOperation) (cause : RefreshCause) : RefreshError :=
  ⟨s.backend, operation, cause⟩

/-- Stores a record. -/
def insert (s : RefreshStore) (r : RefreshRecord) : Except RefreshCause Unit × RefreshStore :=
  match s with
  | .memory m => let (a, m) := m.insert r; (a, .memory m)
  | .table t => let (a, t) := (RefreshTable.insert r).run RefreshTable.execute t; (a, .table t)

/-- Issues a token to a user. -/
def issue (s : RefreshStore) (now : Instant) (entropy : Entropy) (userId : String) (expires : Int)
    (previous : String) : Except RefreshError IssuedRefresh × RefreshStore × Entropy :=
  let (issued, entropy) := IssuedRefresh.draw now entropy
  match s.insert (issued.record now userId expires previous) with
  | (.ok (), s) => (.ok issued, s, entropy)
  | (.error cause, s) => (.error (s.fail .issue cause), s, entropy)

/-- Looks a secret up. -/
def validate (s : RefreshStore) (now : Instant) (secret : String) :
    Except RefreshError ValidRefresh :=
  let answer := match s with
    | .memory m => m.validate now.seconds secret
    | .table t => ((RefreshTable.validate now.seconds secret).run RefreshTable.execute t).1
  answer.mapError (s.fail .validate)

/-- Revokes a token. -/
def revoke (s : RefreshStore) (now : Instant) (tokenId : String) :
    Except RefreshError Unit × RefreshStore :=
  let (answer, s') : Except RefreshCause Unit × RefreshStore := match s with
    | .memory m => let (a, m) := m.revoke now.seconds tokenId; (a, .memory m)
    | .table t =>
      let (a, t) := (RefreshTable.revoke now.seconds tokenId).run RefreshTable.execute t
      (a, .table t)
  (answer.mapError (s.fail .revoke), s')

end RefreshStore

end SignIn
