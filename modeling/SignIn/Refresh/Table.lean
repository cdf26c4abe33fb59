import SignIn.Refresh.Record
import SignIn.Script

/-!
# Refresh records in a table

The token id is the primary key and the hash is unique. Each operation is a script of statements,
and each statement is one step of the database; revoking is a conditional update first and a
look at the row only when nothing changed, so that several users of one table cannot both
revoke a token.
-/

namespace SignIn

/-- The statements on the table of refresh records. -/
inductive RefreshStatement where
  | insert (record : RefreshRecord)
  | selectByHash (hash : String)
  /-- Stamps the active record with an id. -/
  | stampActive (tokenId : String) (stamp : Int)
  | selectById (tokenId : String)

/-- The answers: rows, or how many rows changed. -/
def RefreshStatement.Reply : RefreshStatement → Type
  | .insert _ => Except StorageError Unit
  | .selectByHash _ => Except StorageError (Option RefreshRecord)
  | .stampActive _ _ => Except StorageError Nat
  | .selectById _ => Except StorageError (Option RefreshRecord)

/-- The statements as questions. -/
def refreshStatements : Interface := ⟨RefreshStatement, RefreshStatement.Reply⟩

namespace RefreshTable

/-- The unique columns of a record that a row shares. -/
def clash (rows : List RefreshRecord) (r : RefreshRecord) : Option String :=
  if rows.any fun q => q.tokenId == r.tokenId then some "refresh_tokens.token_id"
  else if rows.any fun q => q.tokenHash == r.tokenHash then some "refresh_tokens.token_hash"
  else none

/-- The active row with an id. -/
def isActive (tokenId : String) (r : RefreshRecord) : Bool :=
  r.tokenId == tokenId && r.revokedAt == 0

/-- Carries out one statement. -/
def execute : (s : RefreshStatement) → Table RefreshRecord → s.Reply × Table RefreshRecord
  | .insert r, t => t.onOpen fun rows =>
    match clash rows r with
    | some column => (.error (.taken column), rows)
    | none => (.ok (), rows ++ [r])
  | .selectByHash hash, t => t.onOpen fun rows =>
    (.ok (rows.find? fun r => r.tokenHash == hash), rows)
  | .stampActive tokenId stamp, t => t.onOpen fun rows =>
    (.ok (rows.filter (isActive tokenId)).length,
      rows.map fun r => if isActive tokenId r then { r with revokedAt := stamp } else r)
  | .selectById tokenId, t => t.onOpen fun rows =>
    (.ok (rows.find? fun r => r.tokenId == tokenId), rows)

/-- Stores a record. -/
def insert (r : RefreshRecord) : Script refreshStatements (Except RefreshCause Unit) :=
  .ask (.insert r) fun
    | .ok () => .done (.ok ())
    | .error (.taken _) => .done (.error .duplicate)
    | .error e => .done (.error (.storage e))

/-- What the table says about a secret at a second. -/
def validate (now : Int) (secret : String) :
    Script refreshStatements (Except RefreshCause ValidRefresh) :=
  if secret = "" then .done (.error .emptySecret)
  else .ask (.selectByHash (fingerprint secret)) fun
    | .ok found => .done (RefreshRecord.judge now found)
    | .error e => .done (.error (.storage e))

/-- Revokes the record with an id at a second. -/
def revoke (now : Int) (tokenId : String) : Script refreshStatements (Except RefreshCause Unit) :=
  .ask (.stampActive tokenId (max now 1)) fun
    | .error e => .done (.error (.storage e))
    | .ok changed =>
      if changed = 1 then .done (.ok ())
      else .ask (.selectById tokenId) fun
        | .error e => .done (.error (.storage e))
        | .ok none => .done (.error .notFound)
        | .ok (some _) => .done (.error .alreadyRevoked)

end RefreshTable

end SignIn
