import SignIn.Refresh.Record
import SignIn.Storage.Dict

/-!
# Refresh records in memory

Two dictionaries, records by token id and token ids by hash. A record goes in only when neither
its id nor its hash is taken, so that the two stay in step.
-/

namespace SignIn

/-- Records by id, and ids by hash. -/
structure RefreshMemory where
  byId : Dict RefreshRecord
  byHash : Dict String

namespace RefreshMemory

/-- No record. -/
def empty : RefreshMemory := ⟨.empty, .empty⟩

/-- Stores a record under its id and its hash. -/
def insert (m : RefreshMemory) (r : RefreshRecord) : Except RefreshCause Unit × RefreshMemory :=
  if m.byHash.contains r.tokenHash || m.byId.contains r.tokenId then (.error .duplicate, m)
  else (.ok (), ⟨m.byId.insert r.tokenId r, m.byHash.insert r.tokenHash r.tokenId⟩)

/-- The record with a hash. -/
def find? (m : RefreshMemory) (hash : String) : Option RefreshRecord :=
  (m.byHash.get? hash).bind m.byId.get?

/-- What the store says about a secret at a second. -/
def validate (m : RefreshMemory) (now : Int) (secret : String) : Except RefreshCause ValidRefresh :=
  if secret = "" then .error .emptySecret
  else RefreshRecord.judge now (m.find? (fingerprint secret))

/-- Revokes the record with an id at a second. -/
def revoke (m : RefreshMemory) (now : Int) (tokenId : String) :
    Except RefreshCause Unit × RefreshMemory :=
  match m.byId.get? tokenId with
  | none => (.error .notFound, m)
  | some r =>
    if r.isRevoked then (.error .alreadyRevoked, m)
    else (.ok (), { m with byId := m.byId.insert tokenId (r.revoke now) })

end RefreshMemory

end SignIn
