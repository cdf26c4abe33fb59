import SignIn.Hash.Sha256

/-!
# HMAC with SHA-256

The keyed hash of RFC 2104 with a block of 64 bytes. A key longer than a block is hashed first.
-/

namespace SignIn.Hmac

/-- The key as a whole block. -/
def blockKey (key : Bytes) : Bytes :=
  let short := if key.length > 64 then Sha256.hash key else key
  short ++ List.replicate (64 - short.length) 0

/-- The keyed hash of a message. -/
def sha256 (key message : Bytes) : Bytes :=
  let k := blockKey key
  Sha256.hash (k.map (· ^^^ 0x5c) ++ Sha256.hash (k.map (· ^^^ 0x36) ++ message))

end SignIn.Hmac
