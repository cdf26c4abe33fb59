import SignIn.Entropy
import SignIn.Time.Stamp

/-!
# Secrets and identifiers

What is made of random bytes: secrets in base64, and identifiers in Crockford's alphabet, which
leaves out I, L, O and U. A token id is the base64 of its instant and six characters more; it
carries no secret.
-/

namespace SignIn.Identifier

/-- Crockford's alphabet. -/
def alphabet : List Char :=
  ['0', '1', '2', '3', '4', '5', '6', '7', '8', '9', 'A', 'B', 'C', 'D', 'E', 'F', 'G', 'H', 'J',
   'K', 'M', 'N', 'P', 'Q', 'R', 'S', 'T', 'V', 'W', 'X', 'Y', 'Z']

/-- The character that a byte chooses. -/
def character (b : UInt8) : Char := alphabet.getD (b.toNat % 32) '0'

/-- One character for each byte. -/
def raw (bs : Bytes) : String := String.ofList (bs.map character)

/-- Bytes in the id of a user. -/
def userBytes : Nat := 10

/-- The id of a user. -/
def user (bs : Bytes) : String := "U_" ++ raw bs

/-- Bytes in the suffix of a token id. -/
def tokenBytes : Nat := 6

/-- The id of a refresh token issued at an instant. -/
def token (now : Instant) (bs : Bytes) : String :=
  Base64Url.encodeText (Utf8.bytes (String.ofList (Stamp.toNanos now))) ++ "-" ++ raw bs

/-- Bytes in a nonce and in a refresh secret. -/
def secretBytes : Nat := 32

/-- Bytes in a signing key, the block of the hash. -/
def signingKeyBytes : Nat := 64

/-- Bytes as a secret. -/
def secret (bs : Bytes) : String := Base64Url.encodeText bs

end SignIn.Identifier
