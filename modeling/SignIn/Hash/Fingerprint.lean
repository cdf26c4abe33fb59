import SignIn.Hash.Sha256
import SignIn.Encoding.Base64Url

/-!
# Fingerprints of secrets

A store keeps the hash of a secret and never the secret: SHA-256 in base64.
-/

namespace SignIn

/-- The SHA-256 of a text in base64. -/
def fingerprint (s : String) : String := Base64Url.encodeText (Sha256.hash (Utf8.bytes s))

end SignIn
