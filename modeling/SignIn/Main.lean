import SignIn.Identifier

/-!
# A new signing key

The command line: it prints a fresh signing key as a line for the environment of the service and
of every other service that checks sessions.
-/

/-- Prints a new signing key. -/
def main : IO Unit := do
  let bytes ← IO.getRandomBytes SignIn.Identifier.signingKeyBytes.toUSize
  IO.println ("JWT_SIGNING_KEY=" ++ SignIn.Identifier.secret bytes.data.toList)
