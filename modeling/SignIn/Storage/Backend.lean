/-!
# Kinds of stores

Every store keeps its data in memory or in tables of a database.
-/

namespace SignIn

/-- The kinds of stores. -/
inductive Backend where
  | memory
  | sqlite
  deriving DecidableEq

/-- The kind as text. -/
def Backend.text : Backend → String
  | .memory => "memory"
  | .sqlite => "sqlite"

end SignIn
