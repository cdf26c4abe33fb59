/-!
# Tables

Rows behind a connection that can be closed. On a closed connection every statement fails and
changes nothing. A table refuses a row whose unique column is taken.
-/

namespace SignIn

/-- Why a statement failed. -/
inductive StorageError where
  /-- The connection is closed. -/
  | closed
  /-- The row would repeat a value of a unique column. -/
  | taken (column : String)
  /-- The statement is to find one row, and there is none. -/
  | noRow
  deriving DecidableEq

/-- The wording of a failure. -/
def StorageError.message : StorageError → String
  | .closed => "attempted to acquire a connection on a closed pool"
  | .taken column =>
    "error returned from database: (code: 1555) UNIQUE constraint failed: " ++ column
  | .noRow => "no rows returned by a query that expected to return at least one row"

/-- Rows in the order of their insertion. -/
structure Table (ρ : Type) where
  rows : List ρ
  isOpen : Bool

namespace Table

variable {ρ : Type}

/-- An open table without rows. -/
def empty : Table ρ := ⟨[], true⟩

/-- Closes the connection. -/
def close (t : Table ρ) : Table ρ := { t with isOpen := false }

/-- Drops all rows. -/
def clear (t : Table ρ) : Table ρ := { t with rows := [] }

/-- The answer and the table of a statement, a failure on a closed connection. -/
def onOpen {α : Type} (t : Table ρ) (statement : List ρ → Except StorageError α × List ρ) :
    Except StorageError α × Table ρ :=
  if t.isOpen then
    let (answer, rows) := statement t.rows
    (answer, { t with rows := rows })
  else (.error .closed, t)

end Table

end SignIn
