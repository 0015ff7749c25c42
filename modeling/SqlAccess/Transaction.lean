import SqlAccess.Session.Opening
import SqlAccess.Row

/-!
# Transactions

Statements are run in batches.  A batch is one transaction: it is bracketed by
`BEGIN IMMEDIATE` and `COMMIT`, and when anything between them fails, the
transaction is rolled back, unless the engine has already done so.  The results
come in the order of the statements.
-/

namespace SqlAccess

/-! ## Outcomes -/

/-- What became of a statement. -/
structure Outcome where
  rows : List Row := []
  /-- The number of rows that were changed. -/
  rowsAffected : Nat := 0
  /-- The number of the row that was inserted, if it was exactly one. -/
  insertId : Option Int := none
  deriving Repr

namespace Outcome

/-- The number of the row that a statement inserted: the last row of its
connection, provided that the statement is an insertion, that it changed one
row, and that the last row is not the marked one. -/
def insertedRow (isInsertion : Bool) (result : ResultSet) : Option Int :=
  if isInsertion ∧ result.changes = 1 ∧ result.lastRow ≠ some Statement.markedRow then
    result.lastRow
  else none

/-- The rows of a result; without columns it has none. -/
def rowsOf (result : ResultSet) : List Row :=
  if result.columns.isEmpty then [] else result.rows.map (Row.ofCells result.columns)

/-- The outcome of a statement that has the given result. -/
def ofResult (isInsertion : Bool) (result : ResultSet) : Outcome where
  rows := rowsOf result
  rowsAffected := result.changes.toNat
  insertId := insertedRow isInsertion result

/-- The first row. -/
def first? (outcome : Outcome) : Option Row :=
  outcome.rows.head?

end Outcome

namespace Action

variable {ω α : Type} [Engine ω]

/-! ## Statements of a transaction -/

/-- Runs a statement; before an insertion the row marker is set. -/
def runStatement (handle : Handle) (statement : Statement) : Action ω Outcome := do
  if statement.isInsertion then
    let _ ← execute handle Statement.rowMarker
  let result ← execute handle statement
  return .ofResult statement.isInsertion result

/-- What a fault means for the batch whose statement it ended. -/
def statementFault (position : Nat) (statement : Statement) (fault : Fault) : Fault :=
  if fault.isEngineError then .statementFailed position statement fault else fault

/-- Runs the statements of a batch from the given position on. -/
def runFrom (handle : Handle) (position : Nat) : List Statement → Action ω (List Outcome)
  | [] => pure []
  | statement :: statements => do
    let outcome ← (runStatement handle statement).converting (statementFault position statement)
    let outcomes ← runFrom handle (position + 1) statements
    return outcome :: outcomes

/-! ## The bracket -/

/-- Rolls the transaction of a connection back, if there is one. -/
def rollBack (handle : Handle) : Action ω Unit := do
  if ← inTransaction handle then
    let _ ← execute handle Statement.rollback

/-- Does something in a transaction. -/
def transaction (handle : Handle) (body : Action ω α) : Action ω α := do
  let _ ← execute handle Statement.beginning
  let committed : Action ω α := do
    let value ← body
    let _ ← execute handle Statement.commit
    return value
  committed.cleaning (rollBack handle)

/-- What a fault means for the database whose transaction it ended. -/
def transactionFault (database : String) (fault : Fault) : Fault :=
  if fault.isEngineError then .transactionFailed database fault else fault

/-- Runs statements on the database of a name, as one transaction.  Without
statements there is no transaction, and the database is not even opened. -/
def runBatch (database : String) (statements : List Statement) : Action ω (List Outcome) :=
  if statements.isEmpty then return []
  else do
    let handle ← opened database
    (transaction handle (runFrom handle 0 statements)).converting (transactionFault database)

end Action

end SqlAccess
