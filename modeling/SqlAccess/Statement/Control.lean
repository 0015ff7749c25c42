import SqlAccess.Statement
import SqlAccess.Text.Blank
import SqlAccess.Text.Case

/-!
# Control statements

The statements that a connection runs on its own account: those that bracket a
transaction, and the one that marks the last inserted row.

The engine tells for each statement the row that was inserted last, whether or
not the statement inserted it.  So before an insertion the *row marker* inserts
a row of a known number into a table that only serves this purpose: when the
engine still tells that number afterwards, the insertion has assigned no row.
-/

namespace SqlAccess.Statement

/-! ## Transactions -/

/-- Begins a transaction that may write. -/
def beginning : Statement := ⟨"BEGIN IMMEDIATE", []⟩

/-- Makes the effects of a transaction durable. -/
def commit : Statement := ⟨"COMMIT", []⟩

/-- Takes the effects of a transaction back. -/
def rollback : Statement := ⟨"ROLLBACK", []⟩

/-! ## The row marker -/

/-- The name of the table of the row marker. -/
def markTable : String := "_sqlitemanager_rowid_mark"

/-- The number of the marked row, which no other row is expected to have. -/
def markedRow : Int := -9223372036854775807

/-- Creates the table of the row marker, which lasts as long as the connection. -/
def markTableCreation : Statement :=
  ⟨s!"CREATE TEMP TABLE IF NOT EXISTS {markTable} (mark INTEGER)", []⟩

/-- Inserts the marked row. -/
def rowMarker : Statement :=
  ⟨s!"REPLACE INTO temp.{markTable} (rowid) VALUES ({markedRow})", []⟩

/-- Whether a statement is an insertion, judged by its first word. -/
def isInsertion (statement : Statement) : Bool :=
  match Text.words statement.sql with
  | [] => false
  | word :: _ => ["INSERT", "REPLACE"].contains (Text.capitals word)

example : isInsertion ⟨"\n insert into t", []⟩ = true := by decide +kernel
example : isInsertion ⟨"INSERTED", []⟩ = false := by decide +kernel

end SqlAccess.Statement
