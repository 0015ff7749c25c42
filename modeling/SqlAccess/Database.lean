import SqlAccess.Transaction

/-!
# Databases

A database is known by its name alone; everything else about it is in the
registry of the session.
-/

namespace SqlAccess

/-- A database. -/
structure Database where
  name : String
  deriving DecidableEq, Repr

namespace Database

/-- The text that describes a database. -/
def describe (database : Database) : String :=
  s!"Database(name={Text.quoted database.name})"

variable {ω : Type}

/-- Whether the database is open.  Asking does not register it. -/
def isOpen (database : Database) : Action ω Bool := do
  return ((← Action.registry).find? database.name).any Connection.isOpen

variable [Engine ω]

/-- Opens the database, if need be. -/
def connection (database : Database) : Action ω Connection := do
  let _ ← Action.opened database.name
  Action.connection database.name

/-- Closes the database, if it is open. -/
def close (database : Database) : Action ω Unit :=
  Action.closed database.name

/-- Runs statements as one transaction. -/
def executeAll (database : Database) (statements : List Statement) : Action ω (List Outcome) :=
  Action.runBatch database.name statements

/-- Runs a statement as a transaction of its own. -/
def execute (database : Database) (statement : Statement) : Action ω Outcome := do
  let outcomes ← database.executeAll [statement]
  return outcomes.headD {}

/-- The rows that a statement gives. -/
def rows (database : Database) (statement : Statement) : Action ω (List Row) := do
  return (← database.execute statement).rows

end Database

end SqlAccess
