import SqlAccess.Statement
import SqlAccess.Fault

/-!
# Engines

An engine keeps databases in files and runs statements on them.  All that is
asked of it are four things: to connect to a file, to run a statement on a
connection, to close a connection, and to tell whether a connection is in a
transaction.

The state of an engine is part of the state of the outside world, of which
nothing else is known here.  Each request may change it, also when it fails.
-/

namespace SqlAccess

/-- What identifies an open connection to an engine. -/
structure Handle where
  number : Nat
  deriving DecidableEq, Repr

/-- What an engine answers to a statement. -/
structure ResultSet where
  columns : List String := []
  /-- The rows, with one cell for each column. -/
  rows : List (List Value) := []
  /-- The number of changed rows; negative where counting makes no sense. -/
  changes : Int := -1
  /-- The number of the row that was last inserted on the connection. -/
  lastRow : Option Int := none
  deriving Repr

/-- An outside world `ω` with an engine in it. -/
class Engine (ω : Type) where
  /-- Connects to the file at a path; a locked file is waited for as many seconds
  as the timeout says. -/
  connect (path : String) (timeout : Floating) : ω → Except Fault Handle × ω
  /-- Runs a statement on a connection. -/
  execute (handle : Handle) (statement : Statement) : ω → Except Fault ResultSet × ω
  close (handle : Handle) : ω → Except Fault Unit × ω
  /-- Whether a connection is in a transaction. -/
  inTransaction (handle : Handle) : ω → Bool

end SqlAccess
