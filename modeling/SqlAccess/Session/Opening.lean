import SqlAccess.Session
import SqlAccess.Statement.Control

/-!
# Opening and closing connections

A connection is opened when it is first needed.  Opening it means to connect,
and then to run the setup statements: the settings of the configuration, and
the creation of the table of the row marker.  Only a connection whose setup
succeeded gets the handle; otherwise the handle is closed again.
-/

namespace SqlAccess

/-- The statements that set a new connection up. -/
def Config.setup (config : Config) : List Statement :=
  let enforcement := if config.foreignKeys then "ON" else "OFF"
  [⟨s!"PRAGMA foreign_keys = {enforcement}", []⟩]
    ++ (config.journalMode.map fun mode => ⟨s!"PRAGMA journal_mode = {mode.keyword}", []⟩).toList
    ++ [Statement.markTableCreation]

namespace Action

variable {ω : Type} [Engine ω]

/-- Runs statements whose results do not matter. -/
def executeEach (handle : Handle) : List Statement → Action ω Unit
  | [] => pure ()
  | statement :: statements => do
    let _ ← execute handle statement
    executeEach handle statements

/-- Connects to the file at a path and sets the connection up.  A handle whose
setup fails is closed again. -/
def openHandle (config : Config) (path : String) : Action ω Handle := do
  let handle ← connect path config.timeout
  (executeEach handle config.setup).cleaning (close handle)
  return handle

/-- What a fault means for the opening of a database. -/
def openingFault (database : String) (fault : Fault) : Fault :=
  if fault.preventsOpening then .openFailed database fault else fault

/-- The handle of the database of a name, which is registered and opened if
need be. -/
def opened (database : String) : Action ω Handle := do
  let connection ← connection database
  match connection.handle with
  | some handle => return handle
  | none =>
    let handle ← (openHandle (← registry).config connection.path).converting
      (openingFault database)
    modifyRegistry fun registry => registry.setHandle database (some handle)
    return handle

/-- Closes the connection of a name, if it is open.  The connection loses its
handle even if the engine fails to close it. -/
def closed (database : String) : Action ω Unit := do
  match ((← registry).find? database).bind Connection.handle with
  | none => return ()
  | some handle =>
    modifyRegistry fun registry => registry.setHandle database none
    close handle

/-- Closes the connections of names, one after the other, up to the first one
that the engine fails to close. -/
def closedEach : List String → Action ω Unit
  | [] => pure ()
  | database :: databases => do
    closed database
    closedEach databases

/-- Closes all connections in the order of their registration. -/
def closedAll : Action ω Unit := do
  closedEach (← registry).names

end Action

end SqlAccess
