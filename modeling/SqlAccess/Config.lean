import SqlAccess.Validation.Reader
import SqlAccess.Fault
import SqlAccess.Text.Blank

/-!
# Configuration

Where databases lie and which settings are applied when one is opened.  A
configuration is read from a loosely typed description (`Config.reader`) or
from environment variables (`Config.ofEnvironment`).
-/

namespace SqlAccess

/-- How the engine keeps its journal. -/
inductive JournalMode where
  | delete
  | truncate
  | persist
  | memory
  | wal
  | off
  deriving DecidableEq, Repr

/-- The keyword of a journal mode. -/
def JournalMode.keyword : JournalMode → String
  | delete => "DELETE"
  | truncate => "TRUNCATE"
  | persist => "PERSIST"
  | memory => "MEMORY"
  | wal => "WAL"
  | off => "OFF"

/-- The journal mode of a keyword. -/
def JournalMode.ofText? (text : String) : Option JournalMode :=
  [delete, truncate, persist, memory, wal, off].find? fun mode => mode.keyword == text

/-- A configuration. -/
structure Config where
  /-- The directory of the database files. -/
  directory : Option Path := none
  foreignKeys : Bool := true
  /-- The journal mode, if it is not left to the engine. -/
  journalMode : Option JournalMode := none
  /-- How many seconds the engine waits for a locked file. -/
  timeout : Floating := .nearest 5
  deriving DecidableEq, Repr

namespace Config

/-- The name of the database that is kept in memory. -/
def memoryDatabase : String := ":memory:"

/-- The path of the database of a name. -/
def resolve (config : Config) (name : String) : String :=
  match config.directory with
  | none => name
  | some directory =>
    if name = memoryDatabase then name else (directory.join (.ofText name)).toText

/-! ## Reading a description -/

open Reader Fields

/-- Reads a configuration. -/
def reader : Reader Config :=
  .object ["directory", "foreign_keys", "journal_mode", "timeout"] fun fields =>
    Config.mk <$> withDefault fields "directory" none (optional path)
      <*> withDefault fields "foreign_keys" true flag
      <*> withDefault fields "journal_mode" none (optional (word JournalMode.ofText?))
      <*> withDefault fields "timeout" (.nearest 5) nonNegative

/-! ## Reading the environment -/

/-- What the names of the variables start with, unless something else is asked
for. -/
def defaultStem : String := "SQLITEMANAGER_"

/-- The truth value that a variable holds. -/
def variableFlag (key content : String) : Except Fault Bool :=
  let word := Text.smalls (Text.trim content)
  if word ∈ ["1", "true", "yes", "on"] then .ok true
  else if word ∈ ["0", "false", "no", "off"] then .ok false
  else .error (.notFlag key content)

/-- The configuration that environment variables describe.  A variable that is
not set keeps its default, and so do an empty directory and an empty journal
mode. -/
def ofEnvironment (stem : String) (environment : List (String × String)) : Except Fault Config := do
  let get := fun name => environment.lookup (stem ++ name)
  let nonEmpty := fun name => (get name).filter (· ≠ "")
  let directory := (nonEmpty "DIRECTORY").map fun content => ("directory", Value.text content)
  let foreignKeys ← (get "FOREIGN_KEYS").mapM fun content => do
    let enforced ← variableFlag (stem ++ "FOREIGN_KEYS") content
    return ("foreign_keys", Value.bool enforced)
  let journalMode := (nonEmpty "JOURNAL_MODE").map fun content =>
    ("journal_mode", Value.text (Text.capitals content))
  let timeout := (get "TIMEOUT").map fun content => ("timeout", Value.text content)
  let fields := [directory, foreignKeys, journalMode, timeout].filterMap id
  match reader (.object fields) with
  | .valid config => return config
  | .invalid issues => throw (.invalidEnvironment issues)

end Config

end SqlAccess
