import SqlAccess.Database
import SqlAccess.Migration.State
import SqlAccess.Row.Lookup
import SqlAccess.Value.Conversion

/-!
# Migrations

A migration brings a database to a target version by running hooks.  The
version is stored in the database itself.  It is read once at the start, and it
is written once, after the hooks that create or update the schema and before
the last hook.  A hook that fails ends the migration, so a failure before the
version is written leaves the database in the state it was in.
-/

namespace SqlAccess

/-- The versions between which a migration runs. -/
structure Versions where
  /-- The version that was stored at the start. -/
  stored : Int
  target : Value

/-- The versions as a hook gets them. -/
def Hook.arguments (hook : Hook) (versions : Versions) : List Value :=
  if hook.isVersioned then [.int versions.stored, versions.target] else []

/-- A migration: what each hook does. -/
structure Migration (ω : Type) where
  run : Hook → Versions → Action ω Unit

namespace Migration

variable {ω : Type}

/-- The migration with the given hooks.  It has to have one that creates the
schema; a hook that it does not have does nothing. -/
def ofHooks (hooks : Hook → Option (Versions → Action ω Unit)) : Except Fault (Migration ω) :=
  if (hooks .onCreate).isNone then .error (.mistake .incompleteMigration)
  else .ok ⟨fun hook versions =>
    match hooks hook with
    | some run => run versions
    | none => pure ()⟩

/-- What a fault means for the migration whose hook it ended. -/
def hookFault (hook : Hook) (versions : Versions) (fault : Fault) : Fault :=
  if fault.isMigrationFailure then fault
  else .hookFailed hook versions.stored versions.target fault

/-- Runs hooks, one after the other. -/
def runHooks (migration : Migration ω) (versions : Versions) : List Hook → Action ω Unit
  | [] => pure ()
  | hook :: hooks => do
    (migration.run hook versions).converting (hookFault hook versions)
    migration.runHooks versions hooks

end Migration

namespace Database

variable {ω : Type} [Engine ω]

/-- The question for the stored version. -/
def versionQuestion : Statement := ⟨"PRAGMA user_version", []⟩

/-- The statement that stores a version. -/
def versionUpdate (version : Int) : Statement := ⟨s!"PRAGMA user_version = {version}", []⟩

/-- The version that an answer tells; no answer and no version count as zero. -/
def versionOf (row : Option Row) : Except Fault Int :=
  match row.bind fun row => row.get? "user_version" with
  | some value => if value.truth then value.toInteger else .ok 0
  | none => .ok 0

/-- The stored version. -/
def version (database : Database) : Action ω Int := do
  versionOf (← database.execute versionQuestion).first?

/-- Stores a version, which must not have too many digits to be written. -/
def setVersion (database : Database) (version : Value) : Action ω Unit := do
  let number ← version.toInteger
  (Value.int number).checkWritable
  let _ ← database.execute (versionUpdate number)

/-- Checks that a target version is not too low; the fault that says so has the
version in its wording. -/
def checkTarget (target : Value) : Except Fault Unit := do
  if ← target.lessThan 1 then
    target.checkWritable
    throw (.versionTooLow target)

/-- Migrates the database to a version; gives the state it was in before. -/
def migrate (database : Database) (migration : Migration ω) (target : Value) :
    Action ω SchemaState := do
  checkTarget target
  let _ ← database.connection
  let stored ← database.version
  let state := SchemaState.classify (.int stored) target
  let versions := ⟨stored, target⟩
  migration.runHooks versions (.beforeMigration :: state.hooks)
  database.setVersion target
  migration.runHooks versions [.afterMigration]
  return state

end Database

end SqlAccess
