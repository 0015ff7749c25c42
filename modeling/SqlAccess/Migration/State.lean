import SqlAccess.Migration.Hook
import SqlAccess.Value.Equality

/-!
# States of a schema

How the version that a database has stored relates to the version it is
migrated to.  A database that has stored no version counts as version zero.
-/

namespace SqlAccess

/-- The state of a schema. -/
inductive SchemaState where
  /-- There is no schema yet. -/
  | uninitialized
  /-- The schema has the version asked for. -/
  | current
  /-- The schema has another version. -/
  | stale
  deriving DecidableEq, Repr

namespace SchemaState

/-- The name of a state. -/
def name : SchemaState → String
  | uninitialized => "uninitialized"
  | current => "current"
  | stale => "stale"

/-- The state of a schema with a stored version, as against a target version. -/
def classify (stored target : Value) : SchemaState :=
  if stored.same (.int 0) then uninitialized
  else if stored.same target then current
  else stale

/-- The hooks that bring a schema in this state to the target version, in
order. -/
def hooks : SchemaState → List Hook
  | uninitialized => [.onCreate, .onPostCreate]
  | current => []
  | stale => [.onUpdate, .onPostUpdate]

end SchemaState

end SqlAccess
