/-!
# Migration hooks

The points of a migration at which client code runs.
-/

namespace SqlAccess

/-- A point of a migration. -/
inductive Hook where
  /-- Before anything else. -/
  | beforeMigration
  /-- A database without a version gets its schema. -/
  | onCreate
  /-- After the schema was created. -/
  | onPostCreate
  /-- A database with another version gets its schema changed. -/
  | onUpdate
  /-- After the schema was changed. -/
  | onPostUpdate
  /-- After the new version was stored. -/
  | afterMigration
  deriving DecidableEq, Repr

/-- The name of a hook. -/
def Hook.name : Hook → String
  | beforeMigration => "before_migration"
  | onCreate => "on_create"
  | onPostCreate => "on_post_create"
  | onUpdate => "on_update"
  | onPostUpdate => "on_post_update"
  | afterMigration => "after_migration"

/-- The hook of a name. -/
def Hook.ofName? (name : String) : Option Hook :=
  [beforeMigration, onCreate, onPostCreate, onUpdate, onPostUpdate, afterMigration].find?
    fun hook => hook.name == name

/-- Whether a hook is told the stored and the target version. -/
def Hook.isVersioned : Hook → Bool
  | onCreate | onPostCreate => false
  | _ => true

end SqlAccess
