import SqlAccess.Cursor
import SqlAccess.Value.Conversion
import SqlAccess.Value.Equality

/-!
# Entities

An entity stands for the rows of one table: it names the table and the column
that is its primary key, and it is bound to a database.  Its instances are
rows with the name of the entity; fields whose name starts with an underscore
belong to the instance alone and are not stored.
-/

namespace SqlAccess

/-- An entity. -/
structure Entity where
  name : String
  /-- The table; empty as long as none is set. -/
  table : String := ""
  /-- The column of the primary key. -/
  primaryKey : String := "id"
  /-- The database that the entity is bound to. -/
  database : Option Database := none
  deriving DecidableEq, Repr

/-- An instance of an entity. -/
structure Instance where
  entity : String
  fields : Row
  deriving Repr

namespace Instance

/-- Sees that what an instance can be asked for is not hidden by a field. -/
def checkCall (item : Instance) (call : String) : Except Fault Unit :=
  match item.fields.get? call with
  | some value => .error (.mistake (.notCallable value.kindName))
  | none => .ok ()

/-- The stored fields. -/
def storedFields (item : Instance) : Row :=
  item.fields.restrict fun name => !name.startsWith "_"

/-- The record of an instance: its stored fields. -/
def record (item : Instance) : Except Fault Row := do
  item.checkCall "to_record"
  return item.storedFields

/-- Sets a field.  Under one name all fields are set together, and two names are
reserved. -/
def set (item : Instance) (name : String) (value : Value) : Except Fault Instance :=
  match name, value with
  | "__dict__", .object entries => .ok { item with fields := .ofList entries }
  | "__dict__", _ => .error (.mistake (.notFields value.kindName))
  | "__class__", _ => .error (.mistake (.notEntity value.kindName))
  | "__weakref__", _ => .error (.readOnly name "Model")
  | _, _ => .ok { item with fields := item.fields.put name value }

/-- Whether two instances are of one entity and have equal stored fields. -/
def same (first second : Instance) : Except Fault Bool := do
  if first.entity ≠ second.entity then return false
  let firstRecord ← first.record
  let secondRecord ← second.record
  return Value.same (.object firstRecord.entries) (.object secondRecord.entries)

/-- The text that describes an instance. -/
def describe (item : Instance) : Except Fault String := do
  let fields ← (← item.record).entries.mapM fun field => do
    field.2.checkWritable
    return s!"{field.1}={field.2.quoted}"
  return s!"{item.entity}({Text.listing fields})"

end Instance

namespace Entity

/-- The instance with the given fields.  One name is not available for a field. -/
def instantiate (entity : Entity) (fields : Row) : Except Fault Instance :=
  if fields.names.contains "self" then
    .error (.mistake (.repeatedArgument "Model.__init__" "self"))
  else .ok { entity := entity.name, fields }

/-- The database of an entity that has a table. -/
def bound (entity : Entity) : Except Fault Database :=
  if entity.table = "" then .error (.noTable entity.name)
  else
    match entity.database with
    | some database => .ok database
    | none => .error (.unbound entity.name)

/-- The cursor for the instances. -/
def cursor (entity : Entity) (query : Query := {}) : Except Fault (Cursor Instance) := do
  let database ← entity.bound
  return { database, table := entity.table, query, form := entity.instantiate }

end Entity

end SqlAccess
