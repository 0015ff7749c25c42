import SqlAccess.Entity.Finding

/-!
# Saving instances

Instances are created and updated from records, and each time the row is read
back, so that what the engine has filled in is there.  The primary key says
which row is meant and is never itself assigned by an update.
-/

namespace SqlAccess

namespace Entity

variable {ω : Type} [Engine ω]

/-- The condition that the primary key has a given value. -/
def keyClause (entity : Entity) : String :=
  s!"{entity.primaryKey} = ?"

/-- The values that items give the primary key. -/
def keys (entity : Entity) (items : List (String × Value)) : List Value :=
  (items.filter fun item => item.1 == entity.primaryKey).map Prod.snd

/-- The items that do not concern the primary key. -/
def nonKeys (entity : Entity) (items : List (String × Value)) : List (String × Value) :=
  items.filter fun item => item.1 != entity.primaryKey

/-- Inserts a record; gives the instance of its row.  A record that says nothing
of the primary key is found by the number of its row. -/
def create (entity : Entity) (record : Record) : Action ω (Option Instance) := do
  let database ← entity.bound
  let statement ← Statement.insert entity.table record
  match (← database.execute statement).insertId with
  | none => return none
  | some row => entity.find ((entity.keys (← record.items)).headD (.int row))

/-- Updates the row of a record's primary key; gives its instance. -/
def update (entity : Entity) (record : Record) : Action ω (Option Instance) := do
  let items ← record.items
  match entity.keys items with
  | [] => throw (.missingKey (.text entity.primaryKey))
  | key :: _ =>
    match entity.nonKeys items with
    | [] => entity.find key
    | fields =>
      let database ← entity.bound
      let _ ← database.execute (.assignment entity.table fields (some entity.keyClause) [key])
      entity.find key

/-- Deletes the row of a primary key; gives the number of deleted rows. -/
def destroy (entity : Entity) (key : Value) : Action ω Nat := do
  let database ← entity.bound
  let statement := .removal entity.table (some entity.keyClause) [key]
  return (← database.execute statement).rowsAffected

/-- Deletes all rows; gives their number. -/
def destroyAll (entity : Entity) : Action ω Nat := do
  let database ← entity.bound
  return (← database.execute (.removal entity.table none [])).rowsAffected

/-- Stores an instance, by an insertion if its primary key is not set and by an
update if it is.  Gives the instance that was read back, and the saved instance
with the fields of that one. -/
def save (entity : Entity) (item : Instance) :
    Action ω (Option Instance × Instance) := do
  item.checkCall "save"
  let record ← item.record
  let isNew := (record.get? entity.primaryKey).all Value.isNull
  let stored ←
    if isNew then entity.create (.row (record.erase entity.primaryKey))
    else entity.update (.row record)
  match stored with
  | none => return (none, item)
  | some other =>
    let fields := item.fields.putAll (← other.record).entries
    return (stored, { item with fields })

/-- What an instance has under a name: a field, or else what its entity says of
the table and of the primary key; under one name there are all of its fields. -/
def valueOf (entity : Entity) (item : Instance) (name : String) : Value :=
  match name, item.fields.get? name with
  | "__dict__", _ => .object item.fields.entries
  | "__weakref__", _ => .null
  | _, some value => value
  | "table_name", none => .text entity.table
  | "primary_key", none => .text entity.primaryKey
  | _, none => .null

/-- Deletes the row of an instance; gives the number of deleted rows. -/
def destroyInstance (entity : Entity) (item : Instance) : Action ω Nat := do
  item.checkCall "destroy_instance"
  entity.destroy (entity.valueOf item entity.primaryKey)

end Entity

end SqlAccess
