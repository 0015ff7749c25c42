import SqlAccess.Catalog
import SqlAccess.Sorting
import SqlAccess.Table.Definition
import SqlAccess.Text.Blank

/-!
# Copying tables

The structure of a table is copied from what the engine tells about its
columns, foreign keys and indexes; the rows of a table are copied over the
columns that both tables have.
-/

namespace SqlAccess

open SqlAccess.Text (listing trimEnd)

/-! ## The structure of a copy -/

namespace ColumnInfo

/-- The names of the primary key's columns in the order of the key. -/
def keyNames (columns : List ColumnInfo) : List String :=
  ((sortedBy keyPosition columns).filter fun column => column.keyPosition ≠ 0).map name

/-- The definition of a column in a copy, where `keyAlone` tells whether the
primary key has a single column. -/
def copyDefinition (keyAlone : Bool) (column : ColumnInfo) : String :=
  let constraint := if column.nullable then "" else " NOT NULL"
  let default := match column.default with
    | some text => s!" DEFAULT {text}"
    | none => ""
  let key := if keyAlone ∧ column.keyPosition ≠ 0 then " PRIMARY KEY" else ""
  trimEnd s!"{column.name} {column.type}" ++ constraint ++ default ++ key

/-- The definitions of columns in a copy; a primary key of several columns
comes after them. -/
def copyDefinitions (columns : List ColumnInfo) : List String :=
  let keys := keyNames columns
  columns.map (copyDefinition (keys.length == 1))
    ++ if 1 < keys.length then [s!"PRIMARY KEY ({listing keys})"] else []

end ColumnInfo

namespace ForeignKeyInfo

/-- The definition in a copy of the foreign key that has the given columns. -/
def copyDefinition : List ForeignKeyInfo → Option String
  | [] => none
  | first :: others =>
    let parts := first :: others
    let fromColumns := listing (parts.map fromColumn)
    let toColumns := listing (parts.map fun part => part.toColumn.getD "")
    let actions := s!"ON DELETE {first.onDelete} ON UPDATE {first.onUpdate}"
    some s!"FOREIGN KEY ({fromColumns}) REFERENCES {first.table} ({toColumns}) {actions}"

/-- The definitions of foreign keys in a copy: the columns that share a number
make a foreign key, in the order of their positions. -/
def copyDefinitions (parts : List ForeignKeyInfo) : List String :=
  let sorted := sortedBy (fun part => [part.id, part.position]) parts
  (sorted.splitBy fun x y => x.id == y.id).filterMap copyDefinition

end ForeignKeyInfo

/-- The index of a copy; since the names of indexes are common to all tables,
the name of the copy is made part of it. -/
def IndexInfo.copy (target : String) (index : IndexInfo) : Index :=
  { name := s!"{index.name}_{target}"
    table := target
    unique := index.unique
    columns := index.columns }

/-- The statements that create a copy with the given columns, foreign keys and
indexes.  Of the indexes only those that come from a statement of their own are
copied. -/
def copyStatements (target : String) (columns : List ColumnInfo)
    (foreignKeys : List ForeignKeyInfo) (indexes : List IndexInfo) :
    Except Fault (List Statement) := do
  let definitions :=
    ColumnInfo.copyDefinitions columns ++ ForeignKeyInfo.copyDefinitions foreignKeys
  let creation := s!"CREATE TABLE IF NOT EXISTS {target} ({listing definitions})"
  let copies := (indexes.filter fun index => index.origin = "c").map (IndexInfo.copy target)
  let indexCreations ← copies.mapM Index.creation
  return (creation :: indexCreations).map fun sql => ⟨sql, []⟩

/-! ## The rows of a copy -/

/-- The names that are in both lists, in the order of the first one. -/
def commonNames (source target : List String) : List String :=
  source.filter target.contains

/-- The statement that copies all rows over the given columns. -/
def Statement.copyRows (source target : String) (columns : List String) : Statement :=
  let columns := listing columns
  ⟨s!"INSERT INTO {target} ({columns}) SELECT {columns} FROM {source}", []⟩

namespace Database

variable {ω : Type} [Engine ω]

/-- Creates a table with the structure of another one, and without rows. -/
def duplicate (database : Database) (source target : String) : Action ω Unit := do
  if !(← database.hasTable source) then throw (.noSource source)
  let columns ← database.columnInfos source
  let foreignKeys ← database.foreignKeyInfos source
  let indexes ← database.indexInfos source
  let statements ← copyStatements target columns foreignKeys indexes
  let _ ← database.executeAll statements

/-- Copies the rows of a table into another one, over the columns that both
have. -/
def copyRows (database : Database) (source target : String) : Action ω Outcome := do
  if !(← database.hasTable source) then throw (.noSource source)
  if !(← database.hasTable target) then throw (.noDestination target)
  let targetColumns ← database.columnNames target
  let sourceColumns ← database.columnNames source
  match commonNames sourceColumns targetColumns with
  | [] => throw (.nothingShared source target)
  | columns => database.execute (.copyRows source target columns)

end Database

end SqlAccess
