import SqlAccess.Database
import SqlAccess.Catalog.Info
import SqlAccess.Table
import SqlAccess.Value.Conversion

/-!
# Asking for the catalog

Which tables a database has and what they look like.  The engine is asked each
time, since the answers change while a migration runs, and each question is a
transaction of its own.
-/

namespace SqlAccess.Database

variable {ω : Type} [Engine ω]

/-- The question how many tables have a name. -/
def tableCount (table : String) : Statement :=
  ⟨"SELECT COUNT(*) AS _count_ FROM sqlite_master WHERE type = 'table' AND name = ?", [.text table]⟩

/-- The question for the names of all tables but the engine's own. -/
def tableList : Statement :=
  ⟨"SELECT name FROM sqlite_master WHERE type = 'table' AND name NOT LIKE 'sqlite_%' ORDER BY name",
    []⟩

/-- Whether there is a table of a name. -/
def hasTable (database : Database) (table : String) : Action ω Bool := do
  match ← database.rows (tableCount table) with
  | [] => return false
  | row :: _ => (← row.lookup "_count_").greaterThan 0

/-- The names of all tables. -/
def tableNames (database : Database) : Action ω (List Value) := do
  Row.column "name" (← database.rows tableList)

/-- The columns of a table; none, if there is no such table. -/
def columnInfos (database : Database) (table : String) : Action ω (List ColumnInfo) := do
  ColumnInfo.ofRows (← database.rows ⟨s!"PRAGMA table_info({table})", []⟩)

/-- The names of the columns of a table. -/
def columnNames (database : Database) (table : String) : Action ω (List String) := do
  return (← database.columnInfos table).map ColumnInfo.name

/-- The columns of the foreign keys of a table. -/
def foreignKeyInfos (database : Database) (table : String) : Action ω (List ForeignKeyInfo) := do
  ForeignKeyInfo.ofRows (← database.rows ⟨s!"PRAGMA foreign_key_list({table})", []⟩)

/-- The indexes that rows of the engine's list tell of; each of them is asked
for its details in turn. -/
def indexInfosOf (database : Database) : List Row → Action ω (List IndexInfo)
  | [] => pure []
  | row :: rows => do
    let name ← row.lookup "name"
    name.checkWritable
    let details ← database.rows ⟨s!"PRAGMA index_info({name.display})", []⟩
    let index ← IndexInfo.ofRow row details
    let indexes ← database.indexInfosOf rows
    return index :: indexes

/-- The indexes of a table. -/
def indexInfos (database : Database) (table : String) : Action ω (List IndexInfo) := do
  database.indexInfosOf (← database.rows ⟨s!"PRAGMA index_list({table})", []⟩)

/-- The declared columns that a table does not have yet. -/
def missingColumns (database : Database) (table : Table) : Action ω (List Column) := do
  let existing ← database.columnNames table.name
  return table.columns.filter fun column => !existing.contains column.name

end SqlAccess.Database
