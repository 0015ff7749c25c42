import SqlAccess.Table
import SqlAccess.Validation.Refusal

/-!
# Drafts

A table is declared step by step.  Each declaring step adds a part (a column, a
foreign key or an index), and later steps may change a part that is already
there.  What is given is not looked at until the draft is finished: only
`TableDraft.finish` checks that names are texts and so on.
-/

namespace SqlAccess

/-! ## Parts -/

/-- A column in the making. -/
structure ColumnDraft where
  name : Value
  type : Value
  /-- Whether the column was made the primary key. -/
  primaryKey : Bool := false
  /-- Whether the column is counted up. -/
  autoIncrement : Bool := false
  /-- Whether the column may hold the absent value. -/
  nullable : Bool := false
  default : Value := .null

/-- A change of a column. -/
inductive ColumnChange where
  | primaryKey
  | autoIncrement
  | nullable
  | default (value : Value)

/-- Changes a column. -/
def ColumnDraft.change (draft : ColumnDraft) : ColumnChange → ColumnDraft
  | .primaryKey => { draft with primaryKey := true }
  | .autoIncrement => { draft with autoIncrement := true }
  | .nullable => { draft with nullable := true }
  | .default value => { draft with default := value }

/-- A foreign key in the making. -/
structure ForeignKeyDraft where
  columns : List Value := []
  table : Value := .null
  /-- The columns referred to given last. -/
  references : List Value := []
  onDelete : Value := .null

/-- A change of a foreign key. -/
inductive ForeignKeyChange where
  | columns (names : List Value)
  | table (name : Value)
  | references (names : List Value)
  | onDelete (action : Value)

/-- Changes a foreign key. -/
def ForeignKeyDraft.change (draft : ForeignKeyDraft) : ForeignKeyChange → ForeignKeyDraft
  | .columns names => { draft with columns := names }
  | .table name => { draft with table := name }
  | .references names => { draft with references := names }
  | .onDelete action => { draft with onDelete := action }

/-- An index in the making. -/
structure IndexDraft where
  name : Value
  /-- Whether it was ever declared unique. -/
  unique : Bool := false
  columns : List Value := []

/-- A change of an index. -/
inductive IndexChange where
  | columns (names : List Value)
  | unique (names : List Value)

/-- Changes an index.  Both changes replace the columns; the second one also
makes the index unique, and the first one leaves that as it was. -/
def IndexDraft.change (draft : IndexDraft) : IndexChange → IndexDraft
  | .columns names => { draft with columns := names }
  | .unique names => { draft with unique := true, columns := names }

/-! ## Drafts of tables -/

/-- A table in the making. -/
structure TableDraft where
  columns : List ColumnDraft := []
  foreignKeys : List ForeignKeyDraft := []
  indexes : List IndexDraft := []

/-- One step of a declaration. -/
inductive Declaration where
  /-- Adds a column and changes it at once. -/
  | column (name type : Value) (changes : List ColumnChange)
  /-- Adds a foreign key and changes it at once. -/
  | foreignKey (changes : List ForeignKeyChange)
  /-- Adds an index and changes it at once. -/
  | index (name : Value) (changes : List IndexChange)
  /-- Changes the column at a position. -/
  | changeColumn (position : Nat) (change : ColumnChange)
  /-- Changes the foreign key at a position. -/
  | changeForeignKey (position : Nat) (change : ForeignKeyChange)
  /-- Changes the index at a position. -/
  | changeIndex (position : Nat) (change : IndexChange)
  /-- Gives up. -/
  | fail (fault : Fault)

namespace Declaration

/-! ### Short forms -/

/-- Adds an integer column. -/
def integer (name : Value) : List ColumnChange → Declaration := column name (.text "INTEGER")

/-- Adds an integer column that is the primary key and counted up. -/
def increments (name : Value) (changes : List ColumnChange) : Declaration :=
  integer name ([.primaryKey, .autoIncrement] ++ changes)

/-- Adds a column of approximate numbers. -/
def float (name : Value) : List ColumnChange → Declaration := column name (.text "FLOAT")

/-- Adds a column of real numbers. -/
def real (name : Value) : List ColumnChange → Declaration := column name (.text "REAL")

/-- Adds a column of numbers. -/
def numeric (name : Value) : List ColumnChange → Declaration := column name (.text "NUMERIC")

/-- Adds a column of texts. -/
def text (name : Value) : List ColumnChange → Declaration := column name (.text "TEXT")

/-- Adds a column of bytes. -/
def blob (name : Value) : List ColumnChange → Declaration := column name (.text "BLOB")

end Declaration

/-- Deletes the rows that refer to a deleted row. -/
def ForeignKeyChange.cascade : ForeignKeyChange := .onDelete (.text "CASCADE")

namespace TableDraft

/-- Takes one step. -/
def declare (draft : TableDraft) : Declaration → Except Fault TableDraft
  | .column name type changes =>
    let part := changes.foldl ColumnDraft.change { name, type }
    .ok { draft with columns := draft.columns ++ [part] }
  | .foreignKey changes =>
    let part := changes.foldl ForeignKeyDraft.change {}
    .ok { draft with foreignKeys := draft.foreignKeys ++ [part] }
  | .index name changes =>
    let part := changes.foldl IndexDraft.change { name }
    .ok { draft with indexes := draft.indexes ++ [part] }
  | .changeColumn position change =>
    .ok { draft with columns := draft.columns.modify position (·.change change) }
  | .changeForeignKey position change =>
    .ok { draft with foreignKeys := draft.foreignKeys.modify position (·.change change) }
  | .changeIndex position change =>
    .ok { draft with indexes := draft.indexes.modify position (·.change change) }
  | .fail fault => .error fault

/-- Takes all steps, up to the first one that gives up. -/
def declareAll (draft : TableDraft) (steps : List Declaration) : Except Fault TableDraft :=
  steps.foldlM declare draft

end TableDraft

/-! ## Finishing -/

/-- Finishes a column. -/
def ColumnDraft.finish (draft : ColumnDraft) : Except Fault Column :=
  (Column.reader (.object [("name", draft.name), ("type", draft.type),
    ("primary_key", .bool draft.primaryKey), ("auto_increment", .bool draft.autoIncrement),
    ("nullable", .bool draft.nullable), ("default", draft.default)])).toExcept

/-- Finishes a foreign key. -/
def ForeignKeyDraft.finish (draft : ForeignKeyDraft) : Except Fault ForeignKey :=
  (ForeignKey.reader (.object [("columns", .list draft.columns), ("table", draft.table),
    ("references", .list draft.references), ("on_delete", draft.onDelete)])).toExcept

/-- Finishes an index of the table of a name. -/
def IndexDraft.finish (table : Value) (draft : IndexDraft) : Except Fault Index :=
  (Index.reader (.object [("name", draft.name), ("table", table),
    ("unique", .bool draft.unique), ("columns", .list draft.columns)])).toExcept

/-- Finishes a table: its columns first, then its foreign keys, then its
indexes, and its name last, up to the first part that has an issue. -/
def TableDraft.finish (name : Value) (draft : TableDraft) : Except Fault Table := do
  let columns ← draft.columns.mapM ColumnDraft.finish
  let foreignKeys ← draft.foreignKeys.mapM ForeignKeyDraft.finish
  let indexes ← draft.indexes.mapM (IndexDraft.finish name)
  let name ← ((Reader.text name).under "name").toExcept
  return { name, columns, foreignKeys, indexes }

/-- The table that a declaration describes. -/
def Table.declared (name : Value) (steps : List Declaration) : Except Fault Table := do
  let draft ← TableDraft.declareAll {} steps
  draft.finish name

end SqlAccess
