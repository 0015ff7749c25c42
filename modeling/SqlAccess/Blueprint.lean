import SqlAccess.Blueprint.ColumnType

/-!
# Blueprints

A blueprint is the description of a set of tables as an object mapping has it.
Its columns have a key beside their name, and a table's keys and indexes, as
well as the foreign keys of other tables, speak of columns by key.  Much may be
left unstated: the key, whether a column may hold the absent value, the name of
an index.
-/

namespace SqlAccess.Blueprint

/-! ## Columns -/

/-- What is said about a column's absent values. -/
inductive Nullability where
  /-- Nothing: they are allowed unless the column is in the primary key. -/
  | unstated
  /-- That nothing is known: they are allowed. -/
  | unknown
  /-- Whether they are allowed. -/
  | stated (allowed : Bool)
  deriving DecidableEq, Repr

/-- A default value. -/
inductive Default where
  /-- None. -/
  | none
  /-- A constant. -/
  | constant (value : Value)
  /-- One that is computed, for which there is no literal. -/
  | computed

/-- What a foreign key refers to: a table, and the key of a column in it. -/
structure Target where
  table : String
  /-- The key of the column; unstated, it is the name of the column that refers. -/
  column : Option String
  deriving DecidableEq, Repr

/-- A column. -/
structure Column where
  name : String
  /-- The key, if it is not the name. -/
  key? : Option String := none
  type : ColumnType
  /-- Whether the column is in the primary key. -/
  primaryKey : Bool := false
  /-- What is said about absent values. -/
  nullability : Nullability := .unstated
  /-- The default that the client computes. -/
  default : Default := .none
  /-- The default that the engine fills in. -/
  engineDefault : Default := .none
  /-- Whether the column has an index of its own. -/
  indexed : Bool := false
  /-- Whether that index refuses equal keys. -/
  unique : Bool := false
  /-- The column it refers to by itself. -/
  target : Option Target := none
  /-- What happens when the row referred to is deleted. -/
  onDelete : Option String := none

/-- The key of a column. -/
def Column.key (column : Column) : String :=
  column.key?.getD column.name

/-- Whether a column may hold the absent value. -/
def Column.isNullable (column : Column) : Bool :=
  match column.nullability with
  | .unstated => !column.primaryKey
  | .unknown => true
  | .stated allowed => allowed

/-- The constant that stands for a column's default; the absent value stands
for none.  The client's constant goes before the engine's, of which only a text
counts. -/
def Column.constantDefault (column : Column) : Value :=
  match column.default, column.engineDefault with
  | .constant value, _ => value
  | _, .constant (.text content) => .text content
  | _, _ => .null

/-! ## Tables -/

/-- A foreign key. -/
structure ForeignKey where
  /-- The keys of the columns that refer. -/
  columns : List String
  /-- What they refer to, in the same order. -/
  targets : List Target
  /-- What happens when the row referred to is deleted. -/
  onDelete : Option String := none
  deriving DecidableEq, Repr

/-- An index. -/
structure Index where
  /-- The name, if it is stated. -/
  name : Option String
  /-- The keys of the indexed columns. -/
  columns : List String
  unique : Bool := false
  deriving DecidableEq, Repr

/-- A table. -/
structure Table where
  name : String
  columns : List Column
  /-- Whether a primary key of one column is counted up. -/
  autoIncrement : Bool := false
  /-- The foreign keys that are stated for the table. -/
  foreignKeys : List ForeignKey := []
  /-- The indexes that are stated for the table. -/
  indexes : List Index := []

namespace Table

/-- The column of a key. -/
def column? (table : Table) (key : String) : Option Column :=
  table.columns.find? fun column => column.key == key

/-- All foreign keys: those of single columns, then those of the table.  One
over no columns says nothing and is left out. -/
def allForeignKeys (table : Table) : List ForeignKey :=
  table.columns.filterMap (fun column => column.target.map fun target =>
    { columns := [column.key], targets := [target], onDelete := column.onDelete })
    ++ table.foreignKeys.filter fun key => !key.columns.isEmpty

/-- All indexes: those of single columns, then those of the table. -/
def allIndexes (table : Table) : List Index :=
  (table.columns.filter Column.indexed).map (fun column =>
    { name := none, columns := [column.key], unique := column.unique })
    ++ table.indexes

/-- The name of an index; unstated, it is made from the names of the table and
of the first column, if there is one. -/
def indexName (table : Table) (index : Index) : String :=
  let first := (index.columns.head?.bind table.column?).map Column.name
  index.name.getD ("ix_" ++ (first.map fun name => s!"{table.name}_{name}").getD "")

/-- Whether nothing is said of a table but its name. -/
def isBare (table : Table) : Bool :=
  table.columns.isEmpty && table.foreignKeys.isEmpty && table.indexes.isEmpty

/-- The columns of the primary key. -/
def primaryKey (table : Table) : List Column :=
  table.columns.filter Column.primaryKey

end Table

/-- The table of a name. -/
def table? (tables : List Table) (name : String) : Option Table :=
  tables.find? fun table => table.name == name

/-- Reads a target: the part after the last point is the column. -/
def Target.ofText (text : String) : Target :=
  let reversed := text.toList.reverse
  match reversed.span (· ≠ '.') with
  | (_, []) => ⟨text, none⟩
  | (column, _ :: table) =>
    ⟨String.ofList table.reverse, some (String.ofList column.reverse)⟩

example : Target.ofText "main.t.id" = ⟨"main.t", some "id"⟩ := by decide

end SqlAccess.Blueprint
