import SqlAccess.Row.Lookup
import SqlAccess.Validation.Refusal
import SqlAccess.Validation.Reader
import SqlAccess.Value.Order
import SqlAccess.Sorting.Comparing

/-!
# Catalog entries

What an engine tells about the columns, the foreign keys and the indexes of a
table, read from the rows in which it tells it.  A row that lacks a name is a
fault, and so is a value that is not of the kind of its field.
-/

namespace SqlAccess

open Reader Fields

/-! ## Columns -/

/-- What is known of a column. -/
structure ColumnInfo where
  name : String
  type : String
  /-- Whether the column may hold the absent value. -/
  nullable : Bool := true
  /-- The text of the default expression. -/
  default : Option String := none
  /-- The position in the primary key, counted from one; zero outside of it. -/
  keyPosition : Int := 0
  deriving DecidableEq, Repr

/-- Reads what is known of a column. -/
def ColumnInfo.reader : Reader ColumnInfo :=
  .object ["name", "type", "nullable", "default", "primary_key"] fun fields =>
    ColumnInfo.mk <$> required fields "name" text <*> required fields "type" text
      <*> withDefault fields "nullable" true flag
      <*> withDefault fields "default" none (optional text)
      <*> withDefault fields "primary_key" 0 integer

/-- The column that a row of the engine's list tells of.  A missing type is the
empty one. -/
def ColumnInfo.ofRow (row : Row) : Except Fault ColumnInfo := do
  let name ← row.lookup "name"
  let type ← row.lookup "type"
  let notNull ← row.lookup "notnull"
  let default ← row.lookup "dflt_value"
  let keyPosition ← row.lookup "pk"
  (reader (.object [("name", name), ("type", if type.truth then type else .text ""),
    ("nullable", .bool !notNull.truth), ("default", default),
    ("primary_key", keyPosition)])).toExcept

/-- The columns that the rows of the engine's list tell of. -/
def ColumnInfo.ofRows (rows : List Row) : Except Fault (List ColumnInfo) :=
  rows.mapM ofRow

/-! ## Foreign keys -/

/-- What is known of one column of a foreign key. -/
structure ForeignKeyInfo where
  /-- The number of the foreign key, common to all its columns. -/
  id : Int := 0
  /-- The position of the column in the foreign key. -/
  position : Int := 0
  table : String
  fromColumn : String
  /-- The column referred to; without one it is the primary key. -/
  toColumn : Option String := none
  /-- What happens when the row referred to is updated. -/
  onUpdate : String := "NO ACTION"
  /-- What happens when the row referred to is deleted. -/
  onDelete : String := "NO ACTION"
  deriving DecidableEq, Repr

/-- Reads what is known of one column of a foreign key. -/
def ForeignKeyInfo.reader : Reader ForeignKeyInfo :=
  .object ["id", "seq", "table", "from_column", "to_column", "on_update", "on_delete"] fun fields =>
    ForeignKeyInfo.mk <$> withDefault fields "id" 0 integer
      <*> withDefault fields "seq" 0 integer
      <*> required fields "table" text
      <*> required fields "from_column" text
      <*> withDefault fields "to_column" none (optional text)
      <*> withDefault fields "on_update" "NO ACTION" text
      <*> withDefault fields "on_delete" "NO ACTION" text

/-- The part of a foreign key that a row of the engine's list tells of. -/
def ForeignKeyInfo.ofRow (row : Row) : Except Fault ForeignKeyInfo := do
  let id ← row.lookup "id"
  let position ← row.lookup "seq"
  let table ← row.lookup "table"
  let fromColumn ← row.lookup "from"
  let toColumn ← row.lookup "to"
  let onUpdate ← row.lookup "on_update"
  let onDelete ← row.lookup "on_delete"
  (reader (.object [("id", id), ("seq", position), ("table", table), ("from_column", fromColumn),
    ("to_column", toColumn), ("on_update", onUpdate), ("on_delete", onDelete)])).toExcept

/-- The parts of foreign keys that the rows of the engine's list tell of. -/
def ForeignKeyInfo.ofRows (rows : List Row) : Except Fault (List ForeignKeyInfo) :=
  rows.mapM ofRow

/-! ## Indexes -/

/-- What is known of an index. -/
structure IndexInfo where
  name : String
  unique : Bool := false
  /-- Where the index comes from: `c` for a statement of its own, `u` for a
  uniqueness rule, `pk` for a primary key. -/
  origin : String := "c"
  columns : List String := []
  deriving DecidableEq, Repr

/-- Reads what is known of an index. -/
def IndexInfo.reader : Reader IndexInfo :=
  .object ["name", "unique", "origin", "columns"] fun fields =>
    IndexInfo.mk <$> required fields "name" text
      <*> withDefault fields "unique" false flag
      <*> withDefault fields "origin" "c" text
      <*> withDefault fields "columns" [] (list text)

/-- Rows in the ascending order of what they hold under a name; rows that hold
the same keep their order. -/
def Row.sortedBy (name : String) (rows : List Row) : Except Fault (List Row) := do
  let keys ← column name rows
  let sorted ← Sorting.sortedWith (fun x y => x.1.isBelow y.1) (keys.zip rows)
  return sorted.map Prod.snd

/-- The index that a row of the engine's list tells of, with the rows of its
details in any order. -/
def IndexInfo.ofRow (row : Row) (details : List Row) : Except Fault IndexInfo := do
  let name ← row.lookup "name"
  let unique ← row.lookup "unique"
  let origin ← row.lookup "origin"
  let columns ← Row.column "name" (← Row.sortedBy "seqno" details)
  (reader (.object [("name", name), ("unique", .bool unique.truth), ("origin", origin),
    ("columns", .list columns)])).toExcept

end SqlAccess
