import SqlAccess.Validation.Reader

/-!
# Tables

A declared table: its columns, its foreign keys and its indexes, each in the
order of declaration.  `Table.reader` reads one from a loosely typed
description.
-/

namespace SqlAccess

/-- A column. -/
structure Column where
  name : String
  type : String
  /-- Whether the column by itself is the primary key. -/
  primaryKey : Bool := false
  /-- Whether the engine counts the column up. -/
  autoIncrement : Bool := false
  /-- Whether the column may hold the absent value. -/
  nullable : Bool := false
  /-- The constant default; the absent value stands for none. -/
  default : Value := .null
  deriving Repr

/-- An index. -/
structure Index where
  name : String
  table : String
  unique : Bool := false
  columns : List String := []
  deriving DecidableEq, Repr

/-- A foreign key. -/
structure ForeignKey where
  columns : List String := []
  table : Option String := none
  /-- The columns they refer to, in the same order. -/
  references : List String := []
  /-- What happens when the row referred to is deleted. -/
  onDelete : Option String := none
  deriving DecidableEq, Repr

/-- A table. -/
structure Table where
  name : String
  columns : List Column := []
  foreignKeys : List ForeignKey := []
  indexes : List Index := []
  deriving Repr

namespace Table

/-- The names of the columns. -/
def columnNames (table : Table) : List String :=
  table.columns.map Column.name

/-- The first column of a name. -/
def column? (table : Table) (name : String) : Option Column :=
  table.columns.find? fun column => column.name == name

end Table

/-! ## Readers -/

open Reader Fields

/-- Reads a column. -/
def Column.reader : Reader Column :=
  .object ["name", "type", "primary_key", "auto_increment", "nullable", "default"] fun fields =>
    Column.mk <$> required fields "name" text <*> required fields "type" text
      <*> withDefault fields "primary_key" false flag
      <*> withDefault fields "auto_increment" false flag
      <*> withDefault fields "nullable" false flag
      <*> withDefault fields "default" .null anything

/-- Reads an index. -/
def Index.reader : Reader Index :=
  .object ["name", "table", "unique", "columns"] fun fields =>
    Index.mk <$> required fields "name" text <*> required fields "table" text
      <*> withDefault fields "unique" false flag
      <*> withDefault fields "columns" [] (list text)

/-- Reads a foreign key. -/
def ForeignKey.reader : Reader ForeignKey :=
  .object ["columns", "table", "references", "on_delete"] fun fields =>
    ForeignKey.mk <$> withDefault fields "columns" [] (list text)
      <*> withDefault fields "table" none (optional text)
      <*> withDefault fields "references" [] (list text)
      <*> withDefault fields "on_delete" none (optional text)

/-- Reads a table. -/
def Table.reader : Reader Table :=
  .object ["name", "columns", "constraints", "indexes"] fun fields =>
    Table.mk <$> required fields "name" text
      <*> withDefault fields "columns" [] (list Column.reader)
      <*> withDefault fields "constraints" [] (list ForeignKey.reader)
      <*> withDefault fields "indexes" [] (list Index.reader)

end SqlAccess
