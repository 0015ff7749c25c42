import SqlAccess.Table
import SqlAccess.Value.Conversion
import SqlAccess.Text.Literal
import SqlAccess.Text.Listing

/-!
# Definitions

The SQL text that creates a table with its indexes, and the texts that change
or drop it.  Default values are the only constants that are ever written into a
text; all other values are parameters of statements.
-/

namespace SqlAccess

open SqlAccess.Text (listing literal)

/-- The literal of a default value: truth values are one and zero, numbers are
written as they are, and everything else becomes a string literal.  There is none of a
number that is not finite, or of what cannot be written. -/
def Value.defaultLiteral (value : Value) : Except Fault String :=
  match value with
  | bool flag => .ok (if flag then "1" else "0")
  | int number => do
    value.checkWritable
    return toString number
  | real number => if number.isFinite then .ok number.display else .error (.noLiteral number)
  | _ => do
    value.checkWritable
    return literal value.display

namespace Column

/-- The default of a column behind its keyword. -/
def defaultParts (column : Column) : Except Fault (List String) :=
  if column.default.isNull then .ok []
  else do
    let text ← column.default.defaultLiteral
    return [s!"DEFAULT {text}"]

/-- The definition of a column. -/
def definition (column : Column) : Except Fault String := do
  let default ← column.defaultParts
  return " ".intercalate ([column.name, column.type]
    ++ (if column.primaryKey then ["PRIMARY KEY"] else [])
    ++ (if column.autoIncrement then ["AUTOINCREMENT"] else [])
    ++ [if column.nullable then "NULL" else "NOT NULL"]
    ++ default)

/-- The text that adds a column to a table. -/
def addition (table : String) (column : Column) : Except Fault String := do
  let definition ← column.definition
  return s!"ALTER TABLE {table} ADD COLUMN {definition}"

end Column

namespace Index

/-- The text that creates an index. -/
def creation (index : Index) : Except Fault String :=
  if index.columns.isEmpty then .error (.indexWithoutColumns index.name index.table)
  else
    let unique := if index.unique then "UNIQUE " else ""
    let columns := listing index.columns
    .ok s!"CREATE {unique}INDEX IF NOT EXISTS {index.name} ON {index.table} ({columns})"

/-- The text that drops the index of a name. -/
def removal (name : String) : String :=
  s!"DROP INDEX IF EXISTS {name}"

end Index

/-- The definition of a foreign key. -/
def ForeignKey.definition (key : ForeignKey) : Except Fault String :=
  match key.table with
  | none => .error .incompleteForeignKey
  | some table =>
    if key.columns.isEmpty ∨ key.references.isEmpty then .error .incompleteForeignKey
    else
      let action := match key.onDelete with
        | some action => s!" ON DELETE {action}"
        | none => ""
      let columns := listing key.columns
      let references := listing key.references
      .ok s!"FOREIGN KEY ({columns}) REFERENCES {table} ({references}){action}"

namespace Table

/-- The text that creates a table, without its indexes. -/
def creation (table : Table) : Except Fault String := do
  if table.columns.isEmpty then throw (.tableWithoutColumns table.name)
  let columns ← table.columns.mapM Column.definition
  let foreignKeys ← table.foreignKeys.mapM ForeignKey.definition
  return s!"CREATE TABLE IF NOT EXISTS {table.name} ({listing (columns ++ foreignKeys)})"

/-- The statements that create a table and then its indexes. -/
def creationStatements (table : Table) : Except Fault (List Statement) := do
  let creation ← table.creation
  let indexes ← table.indexes.mapM Index.creation
  return (creation :: indexes).map fun sql => ⟨sql, []⟩

/-- The text that drops the table of a name. -/
def removal (name : String) : String :=
  s!"DROP TABLE IF EXISTS {name}"

end Table

end SqlAccess
