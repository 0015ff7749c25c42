import SqlAccess.Catalog
import SqlAccess.Table.Definition

/-!
# Changing the schema

A declared table is created with its indexes, or the table that is already
there is brought closer to the declaration: columns that it lacks are added,
and the declared indexes are created anew.  Nothing is ever removed or changed
otherwise.  All statements of one change are a single transaction.
-/

namespace SqlAccess

/-- The texts that drop an index and create it anew. -/
def Index.recreation (index : Index) : Except Fault (List String) := do
  let creation ← index.creation
  return [Index.removal index.name, creation]

/-- The statements that add columns to a table and create its indexes anew. -/
def Table.alterationStatements (table : Table) (missing : List Column) :
    Except Fault (List Statement) := do
  let additions ← missing.mapM (Column.addition table.name)
  let indexes ← table.indexes.mapM Index.recreation
  return (additions ++ indexes.flatten).map fun sql => ⟨sql, []⟩

namespace Database

variable {ω : Type} [Engine ω]

/-- Creates a table and its indexes, as far as they do not exist. -/
def create (database : Database) (table : Table) : Action ω Table := do
  let statements ← table.creationStatements
  let _ ← database.executeAll statements
  return table

/-- Adds the columns that a table lacks, and creates its indexes anew. -/
def alter (database : Database) (table : Table) : Action ω Table := do
  let missing ← database.missingColumns table
  let statements ← table.alterationStatements missing
  let _ ← database.executeAll statements
  return table

/-- Creates a table that does not exist, and alters one that does. -/
def createOrAlter (database : Database) (table : Table) : Action ω Table := do
  if ← database.hasTable table.name then database.alter table
  else database.create table

/-- Drops the table of a name, if there is one. -/
def drop (database : Database) (table : String) : Action ω Unit := do
  let _ ← database.execute ⟨Table.removal table, []⟩
  return ()

end Database

end SqlAccess
