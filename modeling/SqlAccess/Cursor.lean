import SqlAccess.Database
import SqlAccess.Query.Refinement
import SqlAccess.Statement.Select
import SqlAccess.Statement.Write

/-!
# Cursors

A cursor is a query against a table of a database, together with the form in
which its rows are wanted.  It is a value: refining it gives another cursor,
and running it any number of times changes nothing about it.

The condition of a cursor also says which rows are updated or deleted.
-/

namespace SqlAccess

/-- A cursor whose rows have the form `α`. -/
structure Cursor (α : Type) where
  database : Database
  table : String
  query : Query := {}
  form : Row → Except Fault α

/-- The cursor for all rows of a table, as they are. -/
def Database.table (database : Database) (name : String) : Cursor Row where
  database := database
  table := name
  form := .ok

namespace Cursor

variable {α β ω : Type}

/-- The cursor with another form of its rows. -/
def withForm (cursor : Cursor α) (form : Row → Except Fault β) : Cursor β :=
  { database := cursor.database, table := cursor.table, query := cursor.query, form }

/-- Refines the query of a cursor. -/
def refineAll (cursor : Cursor α) (steps : List Refinement) : Except Fault (Cursor α) := do
  return { cursor with query := ← cursor.query.refineAll steps }

/-- The statement that gives the rows. -/
def statement (cursor : Cursor α) : Except Fault Statement :=
  Statement.select cursor.table cursor.query

/-- The text that describes a cursor. -/
def describe (cursor : Cursor α) : Except Fault String := do
  let statement ← cursor.statement
  return s!"QueryCursor(table={Text.quoted cursor.table}, sql={Text.quoted statement.sql})"

/-- The text of the condition on rows. -/
def clause (cursor : Cursor α) : Option String :=
  cursor.query.filter.map Condition.clause

/-- The arguments of the condition on rows. -/
def args (cursor : Cursor α) : List Value :=
  (cursor.query.filter.map Condition.args).getD []

/-- The cursor for the first row.  A cursor with a page keeps it, since the
first row of the page is asked for. -/
def forFirst (cursor : Cursor α) : Cursor α :=
  if cursor.query.offset.isSome then cursor
  else { cursor with query := { cursor.query with limit := some ⟨1, by decide⟩ } }

/-- The rows in their form. -/
def forms (cursor : Cursor α) (rows : List Row) : Except Fault (List α) :=
  rows.mapM cursor.form

section

variable [Engine ω]

/-- The rows. -/
def get (cursor : Cursor α) : Action ω (List α) := do
  let statement ← cursor.statement
  cursor.forms (← cursor.database.rows statement)

/-- The first row, if there is one. -/
def first (cursor : Cursor α) : Action ω (Option α) := do
  return (← cursor.forFirst.get).head?

/-- Inserts a record; gives the number of its row. -/
def insert (cursor : Cursor α) (record : Record) : Action ω (Option Int) := do
  let statement ← Statement.insert cursor.table record
  return (← cursor.database.execute statement).insertId

/-- Inserts rows of the given fields. -/
def insertMany (cursor : Cursor α) (fields rows : Value) : Action ω Outcome := do
  let statement ← Statement.insertMany cursor.table fields rows
  cursor.database.execute statement

/-- Updates the rows that satisfy the condition; gives their number. -/
def update (cursor : Cursor α) (record : Record) : Action ω Nat := do
  let clause := (cursor.clause.map Value.text).getD .null
  let statement ← Statement.update cursor.table record clause (.list cursor.args)
  return (← cursor.database.execute statement).rowsAffected

/-- Deletes the rows that satisfy the condition; gives their number. -/
def delete (cursor : Cursor α) : Action ω Nat := do
  return (← cursor.database.execute (.removal cursor.table cursor.clause cursor.args)).rowsAffected

end

end Cursor

end SqlAccess
