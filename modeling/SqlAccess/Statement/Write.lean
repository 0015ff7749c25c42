import SqlAccess.Record
import SqlAccess.Text.Blank
import SqlAccess.Text.Listing

/-!
# Writing rows

Insertions, updates and deletions.  The columns of a record are written into
the text in the record's order, and its values become the parameters in that
same order; the arguments of a condition follow them.
-/

namespace SqlAccess

open SqlAccess.Text (listing isBlankText isBlankBytes placeholders)

/-- The text of a loosely typed condition.  Bytes stand in it in their quoted
form, unless they are blank; of other values only the absent one will do. -/
def Condition.clauseOf (value : Value) : Except Fault (Option String) :=
  match value with
  | .null => .ok none
  | .text clause => .ok (some clause)
  | .blob bytes => .ok (if isBlankBytes bytes then none else some value.display)
  | _ => .error (.unknownCall value.kindName "strip")

/-- The condition at the end of a statement; a blank one is left out. -/
def Condition.suffix : Option String → String
  | some clause => if isBlankText clause then "" else s!" WHERE {clause}"
  | none => ""

namespace Statement

/-- The insertion of rows whose values belong to the given columns. -/
def insertion (table : String) (columns : List String) (rows : List (List Value)) : Statement :=
  let group := s!"({placeholders columns.length})"
  let groups := listing (rows.map fun _ => group)
  ⟨s!"INSERT INTO {table} ({listing columns}) VALUES {groups};", rows.flatten⟩

/-- The insertion of one record. -/
def insert (table : String) (record : Record) : Except Fault Statement := do
  let items ← record.items
  if items.isEmpty then throw (.emptyRecord "INSERT" table)
  return insertion table (items.map Prod.fst) [items.map Prod.snd]

/-- The values of rows, each of which has to have as many as there are fields;
`position` is the position of the first row. -/
def rowsFrom (fields : Value) (position : Nat) : List Value → Except Fault (List (List Value))
  | [] => .ok []
  | row :: rows => do
    let cells ← row.sized
    let columns ← fields.sized
    if cells.length ≠ columns.length then
      throw (.rowLength position cells.length columns.length)
    let others ← rowsFrom fields (position + 1) rows
    return cells :: others

/-- The insertion of many rows of the given fields. -/
def insertMany (table : String) (fields rows : Value) : Except Fault Statement := do
  if !fields.truth then throw (.emptyFields table)
  if !rows.truth then throw (.emptyRows table)
  let cells ← rowsFrom fields 0 (← rows.sequence)
  let columns ← Value.listedFrom 0 (← fields.sequence)
  return insertion table columns cells

/-- The update that assigns values to columns, in the rows that satisfy a
condition. -/
def assignment (table : String) (items : List (String × Value)) (clause : Option String)
    (args : List Value) : Statement :=
  let assignments := listing (items.map fun item => s!"{item.1} = ?")
  ⟨s!"UPDATE {table} SET {assignments}{Condition.suffix clause};", items.map Prod.snd ++ args⟩

/-- The removal of the rows that satisfy a condition. -/
def removal (table : String) (clause : Option String) (args : List Value) : Statement :=
  ⟨s!"DELETE FROM {table}{Condition.suffix clause};", args⟩

/-- The update of the rows that satisfy a loosely typed condition. -/
def update (table : String) (record : Record) (clause args : Value) : Except Fault Statement := do
  let items ← record.items
  if items.isEmpty then throw (.emptyRecord "UPDATE" table)
  let clause ← Condition.clauseOf clause
  return assignment table items clause (← args.sequence)

/-- The deletion of the rows that satisfy a loosely typed condition. -/
def delete (table : String) (clause args : Value) : Except Fault Statement := do
  let clause ← Condition.clauseOf clause
  return removal table clause (← args.sequence)

/-- A statement whose parameters are the items of a sequence. -/
def withParams (sql : String) (params : Value) : Except Fault Statement := do
  return ⟨sql, ← params.sequence⟩

/-- A group of as many placeholders as a value has items. -/
def placeholderGroup (values : Value) : Except Fault String := do
  let items ← values.sized
  return s!"({placeholders items.length})"

end Statement

end SqlAccess
