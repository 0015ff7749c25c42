import SqlAccess.Row
import SqlAccess.Value.Conversion

/-!
# Records

A record gives columns their values, for an insertion or an update.  The order
of its columns decides the order of the placeholders of the statement, so a
record is either a row or an explicit sequence of pairs.  Only in a sequence of
pairs can a column be given more than once.
-/

namespace SqlAccess

/-- What a record is given as. -/
inductive Record where
  /-- Columns by name. -/
  | row (row : Row)
  /-- A sequence of pairs of a column and its value; an object is columns by name
  all the same. -/
  | pairs (source : Value)

namespace Record

/-- A pair of a column and its value; a column that is no text is named by its
plain form, if it can be written. -/
def assignment (value : Value) : Except Fault (String × Value) := do
  let (column, content) ← value.pair
  column.checkWritable
  return (column.display, content)

/-- The columns and their values, in order. -/
def items : Record → Except Fault (List (String × Value))
  | row r => .ok r.entries
  | pairs (.object entries) => .ok entries
  | pairs source => do
    let elements ← source.sequence
    elements.mapM assignment

@[simp] theorem items_row (r : Row) : (row r).items = .ok r.entries := rfl

end Record

end SqlAccess
