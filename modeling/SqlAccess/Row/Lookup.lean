import SqlAccess.Row
import SqlAccess.Fault

/-!
# Looking names up in rows
-/

namespace SqlAccess.Row

/-- The value under a name that has to be there. -/
def lookup (row : Row) (name : String) : Except Fault Value :=
  match row.get? name with
  | some value => .ok value
  | none => .error (.missingKey (.text name))

/-- The value under a key that has to be there.  Only texts are keys of a row,
and lists and objects are no keys at all. -/
def pick (row : Row) : Value → Except Fault Value
  | .text name => row.lookup name
  | .list items => .error (.mistake (.notKey (Value.list items).kindName))
  | .object entries => .error (.mistake (.notKey (Value.object entries).kindName))
  | key => .error (.missingKey key)

/-- The values that rows have under a name. -/
def column (name : String) (rows : List Row) : Except Fault (List Value) :=
  rows.mapM fun row => row.lookup name

end SqlAccess.Row
