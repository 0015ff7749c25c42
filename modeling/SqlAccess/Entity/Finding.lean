import SqlAccess.Entity
import SqlAccess.Row.Lookup
import SqlAccess.Value.Conversion
import SqlAccess.Text.Blank

/-!
# Finding instances

Instances are found by comparing a column with a value.  The value travels as a
parameter, and of comparison operators only those of a fixed list get into the
text of the statement (`operator?`).
-/

namespace SqlAccess

open SqlAccess.Text (words capitals isBlankBytes)

/-- The comparison operators. -/
def comparisonOperators : List String :=
  ["=", "==", "<>", "!=", "<", "<=", ">", ">=", "LIKE", "GLOB", "IS", "IS NOT"]

/-- The comparison operator that a text names, in any letter case and with any
blanks around and between its words. -/
def operator? (text : String) : Option String :=
  let operator := capitals (" ".intercalate (words text))
  if comparisonOperators.contains operator then some operator else none

/-- The comparison operator that a value names, which has to be a text.  Bytes
have words as well, but these cannot be joined to a text. -/
def Value.operator (value : Value) : Except Fault String :=
  match value with
  | text content =>
    match operator? content with
    | some operator => .ok operator
    | none => .error (.unsupportedOperator value)
  | blob bytes =>
    if isBlankBytes bytes then .error (.unsupportedOperator value)
    else .error (.mistake (.notText 0 value.kindName))
  | _ => .error (.unknownCall value.kindName "split")

namespace Entity

variable {ω : Type} [Engine ω]

/-- The condition that a column compares with a value. -/
def comparison (column operator : String) (value : Value) : Query :=
  { filter := some ⟨s!"{column} {operator} ?", [value]⟩ }

/-- The first instance whose column compares with a value. -/
def findWhere (entity : Entity) (column operator : String) (value : Value) :
    Action ω (Option Instance) := do
  let cursor ← entity.cursor (comparison column operator value)
  cursor.first

/-- The first instance whose column compares with a value, by an operator that
is given as a text.  The entity has to be bound before its column is written. -/
def findBy (entity : Entity) (column operator value : Value) : Action ω (Option Instance) := do
  let operator ← operator.operator
  let _ ← entity.bound
  column.checkWritable
  entity.findWhere column.display operator value

/-- The instance with a primary key. -/
def find (entity : Entity) (key : Value) : Action ω (Option Instance) :=
  entity.findWhere entity.primaryKey "=" key

/-- The query for all rows in the order in which the engine numbers them. -/
def inRowOrder (direction : Direction) : Query :=
  { order := [⟨"ROWID", some direction⟩] }

/-- The instance whose row has the smallest number. -/
def first (entity : Entity) : Action ω (Option Instance) := do
  let cursor ← entity.cursor (inRowOrder .ascending)
  cursor.first

/-- The instance whose row has the greatest number. -/
def last (entity : Entity) : Action ω (Option Instance) := do
  let cursor ← entity.cursor (inRowOrder .descending)
  cursor.first

/-- The instances that a query gives. -/
def query (entity : Entity) (query : Query) : Action ω (List Instance) := do
  let cursor ← entity.cursor query
  cursor.get

/-- All instances. -/
def all (entity : Entity) : Action ω (List Instance) :=
  entity.query {}

/-- The number that an answer to a count tells; no answer counts as zero. -/
def countOf : Option Row → Except Fault Int
  | none => .ok 0
  | some row => if row.entries.isEmpty then .ok 0 else do (← row.lookup "_count_").toInteger

/-- The number of instances. -/
def count (entity : Entity) : Action ω Int := do
  let database ← entity.bound
  countOf (← database.execute ⟨s!"SELECT COUNT(*) AS _count_ FROM {entity.table}", []⟩).first?

end Entity

end SqlAccess
