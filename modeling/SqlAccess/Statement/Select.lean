import SqlAccess.Query
import SqlAccess.Text.Blank
import SqlAccess.Text.Listing
import SqlAccess.Value.Conversion

/-!
# Selecting rows

A query against a table becomes one `SELECT`.  Its clauses stand in a fixed
order, and a clause without content is left out: a blank condition, a grouping
by nothing, an empty sort order.
-/

namespace SqlAccess

open SqlAccess.Text (listing isBlankText)

/-- The text of a selection of columns. -/
def Selection.text : Selection → String
  | raw content => content
  | listed columns => listing columns

/-- Whether a selection names nothing. -/
def Selection.isEmpty : Selection → Bool
  | raw content => content == ""
  | listed columns => columns.isEmpty

/-- The text of a join. -/
def Join.text (join : Join) : String :=
  s!"{join.kind.keyword} JOIN {join.table} ON {join.condition}"

/-- The text of a sort key. -/
def SortKey.text (key : SortKey) : String :=
  match key.direction with
  | none => key.column
  | some direction => s!"{key.column} {direction.keyword}"

/-- A condition behind its keyword, unless it is blank. -/
def Condition.clauses (keyword : String) (condition : Option Condition) : List String :=
  match condition with
  | some c => if isBlankText c.clause then [] else [s!"{keyword} {c.clause}"]
  | none => []

namespace Query

/-- The columns of the result; a selection without text stands for all. -/
def resultColumns (query : Query) : String :=
  if query.columns.text = "" then "*" else query.columns.text

/-- The grouping, unless it is by nothing. -/
def groupingClauses (query : Query) : List String :=
  match query.grouping with
  | some selection => if selection.isEmpty then [] else [s!"GROUP BY {selection.text}"]
  | none => []

/-- The sort order, unless it is empty. -/
def orderClauses (query : Query) : List String :=
  if query.order.isEmpty then [] else [s!"ORDER BY {listing (query.order.map SortKey.text)}"]

/-- The text of a number of rows, which must not have too many digits. -/
def numeral (number : Nat) : Except Fault String := do
  (Value.int number).checkWritable
  return toString number

theorem numeral_eq_ok {number : Nat} (h : Number.isWritable number = true) :
    numeral number = .ok (toString number) := by
  have hwritable : (Value.int number).isWritable = true := by rwa [Value.isWritable_int]
  rw [numeral, Value.checkWritable_eq_ok hwritable]
  rfl

theorem numeral_eq_error {number : Nat} (h : Number.isWritable number = false) :
    numeral number = .error (.misfit .longInteger) := by
  have hwritable : (Value.int number).isWritable = false := by rwa [Value.isWritable_int]
  rw [numeral, Value.checkWritable_eq_error hwritable]
  rfl

theorem numeral_one : numeral 1 = .ok "1" :=
  numeral_eq_ok (by decide +kernel)

/-- The limit and the offset, as far as they are set. -/
def pageClauses (query : Query) : Except Fault (List String) := do
  let limit ← query.limit.mapM fun limit => numeral limit.val
  let offset ← query.offset.mapM numeral
  return (limit.map fun limit => s!"LIMIT {limit}").toList ++
    (offset.map fun offset => s!"OFFSET {offset}").toList

/-- The parts of the query's text without the page, in order. -/
def parts (table : String) (query : Query) : List String :=
  ["SELECT"] ++ (if query.distinct then ["DISTINCT"] else [])
    ++ [query.resultColumns, s!"FROM {table}"]
    ++ query.joins.map Join.text
    ++ Condition.clauses "WHERE" query.filter
    ++ query.groupingClauses
    ++ Condition.clauses "HAVING" query.having
    ++ query.orderClauses

end Query

/-- The statement that runs a query against a table. -/
def Statement.select (table : String) (query : Query) : Except Fault Statement := do
  let page ← query.pageClauses
  return ⟨" ".intercalate (query.parts table ++ page), query.params⟩

end SqlAccess
