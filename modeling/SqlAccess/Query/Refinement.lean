import SqlAccess.Query
import SqlAccess.Validation.Refusal

/-!
# Refinements

A query is refined step by step.  A step replaces one field of the query,
except that joins and sort keys are added to those that are there.  What a step
is given is loosely typed, and a step that has an issue gives no query.

A step goes by plain data: the query is put into the form of a loosely typed
description (`Query.outline`), one field of which is replaced, and the whole
description is read anew (`Outline.read`).  A condition, a join or a sort key is
read by itself before, so that the places of its issues do not mention the query.
-/

namespace SqlAccess

/-- A step that refines a query. -/
inductive Refinement where
  /-- Sets the columns of the result; a single one may be any text. -/
  | select (columns : List Value)
  /-- Sets whether equal rows are merged. -/
  | distinct (enabled : Value)
  /-- Adds a joined table. -/
  | join (table condition kind : Value)
  /-- Sets the condition on rows. -/
  | filter (clause : Value) (args : List Value)
  /-- Sets what rows are grouped by; a single column may be any text. -/
  | group (columns : List Value)
  /-- Sets the condition on groups. -/
  | having (clause : Value) (args : List Value)
  /-- Adds a key to the sort order. -/
  | order (column direction : Value)
  /-- Sets the greatest number of rows. -/
  | limit (limit : Value)
  /-- Sets the number of the page. -/
  | page (page : Value)
  /-- Gives up. -/
  | fail (fault : Fault)

/-! ## Plain data -/

/-- A loosely typed description of a query, field by field. -/
structure Outline where
  distinct : Value := .bool false
  columns : Value := .text "*"
  joins : List Value := []
  filter : Value := .null
  grouping : Value := .null
  having : Value := .null
  order : List Value := []
  limit : Value := .null
  page : Value := .null

/-- Reads a query from its description. -/
def Outline.read (outline : Outline) : Checked Query :=
  Query.reader (.object [("distinct", outline.distinct), ("columns", outline.columns),
    ("joins", .list outline.joins), ("where", outline.filter), ("group_by", outline.grouping),
    ("having", outline.having), ("order_by", .list outline.order), ("limit", outline.limit),
    ("page", outline.page)])

/-- The plain data of something that may be absent. -/
def Value.ofOption {α : Type} (dump : α → Value) (part : Option α) : Value :=
  (part.map dump).getD .null

/-- The plain data of a positive number. -/
def Positive.dump (number : Positive) : Value :=
  .int number.val

/-- The plain data of a selection. -/
def Selection.dump : Selection → Value
  | raw content => .text content
  | listed columns => .list (columns.map .text)

/-- A loosely typed condition. -/
def Condition.outline (clause : Value) (args : List Value) : Value :=
  .object [("clause", clause), ("args", .list args)]

/-- The plain data of a condition. -/
def Condition.dump (condition : Condition) : Value :=
  outline (.text condition.clause) condition.args

/-- A loosely typed join. -/
def Join.outline (table condition kind : Value) : Value :=
  .object [("table", table), ("on", condition), ("type", kind)]

/-- The plain data of a join. -/
def Join.dump (join : Join) : Value :=
  outline (.text join.table) (.text join.condition) (.text join.kind.keyword)

/-- A loosely typed sort key. -/
def SortKey.outline (column direction : Value) : Value :=
  .object [("column", column), ("direction", direction)]

/-- The plain data of a sort key. -/
def SortKey.dump (key : SortKey) : Value :=
  outline (.text key.column) (.ofOption (fun direction => .text direction.keyword) key.direction)

/-- The plain data of a query. -/
def Query.outline (query : Query) : Outline where
  distinct := .bool query.distinct
  columns := query.columns.dump
  joins := query.joins.map Join.dump
  filter := .ofOption Condition.dump query.filter
  grouping := .ofOption Selection.dump query.grouping
  having := .ofOption Condition.dump query.having
  order := query.order.map SortKey.dump
  limit := .ofOption Positive.dump query.limit
  page := .ofOption Positive.dump query.page

/-! ## Steps -/

/-- Columns as a loosely typed selection: one value stands for itself. -/
def Selection.describe : List Value → Value
  | [column] => column
  | columns => .list columns

/-- Selected columns as a loosely typed selection: none at all stand for all. -/
def Selection.describeAll (columns : List Value) : Value :=
  if columns.isEmpty then .text "*" else describe columns

namespace Query

/-- Takes a step. -/
def refine (query : Query) : Refinement → Except Fault Query
  | .select columns => { query.outline with columns := Selection.describeAll columns }.read.toExcept
  | .distinct enabled => { query.outline with distinct := enabled }.read.toExcept
  | .join table condition kind => do
    let join ← (Join.reader (Join.outline table condition kind)).toExcept
    { query.outline with joins := (query.joins ++ [join]).map Join.dump }.read.toExcept
  | .filter clause args => do
    let filter ← (Condition.reader (Condition.outline clause args)).toExcept
    { query.outline with filter := filter.dump }.read.toExcept
  | .group columns => { query.outline with grouping := Selection.describe columns }.read.toExcept
  | .having clause args => do
    let having ← (Condition.reader (Condition.outline clause args)).toExcept
    { query.outline with having := having.dump }.read.toExcept
  | .order column direction => do
    let key ← (SortKey.reader (SortKey.outline column direction)).toExcept
    { query.outline with order := (query.order ++ [key]).map SortKey.dump }.read.toExcept
  | .limit limit => { query.outline with limit }.read.toExcept
  | .page page => { query.outline with page }.read.toExcept
  | .fail fault => .error fault

/-- Takes all steps, up to the first one that gives no query. -/
def refineAll (query : Query) (steps : List Refinement) : Except Fault Query :=
  steps.foldlM refine query

end Query

end SqlAccess
