import SqlAccess.Statement
import SqlAccess.Validation.Reader

/-!
# Queries

A query says what to select from a table: which columns, joined with what,
under which conditions, in which order, and which page of the result.
Conditions are SQL text with placeholders, and their arguments travel beside
them.  `Query.reader` reads a query from a loosely typed description.
-/

namespace SqlAccess

/-- A positive number: a row count or the number of a page. -/
structure Positive where
  val : Nat
  pos : 0 < val
  deriving DecidableEq, Repr

/-- A condition with its arguments. -/
structure Condition where
  clause : String
  /-- The values for its placeholders, in order. -/
  args : List Value := []
  deriving Repr

/-- How tables are joined. -/
inductive JoinKind where
  | inner
  | left
  | right
  deriving DecidableEq, Repr

/-- A joined table. -/
structure Join where
  table : String
  /-- The condition under which rows match. -/
  condition : String
  /-- What happens to rows without a match. -/
  kind : JoinKind := .inner
  deriving DecidableEq, Repr

/-- A sort direction. -/
inductive Direction where
  | ascending
  | descending
  deriving DecidableEq, Repr

/-- One key of the sort order. -/
structure SortKey where
  /-- The column or expression to sort by. -/
  column : String
  /-- The direction, if it is not left to the engine. -/
  direction : Option Direction := none
  deriving DecidableEq, Repr

/-- A selection of columns: raw text, or a list of columns. -/
inductive Selection where
  | raw (content : String)
  | listed (columns : List String)
  deriving DecidableEq, Repr

/-- A query. -/
structure Query where
  distinct : Bool := false
  columns : Selection := .raw "*"
  joins : List Join := []
  filter : Option Condition := none
  grouping : Option Selection := none
  having : Option Condition := none
  order : List SortKey := []
  limit : Option Positive := none
  /-- The number of the page, which means something only beside a limit. -/
  page : Option Positive := none
  deriving Repr

namespace Query

/-- The number of rows before the page. -/
def offset (query : Query) : Option Nat :=
  match query.limit, query.page with
  | some limit, some page => some (limit.val * (page.val - 1))
  | _, _ => none

/-- The arguments in the order of the placeholders: those of the condition on
rows, then those of the condition on groups. -/
def params (query : Query) : List Value :=
  (query.filter.map Condition.args).getD [] ++ (query.having.map Condition.args).getD []

end Query

/-! ## Words -/

/-- The keyword of a kind of join. -/
def JoinKind.keyword : JoinKind → String
  | inner => "INNER"
  | left => "LEFT"
  | right => "RIGHT"

/-- The kind of join of a keyword, in any letter case. -/
def JoinKind.ofText? (text : String) : Option JoinKind :=
  [inner, left, right].find? fun kind => kind.keyword == Text.capitals text

/-- The keyword of a sort direction. -/
def Direction.keyword : Direction → String
  | ascending => "ASC"
  | descending => "DESC"

/-- The sort direction of a keyword, in any letter case. -/
def Direction.ofText? (text : String) : Option Direction :=
  [ascending, descending].find? fun direction => direction.keyword == Text.capitals text

/-! ## Readers -/

open Reader Fields

/-- Reads a positive number. -/
def Positive.reader (value : Value) : Checked Positive :=
  (integer value).andThen fun number =>
    if h : 0 < number then .valid ⟨number.toNat, by omega⟩ else .issue .belowBound

/-- Reads a condition. -/
def Condition.reader : Reader Condition :=
  .object ["clause", "args"] fun fields =>
    Condition.mk <$> required fields "clause" text
      <*> withDefault fields "args" [] (list anything)

/-- Reads a joined table. -/
def Join.reader : Reader Join :=
  .object ["table", "on", "type"] fun fields =>
    Join.mk <$> required fields "table" text <*> required fields "on" text
      <*> withDefault fields "type" .inner (word JoinKind.ofText?)

/-- Reads a sort key. -/
def SortKey.reader : Reader SortKey :=
  .object ["column", "direction"] fun fields =>
    SortKey.mk <$> required fields "column" text
      <*> withDefault fields "direction" none (optional (word Direction.ofText?))

/-- Reads a selection of columns.  What is neither a text nor a list of texts
has an issue with each of the two forms. -/
def Selection.reader : Reader Selection := fun value =>
  match text value, list text value with
  | .valid content, _ => .valid (.raw content)
  | _, .valid columns => .valid (.listed columns)
  | .invalid asText, .invalid asNames =>
    .apply (.under "str" (.invalid asText : Checked (Selection → Selection)))
      (.under "tuple[str, ...]" (.invalid asNames))

/-- Reads a query. -/
def Query.reader : Reader Query :=
  .object ["distinct", "columns", "joins", "where", "group_by", "having", "order_by", "limit",
      "page"] fun fields =>
    Query.mk <$> withDefault fields "distinct" false flag
      <*> withDefault fields "columns" (.raw "*") Selection.reader
      <*> withDefault fields "joins" [] (list Join.reader)
      <*> withDefault fields "where" none (optional Condition.reader)
      <*> withDefault fields "group_by" none (optional Selection.reader)
      <*> withDefault fields "having" none (optional Condition.reader)
      <*> withDefault fields "order_by" [] (list SortKey.reader)
      <*> withDefault fields "limit" none (optional Positive.reader)
      <*> withDefault fields "page" none (optional Positive.reader)

end SqlAccess
