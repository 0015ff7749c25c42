import SqlAccess.Invocation
import SqlAccess.Query.Refinement

/-!
# Scripts that refine queries

A query can be refined by calls by name.
-/

namespace SqlAccess.Refinement

/-- What a cursor can be asked for: to refine its query, to set the form of its rows,
for its statement, and for what the statement gives or does. -/
def interface : Interface where
  owner := "QueryCursor"
  calls := [("select", .any), ("distinct", { optional := 1 }),
    ("join", { required := ["table", "on"], optional := 1 }),
    ("where", { required := ["clause"], isOpen := true }), ("group_by", .any),
    ("having", { required := ["clause"], isOpen := true }),
    ("order_by", { required := ["column"], optional := 1 }), ("limit", .of ["limit"]),
    ("page", .of ["page"]), ("row_factory", .of ["factory"]), ("compile", .none),
    ("get", { optional := 1 }), ("first", { optional := 1 }), ("insert", .of ["record"]),
    ("insert_many", .of ["fields", "rows"]), ("update", .of ["record"]), ("delete", .none)]
  parts := [("table", "str"), ("spec", "QuerySpec")]

/-- The refinement that a call asks for. -/
def ofInvocation (call : Invocation) : Refinement :=
  match call.name, call.args with
  | "select", columns => .select columns
  | "distinct", [] => .distinct (.bool true)
  | "distinct", [enabled] => .distinct enabled
  | "join", [table, condition] => .join table condition (.text "INNER")
  | "join", [table, condition, kind] => .join table condition kind
  | "where", clause :: args => .filter clause args
  | "group_by", columns => .group columns
  | "having", clause :: args => .having clause args
  | "order_by", [column] => .order column .null
  | "order_by", [column, direction] => .order column direction
  | "limit", [count] => .limit count
  | "page", [number] => .page number
  | _, _ => .fail (interface.refusal call)

end SqlAccess.Refinement
