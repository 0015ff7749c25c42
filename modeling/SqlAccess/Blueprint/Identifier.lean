import SqlAccess.Text.Case
import SqlAccess.Text.Literal

/-!
# Identifiers

The name of a collation stands in a column type as it is, as long as it reads
as a name there.  Otherwise it is put into double quotes, in which a double quote
is written twice.
-/

namespace SqlAccess.Blueprint

/-- The words that are no names unless they are quoted. -/
def reservedWords : List String :=
  ["add", "after", "all", "alter", "analyze", "and", "as", "asc", "attach", "autoincrement",
    "before", "begin", "between", "by", "cascade", "case", "cast", "check", "collate", "column",
    "commit", "conflict", "constraint", "create", "cross", "current_date", "current_time",
    "current_timestamp", "database", "default", "deferrable", "deferred", "delete", "desc",
    "detach", "distinct", "drop", "each", "else", "end", "escape", "except", "exclusive",
    "exists", "explain", "false", "fail", "for", "foreign", "from", "full", "glob", "group",
    "having", "if", "ignore", "immediate", "in", "index", "indexed", "initially", "inner",
    "insert", "instead", "intersect", "into", "is", "isnull", "join", "key", "left", "like",
    "limit", "match", "natural", "not", "notnull", "null", "of", "offset", "on", "or", "order",
    "outer", "plan", "pragma", "primary", "query", "raise", "references", "reindex", "rename",
    "replace", "restrict", "right", "rollback", "row", "select", "set", "table", "temp",
    "temporary", "then", "to", "transaction", "trigger", "true", "union", "unique", "update",
    "using", "vacuum", "values", "view", "virtual", "when", "where"]

/-- Whether a character may stand in a bare name: a small ASCII letter or a letter
whose capital form is an ASCII letter, a digit, a low line, or a dollar sign. -/
def isBareChar (c : Char) : Bool :=
  c.isLower || c.isDigit || c = '_' || c = '$' || c = 'ı' || c = 'ſ'

/-- Whether a character may begin a bare name. -/
def isBareStart (c : Char) : Bool :=
  isBareChar c && !c.isDigit && c ≠ '$'

/-- Whether the characters after the first one may stand in a bare name; a single
line feed may end it. -/
def isBareTail : List Char → Bool
  | [] => true
  | ['\n'] => true
  | c :: rest => isBareChar c && isBareTail rest

/-- Whether a name can stand without quotes. -/
def isBareName (name : String) : Bool :=
  match name.toList with
  | [] => false
  | c :: rest => isBareStart c && isBareTail rest && !reservedWords.contains name

/-- A name as it stands in a column type. -/
def identifier (name : String) : String :=
  if isBareName name then name else Text.literalWithin "\"" name

example : identifier "a$1" = "a$1" := by decide +kernel
example : identifier "NOCASE" = "\"NOCASE\"" := by decide +kernel
example : identifier "a\"b" = "\"a\"\"b\"" := by decide +kernel

end SqlAccess.Blueprint
