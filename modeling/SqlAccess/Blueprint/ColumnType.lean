import SqlAccess.Blueprint.Identifier
import SqlAccess.Invocation
import SqlAccess.Value.Conversion

/-!
# Column types

A blueprint gives the type of a column by a name and arguments.  A name has one
spelling or several of them, and a signature that the arguments have to fit
(`ColumnType.check`).  The SQL text of a type (`ColumnType.sql`) is a keyword, and
for some types a length, a collation with its qualifier, or a precision and a
scale.  Not every type has an SQL text.
-/

namespace SqlAccess.Blueprint

/-- The name of a column type. -/
inductive TypeName where
  | integer
  | smallInteger
  | bigInteger
  | varchar
  | nvarchar
  | char
  | nchar
  | text
  | clob
  /-- One of some given texts. -/
  | choice
  | boolean
  | float
  | double
  | doublePrecision
  | real
  | numeric
  | decimal
  | date
  | dateTime
  | time
  | timestamp
  /-- A span of time. -/
  | interval
  | blob
  | binary
  | varbinary
  /-- Any value in the form of bytes. -/
  | packed
  /-- A universally unique number in the form of a text. -/
  | uniqueText
  /-- A universally unique number. -/
  | unique
  | json
  /-- Many values of one type. -/
  | array
  /-- A form of another type, which has to be said before it can be used. -/
  | refined
  deriving DecidableEq, Repr

namespace TypeName

/-- The spellings of each type name. -/
def spellings : List (TypeName × List String) :=
  [(integer, ["Integer", "INTEGER", "INT"]), (smallInteger, ["SmallInteger", "SMALLINT"]),
    (bigInteger, ["BigInteger", "BIGINT"]), (varchar, ["String", "Unicode", "VARCHAR"]),
    (nvarchar, ["NVARCHAR"]), (char, ["CHAR"]), (nchar, ["NCHAR"]),
    (text, ["Text", "TEXT", "UnicodeText"]), (clob, ["CLOB"]), (choice, ["Enum"]),
    (boolean, ["Boolean", "BOOLEAN"]), (float, ["Float", "FLOAT"]),
    (double, ["Double", "DOUBLE"]), (doublePrecision, ["DOUBLE_PRECISION"]), (real, ["REAL"]),
    (numeric, ["Numeric", "NUMERIC"]), (decimal, ["DECIMAL"]), (date, ["Date", "DATE"]),
    (dateTime, ["DateTime", "DATETIME"]), (time, ["Time", "TIME"]), (timestamp, ["TIMESTAMP"]),
    (interval, ["Interval"]), (blob, ["LargeBinary", "BLOB"]), (binary, ["BINARY"]),
    (varbinary, ["VARBINARY"]), (packed, ["PickleType"]), (uniqueText, ["Uuid"]),
    (unique, ["UUID"]), (json, ["JSON"]), (array, ["ARRAY"]), (refined, ["TypeDecorator"])]

/-- The type name of a spelling. -/
def ofText? (spelling : String) : Option TypeName :=
  (spellings.find? fun entry => entry.2.contains spelling).map Prod.fst

/-- The arguments that a type takes. -/
def signature : TypeName → Signature
  | integer | smallInteger | bigInteger | date => .none
  | dateTime | time | timestamp | blob | binary | varbinary | json | unique => { optional := 1 }
  | uniqueText => { optional := 2 }
  | varchar | nvarchar | char | nchar | text | clob | float | double | doublePrecision | real
  | interval => { optional := 3 }
  | boolean | numeric | decimal | packed => { optional := 4 }
  | choice | refined => .any
  | array => { required := ["item_type"], optional := 3 }

/-- The keyword of a type name; a type without one has no SQL text. -/
def keyword? : TypeName → Option String
  | integer => some "INTEGER"
  | smallInteger => some "SMALLINT"
  | bigInteger => some "BIGINT"
  | varchar | choice => some "VARCHAR"
  | nvarchar => some "NVARCHAR"
  | char | uniqueText => some "CHAR"
  | nchar => some "NCHAR"
  | text => some "TEXT"
  | clob => some "CLOB"
  | boolean => some "BOOLEAN"
  | float => some "FLOAT"
  | double => some "DOUBLE"
  | doublePrecision => some "DOUBLE PRECISION"
  | real => some "REAL"
  | numeric => some "NUMERIC"
  | decimal => some "DECIMAL"
  | date => some "DATE"
  | dateTime | interval => some "DATETIME"
  | time => some "TIME"
  | timestamp => some "TIMESTAMP"
  | blob | packed => some "BLOB"
  | binary => some "BINARY"
  | varbinary => some "VARBINARY"
  | unique => some "UUID"
  | json => some "JSON"
  | array | refined => none

end TypeName

/-- The type of a column. -/
structure ColumnType where
  name : String
  args : List Value := []

namespace ColumnType

/-- The argument at a position; one that is not given is absent. -/
def argument (type : ColumnType) (position : Nat) : Value :=
  type.args[position]?.getD .null

/-! ## Checking -/

/-- Checks one of the texts of a choice.  Whatever has a length and can be stored
under counts as one. -/
def checkChoice : Value → Except Fault Unit
  | .text _ | .blob _ => .ok ()
  | value =>
    .error (.mistake (if value.items?.isSome then .notKey value.kindName
      else .noLength value.kindName))

/-- Checks that only a collation that is named has a qualifier. -/
def checkCollation : Value → Value → Except Fault Unit
  | _, .null => .ok ()
  | .null, _ => .error .namelessCollation
  | _, _ => .ok ()

/-- Checks the place of a type that a type is a form of.  No value is a type, so
that the place has to be left empty. -/
def checkNoType (value : Value) : Except Fault Unit :=
  if value.truth then .error (.noType value.kindName) else .ok ()

/-- Checks the arguments of a type by themselves. -/
def checkArguments (type : ColumnType) : TypeName → Except Fault Unit
  | .choice => type.args.forM checkChoice
  | .varchar | .nvarchar | .char | .nchar | .text | .clob =>
    checkCollation (type.argument 1) (type.argument 2)
  | .boolean => checkNoType (type.argument 3)
  | .refined => .error (.unfinishedType type.name)
  | _ => .ok ()

/-- The type name of a type, which has to be known. -/
def typeName (type : ColumnType) : Except Fault TypeName :=
  match TypeName.ofText? type.name with
  | some name => .ok name
  | none => .error (.unknownType type.name)

/-- Checks that the type is known and that it takes its arguments. -/
def check (type : ColumnType) : Except Fault Unit := do
  let name ← type.typeName
  name.signature.check type.name ⟨"__init__", type.args⟩
  type.checkArguments name

/-! ## SQL text -/

/-- The length in its parentheses, unless it is missing or zero. -/
def lengthPart (length : Value) : Except Fault String := do
  if !length.truth then return ""
  length.checkWritable
  return s!"({length.display})"

/-- The length in its parentheses without a fraction, unless it is missing or zero;
it has to be a number. -/
def wholeLengthPart (length : Value) : Except Fault String :=
  match length with
  | .text _ | .blob _ | .list _ | .object _ =>
    if length.truth then .error (.mistake (.noInteger length.kindName)) else .ok ""
  | _ => do
    if !length.truth then return ""
    let number ← length.toInteger
    (Value.int number).checkWritable
    return s!"({number})"

/-- A name within the name of a collation, which has to be a text. -/
def collationName : Value → Except Fault String
  | .text name => .ok (identifier name)
  | value =>
    .error (if value.items?.isSome then .mistake (.notKey value.kindName)
      else .unknownCall value.kindName "lower")

/-- The collation, unless it is missing or empty.  Its qualifier, if there is one,
stands before it and a point. -/
def collationPart (collation qualifier : Value) : Except Fault String := do
  if !collation.truth then return ""
  let name ← collationName collation
  match qualifier with
  | .null => return s!" COLLATE {name}"
  | _ => return s!" COLLATE {← collationName qualifier}.{name}"

/-- The precision and the scale in their parentheses, as far as they are there and can
be written; there is no scale without a precision. -/
def precisionPart : Value → Value → Except Fault String
  | .null, _ => .ok ""
  | precision, .null => do
    precision.checkWritable
    return s!"({precision.display})"
  | precision, scale => do
    precision.checkWritable
    scale.checkWritable
    return s!"({precision.display}, {scale.display})"

/-- The length of the longest text of a choice. -/
def longest (args : List Value) : Nat :=
  (args.map fun value => (value.items?.getD []).length).foldl max 0

/-- What follows the keyword of a type. -/
def suffix (type : ColumnType) : TypeName → Except Fault String
  | .varchar | .nvarchar | .char | .nchar | .text => do
    let length ← lengthPart (type.argument 0)
    let collation ← collationPart (type.argument 1) (type.argument 2)
    return length ++ collation
  | .choice => lengthPart (.int (longest type.args))
  | .uniqueText => lengthPart (.int 32)
  | .binary | .varbinary => wholeLengthPart (type.argument 0)
  | .numeric | .decimal => precisionPart (type.argument 0) (type.argument 1)
  | .packed => do
    checkNoType (type.argument 3)
    return ""
  | _ => .ok ""

/-- The SQL text of a type. -/
def sql (type : ColumnType) : Except Fault String := do
  let name ← type.typeName
  match name.keyword? with
  | some keyword => return keyword ++ (← type.suffix name)
  | none => throw (.unsupportedType type.name)

end ColumnType

end SqlAccess.Blueprint
