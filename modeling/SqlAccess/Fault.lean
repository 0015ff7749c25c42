import SqlAccess.Number.Integer
import SqlAccess.Statement
import SqlAccess.Value.Display
import SqlAccess.Validation.Issue
import SqlAccess.Migration.Hook

/-!
# Faults

Everything that can end an operation early.  A fault says what went wrong in
terms of the domain; `message` words it, `category` sorts it, `details` names
its particulars, and `cause?` is the fault it was made from.

Faults that come from outside, from the engine or from client code, are known
by a category and a message alone (`reported`).
-/

namespace SqlAccess

/-- The kinds of failure that an engine distinguishes. -/
inductive EngineError where
  | general
  | interface
  | database
  | data
  | operational
  | integrity
  | internal
  | programming
  | notSupported
  deriving DecidableEq, Repr

/-- What a fault from outside is said to be. -/
inductive Report where
  /-- A failure of the engine. -/
  | engine (error : EngineError)
  /-- A warning of the engine, which it does not count among its failures. -/
  | warning
  /-- A failure of the operating system. -/
  | system
  /-- A failure of client code. -/
  | runtime
  /-- A number that does not fit. -/
  | overflow
  /-- A failure of this library, of no particular kind. -/
  | general
  /-- A configuration that cannot be used. -/
  | configuration
  /-- A description that cannot be compiled. -/
  | compilation
  /-- A statement or transaction that failed. -/
  | execution
  /-- A statement without an answer. -/
  | noAnswer
  /-- A schema operation that cannot proceed. -/
  | schema
  /-- A migration that was given up. -/
  | migration
  deriving DecidableEq, Repr

/-- A value of a kind that an operation cannot take. -/
inductive Mistake where
  /-- A value that is no sequence, by the name of its kind. -/
  | notSequence (kind : String)
  /-- A value without a length. -/
  | noLength (kind : String)
  /-- A value that is no pair. -/
  | notPair (kind : String)
  /-- A part of a listing that is no text. -/
  | notText (position : Nat) (kind : String)
  /-- Two values without an order. -/
  | unordered (relation left right : String)
  /-- A value that has no integer part. -/
  | noInteger (kind : String)
  /-- A call that lacks arguments, by their names. -/
  | missingArguments (call : String) (names : List String)
  /-- A call with too many arguments.  It takes from `least` to `most` of them,
  and the one that it is made on counts as well. -/
  | surplusArguments (call : String) (least most given : Nat)
  /-- A call with an argument of a name that it does not know. -/
  | unknownArgument (call argument : String)
  /-- A call that is given an argument twice. -/
  | repeatedArgument (call argument : String)
  /-- A call of something that cannot be called. -/
  | notCallable (kind : String)
  /-- A value that is no object, where all fields of an instance are set. -/
  | notFields (kind : String)
  /-- A value in place of the entity of an instance. -/
  | notEntity (kind : String)
  /-- A value that nothing can be stored under. -/
  | notKey (kind : String)
  /-- A migration without the hook that every migration has to have. -/
  | incompleteMigration
  deriving DecidableEq, Repr

/-- A value of the right kind that an operation cannot use. -/
inductive Misfit where
  /-- A pair with too few items. -/
  | shortPair (size : Nat)
  /-- A pair with too many items. -/
  | longPair
  /-- A text that is no integer, in its quoted form. -/
  | notInteger (quoted : String)
  /-- A numeral with too many digits to be read. -/
  | longNumeral (size : Nat)
  /-- An integer with too many digits to be written. -/
  | longInteger
  /-- The number that is no number, where an integer is needed. -/
  | noNumber
  deriving DecidableEq, Repr

/-- A fault. -/
inductive Fault where
  /-- A fault from outside. -/
  | reported (report : Report) (message : String)
  /-- A description with issues. -/
  | invalid (issues : List Issue)
  /-- Environment variables that make no configuration. -/
  | invalidEnvironment (issues : List Issue)
  /-- An environment variable that holds no truth value. -/
  | notFlag (key content : String)
  /-- An entity without a table. -/
  | noTable (entity : String)
  /-- An entity without a database. -/
  | unbound (entity : String)
  /-- A record without fields. -/
  | emptyRecord (command table : String)
  /-- An insertion of many rows without fields. -/
  | emptyFields (table : String)
  /-- An insertion of many rows without rows. -/
  | emptyRows (table : String)
  /-- A row whose length is not the number of fields. -/
  | rowLength (position size fields : Nat)
  /-- A default value that no literal denotes. -/
  | noLiteral (value : Floating)
  /-- An index without columns. -/
  | indexWithoutColumns (index table : String)
  /-- A foreign key that lacks a part. -/
  | incompleteForeignKey
  /-- A table without columns. -/
  | tableWithoutColumns (table : String)
  /-- A database that could not be opened. -/
  | openFailed (database : String) (cause : Fault)
  /-- A statement of a batch that the engine refused. -/
  | statementFailed (position : Nat) (statement : Statement) (cause : Fault)
  /-- A transaction that could not begin, commit or roll back. -/
  | transactionFailed (database : String) (cause : Fault)
  /-- The table to copy from does not exist. -/
  | noSource (table : String)
  /-- The table to copy to does not exist. -/
  | noDestination (table : String)
  /-- Two tables without a common column. -/
  | nothingShared (source target : String)
  /-- A target version below one. -/
  | versionTooLow (version : Value)
  /-- A migration hook that failed. -/
  | hookFailed (hook : Hook) (stored : Int) (target : Value) (cause : Fault)
  /-- A key under which nothing is stored. -/
  | missingKey (key : Value)
  /-- A comparison operator that is not allowed. -/
  | unsupportedOperator (operator : Value)
  /-- A value of the wrong kind. -/
  | mistake (mistake : Mistake)
  /-- A value of the right kind that does not fit. -/
  | misfit (misfit : Misfit)
  /-- An infinity, where an integer is needed. -/
  | infiniteInteger
  /-- A call of something that its owner does not have. -/
  | unknownCall (owner call : String)
  /-- A call of something that an entity does not have. -/
  | unknownRequest (entity call : String)
  /-- A field that cannot be set. -/
  | readOnly (field owner : String)
  /-- What a thing has but does not let be set. -/
  | fixedMember (member owner : String)
  /-- A field of something that never changes. -/
  | fixedField (field : String)
  /-- A column type that is not known. -/
  | unknownType (type : String)
  /-- A column type without an SQL text. -/
  | unsupportedType (type : String)
  /-- A column type that says too little to be used. -/
  | unfinishedType (type : String)
  /-- A value in place of a column type. -/
  | noType (kind : String)
  /-- A collation that has a qualifier but no name. -/
  | namelessCollation
  /-- A reference to a table that was not declared. -/
  | undeclaredTable (table : String)
  /-- A reference to a column that was not declared. -/
  | undeclaredColumn (table column : String)
  /-- A key or index over a column that its own table does not declare. -/
  | unknownColumn (table column : String)
  /-- A foreign key whose two sides do not match. -/
  | mismatchedKey (table : String)
  /-- A column without a name. -/
  | namelessColumn (table : String)
  /-- A default that the engine is to fill in and that is no text. -/
  | unusableDefault (column : String) (value : Value)
  /-- A column whose key or name another one has. -/
  | duplicateColumn (table column : String)
  /-- A table whose name another one has. -/
  | duplicateTable (table : String)

namespace Fault

/-! ## Categories -/

/-- The category of a fault. -/
inductive Category where
  | reported (report : Report)
  | validation
  | configuration
  | compilation
  | emptyRecord
  | emptyFields
  | emptyRows
  | statementFailure
  | execution
  | connectionOpen
  | schema
  | migration
  | missingKey
  | mistake
  | misfit
  | overflow
  | unknownCall
  | fixedField
  | unsupportedType
  | unfinishedType
  | undeclaredTable
  | undeclaredColumn
  | unknownColumn
  | unusablePart
  | duplicateColumn
  | duplicateTable
  deriving DecidableEq, Repr

/-- Sorts a fault into its category. -/
def category : Fault → Category
  | reported report _ => .reported report
  | invalid _ => .validation
  | invalidEnvironment _ | notFlag .. | noTable _ | unbound _ => .configuration
  | emptyRecord .. => .emptyRecord
  | emptyFields _ => .emptyFields
  | emptyRows _ => .emptyRows
  | rowLength .. | noLiteral _ | indexWithoutColumns .. | incompleteForeignKey
  | tableWithoutColumns _ => .compilation
  | openFailed .. => .connectionOpen
  | statementFailed .. => .statementFailure
  | transactionFailed .. => .execution
  | noSource _ | noDestination _ | nothingShared .. => .schema
  | versionTooLow _ | hookFailed .. => .migration
  | missingKey _ => .missingKey
  | unsupportedOperator _ => .misfit
  | mistake _ => .mistake
  | misfit _ => .misfit
  | infiniteInteger => .overflow
  | unknownCall .. | unknownRequest .. | readOnly .. | fixedMember .. | unknownType _
  | noType _ => .unknownCall
  | fixedField _ => .fixedField
  | unsupportedType _ => .unsupportedType
  | unfinishedType _ => .unfinishedType
  | undeclaredTable _ => .undeclaredTable
  | undeclaredColumn .. => .undeclaredColumn
  | unknownColumn .. => .unknownColumn
  | mismatchedKey _ | namelessColumn _ | unusableDefault .. | namelessCollation => .unusablePart
  | duplicateColumn .. => .duplicateColumn
  | duplicateTable _ => .duplicateTable

/-- Whether a fault is a failure of the engine itself. -/
def isEngineError : Fault → Bool
  | reported (.engine _) _ => true
  | _ => false

/-- Whether a fault keeps a database from being opened: a failure of the engine
or of the operating system. -/
def preventsOpening : Fault → Bool
  | reported (.engine _) _ => true
  | reported .system _ => true
  | _ => false

/-- Whether a fault already says that a migration was given up. -/
def isMigrationFailure : Fault → Bool
  | reported .migration _ => true
  | versionTooLow _ => true
  | hookFailed .. => true
  | _ => false

/-- The fault that a fault was made from. -/
def cause? : Fault → Option Fault
  | invalidEnvironment issues => some (invalid issues)
  | openFailed _ cause => some cause
  | statementFailed _ _ cause => some cause
  | transactionFailed _ cause => some cause
  | hookFailed _ _ _ cause => some cause
  | _ => none

/-- The issues of a fault that is a description with issues. -/
def issues? : Fault → Option (List Issue)
  | invalid issues => some issues
  | _ => none

/-! ## Messages -/

end Fault

/-- A number of things. -/
def counted (number : Nat) (thing : String) : String :=
  s!"{number} {thing}" ++ if number = 1 then "" else "s"

/-- The wording of a mistake. -/
def Mistake.message : Mistake → String
  | notSequence kind => s!"'{kind}' object is not iterable"
  | noLength kind => s!"object of type '{kind}' has no len()"
  | notPair kind => s!"cannot unpack non-iterable {kind} object"
  | notText position kind =>
    s!"sequence item {position}: expected str instance, {kind} found"
  | unordered relation left right =>
    s!"'{relation}' not supported between instances of '{left}' and '{right}'"
  | noInteger kind =>
    s!"int() argument must be a string, a bytes-like object or a real number, not '{kind}'"
  | missingArguments call names =>
    let number := counted names.length "required positional argument"
    s!"{call}() missing {number}: {Text.conjunction (names.map Text.quoted)}"
  | surplusArguments call least most given =>
    let taken :=
      if least = most then counted most "positional argument"
      else s!"from {least} to {most} positional arguments"
    s!"{call}() takes {taken} but {given} were given"
  | unknownArgument call argument =>
    s!"{call}() got an unexpected keyword argument '{argument}'"
  | repeatedArgument call argument =>
    s!"{call}() got multiple values for argument '{argument}'"
  | notCallable kind => s!"'{kind}' object is not callable"
  | notFields kind => s!"__dict__ must be set to a dictionary, not a '{kind}'"
  | notEntity kind => s!"__class__ must be set to a class, not '{kind}' object"
  | notKey kind => s!"unhashable type: '{kind}'"
  | incompleteMigration => "a migration has to have the hook on_create"

/-- What is said of too many digits. -/
def digitLimit : String :=
  s!"Exceeds the limit ({Number.greatestSize} digits) for integer string conversion"

/-- What is said that can be done about too many digits. -/
def digitRemedy : String :=
  "use sys.set_int_max_str_digits() to increase the limit"

/-- The wording of a misfit. -/
def Misfit.message : Misfit → String
  | shortPair size => s!"not enough values to unpack (expected 2, got {size})"
  | longPair => "too many values to unpack (expected 2)"
  | notInteger quoted => s!"invalid literal for int() with base 10: {quoted}"
  | longNumeral size => s!"{digitLimit}: value has {size} digits; {digitRemedy}"
  | longInteger => s!"{digitLimit}; {digitRemedy}"
  | noNumber => "cannot convert float NaN to integer"

namespace Fault

/-- The wording of a fault. -/
def message : Fault → String
  | reported _ message => message
  | invalid issues => "\n".intercalate (Issue.report issues)
  | invalidEnvironment issues =>
    "Invalid connection configuration: " ++ "\n".intercalate (Issue.report issues)
  | notFlag key content => s!"Expected a boolean for {key}, got '{content}'."
  | noTable entity => s!"{entity}.table_name is not set."
  | unbound entity => s!"{entity} is not bound to a database."
  | emptyRecord command table => s!"Record for {command} on table '{table}' is empty."
  | emptyFields table => s!"Field list for multi-row INSERT on table '{table}' is empty."
  | emptyRows table => s!"Row list for multi-row INSERT on table '{table}' is empty."
  | rowLength position size fields =>
    s!"Row {position} has {size} values but {fields} fields were given."
  | noLiteral value => s!"DEFAULT value {value.display} has no SQL literal form."
  | indexWithoutColumns index table => s!"Index '{index}' on table '{table}' has no columns."
  | incompleteForeignKey =>
    "Foreign key constraint needs columns, a referenced table and referenced columns."
  | tableWithoutColumns table => s!"Table '{table}' declares no columns."
  | openFailed database cause => s!"Could not open database '{database}': " ++ message cause
  | statementFailed _ _ cause => message cause
  | transactionFailed database cause => s!"Transaction on '{database}' failed: " ++ message cause
  | noSource table => s!"The source table '{table}' does not exist."
  | noDestination table => s!"The destination table '{table}' does not exist."
  | nothingShared source target =>
    s!"Tables '{source}' and '{target}' have no columns in common."
  | versionTooLow version =>
    s!"Target schema version must be >= 1, got {version.display}."
  | hookFailed hook _ _ cause => s!"Migration hook '{hook.name}' failed: " ++ message cause
  | missingKey key => key.quoted
  | unsupportedOperator operator => s!"Unsupported comparison operator: {operator.quoted}"
  | mistake m => m.message
  | misfit m => m.message
  | infiniteInteger => "cannot convert float infinity to integer"
  | unknownCall owner call => s!"'{owner}' object has no attribute '{call}'"
  | unknownRequest entity call => s!"type object '{entity}' has no attribute '{call}'"
  | readOnly field owner => s!"attribute '{field}' of '{owner}' objects is not writable"
  | fixedMember member owner => s!"'{owner}' object attribute '{member}' is read-only"
  | fixedField field => s!"cannot assign to field {Text.quoted field}"
  | unknownType type => s!"there is no column type '{type}'"
  | unsupportedType type => s!"column type '{type}' has no SQL text"
  | unfinishedType type => s!"column type '{type}' has to be refined"
  | noType kind => s!"'{kind}' object is no column type"
  | namelessCollation => "a collation with a qualifier needs a name"
  | undeclaredTable table => s!"could not find table '{table}'"
  | undeclaredColumn table column => s!"table '{table}' declares no column '{column}'"
  | unknownColumn table column => s!"table '{table}' has no column named '{column}'"
  | mismatchedKey table => s!"the sides of a foreign key on table '{table}' do not match"
  | namelessColumn table => s!"table '{table}' has a column without a name"
  | unusableDefault column value =>
    s!"column '{column}' cannot have the engine fill in {value.quoted}"
  | duplicateColumn table column => s!"table '{table}' already has a column '{column}'"
  | duplicateTable table => s!"table '{table}' is already declared"

/-! ## Particulars -/

/-- The particulars of a given up migration. -/
structure MigrationDetails where
  hook : Value := .null
  fromVersion : Value := .null
  toVersion : Value := .null

/-- The particulars as named values. -/
def MigrationDetails.toList (details : MigrationDetails) : List (String × Value) :=
  [("hook", details.hook), ("from_version", details.fromVersion),
    ("to_version", details.toVersion)]

/-- The structured description of a given up migration. -/
def MigrationDetails.response (details : MigrationDetails) (message : String) : Value :=
  .object [("error", .text "MIGRATION_FAILED"), ("message", .text message),
    ("details", .object details.toList)]

/-- The particulars of a fault that gives up a migration. -/
def migrationDetails? : Fault → Option MigrationDetails
  | reported .migration _ => some {}
  | versionTooLow version => some { toVersion := version }
  | hookFailed hook stored target _ =>
    some { hook := .text hook.name, fromVersion := .int stored, toVersion := target }
  | _ => none

/-- The particulars of a fault as named values. -/
def details : Fault → List (String × Value)
  | reported .configuration _ => [("key", .null)]
  | reported .compilation _ => [("statement", .null)]
  | reported .schema _ => [("table", .null)]
  | invalidEnvironment _ => [("key", .null)]
  | notFlag key _ => [("key", .text key)]
  | noTable _ => [("key", .text "table_name")]
  | unbound _ => [("key", .text "database")]
  | emptyRecord command table => [("statement", .text command), ("table", .text table)]
  | emptyFields table | emptyRows table =>
    [("statement", .text "INSERT"), ("table", .text table)]
  | rowLength .. => [("statement", .text "INSERT")]
  | noLiteral _ | tableWithoutColumns _ => [("statement", .text "CREATE TABLE")]
  | indexWithoutColumns .. => [("statement", .text "INDEX")]
  | incompleteForeignKey => [("statement", .text "CONSTRAINT")]
  | openFailed database _ => [("name", .text database)]
  | statementFailed position statement _ =>
    [("index", .int position), ("sql", .text statement.sql), ("params", .list statement.params)]
  | noSource table | noDestination table => [("table", .text table)]
  | nothingShared _ target => [("table", .text target)]
  | fault => (fault.migrationDetails?.map MigrationDetails.toList).getD []

end Fault

end SqlAccess
