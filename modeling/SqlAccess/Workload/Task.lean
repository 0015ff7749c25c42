import SqlAccess.Catalog
import SqlAccess.Cursor
import SqlAccess.Entity.Finding
import SqlAccess.Entity.Saving
import SqlAccess.Migration
import SqlAccess.Query.Script
import SqlAccess.Schema
import SqlAccess.Schema.Copy
import SqlAccess.Table.Script
import SqlAccess.Workload.Holding

/-!
# Tasks and operations

Everything that can be asked of this library, as data.  A task is a single
request.  An operation is a task, a number of operations that are started
together, or a migration whose hooks are lists of operations.

Descriptions of tables and queries are part of a task as they are given, so
that checking them is part of doing the task.
-/

namespace SqlAccess.Workload

/-! ## Cursors -/

/-- What rows are reduced to. -/
inductive Shape where
  /-- The rows as they are. -/
  | whole
  /-- The value under a key. -/
  | value (key : Value)
  /-- The values under some keys. -/
  | values (keys : List Value)
  deriving Repr

/-- The shape that a value describes: a key to pick, or a list of them; anything
else leaves rows as they are. -/
def Shape.ofValue : Value → Shape
  | .object entries =>
    match entries.lookup "pick" with
    | some (.list keys) => values keys
    | some key => value key
    | none => whole
  | _ => whole

/-- Reduces a row to its shape. -/
def Shape.form : Shape → Row → Except Fault Value
  | whole, row => .ok (.object row.entries)
  | value key, row => row.pick key
  | values keys, row => do return .list (← keys.mapM row.pick)

/-- What is there in place of a cursor once it was asked for something else than to
be refined. -/
inductive Departure where
  /-- The statement of the cursor. -/
  | statement
  /-- A request to the engine that was not made yet. -/
  | pending
  deriving DecidableEq, Repr

namespace Departure

/-- What takes the place of a cursor that is asked for something by name. -/
def ofName? : String → Option Departure
  | "compile" => some statement
  | "get" | "first" | "insert" | "insert_many" | "update" | "delete" => some pending
  | _ => none

/-- What can still be asked for. -/
def interface : Departure → Interface
  | statement => {
      owner := "StatementRequest"
      calls := []
      parts := [("sql", "str"), ("params", "tuple"), ("placeholder_count", "int")] }
  | pending => { owner := "coroutine", calls := [] }

end Departure

/-- A step in building a cursor. -/
inductive CursorStep where
  /-- Refines the query. -/
  | refine (step : Refinement)
  /-- Sets what rows are reduced to. -/
  | form (shape : Shape)
  /-- Leaves the cursor for something else, of which the next call is wanted. -/
  | leave (departure : Departure) (next : Option Invocation)

namespace CursorStep

/-- The step that a call asks for. -/
def ofInvocation (call : Invocation) : CursorStep :=
  match call.name, call.args with
  | "row_factory", [factory] => form (Shape.ofValue factory)
  | _, _ => refine (Refinement.ofInvocation call)

/-- The steps that calls ask for.  There are none after the cursor was left. -/
def ofInvocations : List Invocation → List CursorStep
  | [] => []
  | call :: calls =>
    match Departure.ofName? call.name, Refinement.interface.answers call with
    | some departure, true => [leave departure calls.head?]
    | _, _ => ofInvocation call :: ofInvocations calls

/-- The refinements among steps. -/
def refinements (steps : List CursorStep) : List Refinement :=
  steps.filterMap fun
    | refine step => some step
    | _ => none

/-- The shape that was set last. -/
def shape (steps : List CursorStep) : Shape :=
  steps.foldl (fun last => fun
    | form shape => shape
    | _ => last) .whole

/-- What the cursor was left for, and the call that is wanted of it. -/
def departure? (steps : List CursorStep) : Option (Departure × Option Invocation) :=
  steps.findSome? fun
    | leave departure next => some (departure, next)
    | _ => none

end CursorStep

/-- What is asked of a cursor. -/
inductive CursorTask where
  /-- Its query. -/
  | query
  /-- The name of its table. -/
  | table
  /-- The text that describes it. -/
  | describe
  /-- Its statement. -/
  | statement
  /-- Its rows, in a shape of their own if there is one. -/
  | get (shape : Option Shape)
  /-- Its first row, in a shape of its own if there is one. -/
  | first (shape : Option Shape)
  /-- To insert a record. -/
  | insert (record : Record)
  /-- To insert rows. -/
  | insertMany (fields rows : Value)
  /-- To update rows. -/
  | update (record : Record)
  /-- To delete rows. -/
  | delete

/-- The name under which something is asked of a cursor. -/
def CursorTask.name : CursorTask → String
  | query => "spec"
  | table => "table"
  | describe => "__repr__"
  | statement => "compile"
  | get _ => "get"
  | first _ => "first"
  | insert _ => "insert"
  | insertMany _ _ => "insert_many"
  | update _ => "update"
  | delete => "delete"

/-! ## Schemas -/

/-- Where a table comes from. -/
inductive TableSource where
  /-- From a script of steps, each with the steps on the part that it adds. -/
  | scripted (name : Value) (script : List (Step × List Step))
  /-- From a description. -/
  | described (description : Value)

/-- The table that a source gives. -/
def TableSource.table : TableSource → Except Fault Table
  | scripted name script => Table.scripted name script
  | described description => (Table.reader description).toExcept

/-- A request that concerns the schema. -/
inductive SchemaTask where
  | build (source : TableSource)
  | create (source : TableSource)
  | alter (source : TableSource)
  | createOrAlter (source : TableSource)
  | drop (table : String)
  | duplicate (source target : String)
  | copyRows (source target : String)

/-- A question about the catalog. -/
inductive CatalogTask where
  | hasTable (table : String)
  | tableNames
  | columnInfos (table : String)
  | columnNames (table : String)
  | foreignKeyInfos (table : String)
  | indexInfos (table : String)
  | missingColumns (description : Value)

/-! ## Entities -/

/-- A request to an entity. -/
inductive EntityTask where
  | create (record : Record)
  | update (record : Record)
  | query (description : Option Value)
  | instantiate (fields : Row)
  | statement (steps : List CursorStep)
  | findBy (column operator value : Value)
  | find (key : Value)
  | first
  | last
  | count
  | all
  | destroy (key : Value)
  | destroyAll
  /-- A call that an entity does not answer. -/
  | refused (call : Invocation)

/-- What an entity can be asked for by name. -/
def EntityTask.interface : Interface where
  owner := "Model"
  calls := [("find_by", .of ["column", "op", "value"]), ("find", .of ["key"]),
    ("destroy", .of ["key"])]
    ++ ["first", "last", "count", "all", "destroy_all"].map fun name => (name, .none)

/-- Why the entity of a name does not answer a call. -/
def EntityTask.refusal (entity : String) (call : Invocation) : Fault :=
  if (interface.calls.lookup call.name).isSome then interface.refusal call
  else .unknownRequest entity call.name

/-- The request to an entity that a call asks for. -/
def EntityTask.ofInvocation (call : Invocation) : EntityTask :=
  match call.name, call.args with
  | "find_by", [column, operator, value] => findBy column operator value
  | "find", [key] => find key
  | "first", [] => first
  | "last", [] => last
  | "count", [] => count
  | "all", [] => all
  | "destroy", [key] => destroy key
  | "destroy_all", [] => destroyAll
  | _, _ => refused call

/-- A request to an instance. -/
inductive InstanceTask where
  | set (field : String) (value : Value)
  | save
  | destroy
  | record
  | describe
  /-- Whether it equals the instance in another variable. -/
  | same (other : String)

/-! ## Tasks and operations -/

/-- A single request to a database. -/
inductive Task where
  /-- To open the database. -/
  | connect
  /-- To close the database. -/
  | close
  /-- To close all databases. -/
  | closeAll
  /-- The connection of a name. -/
  | connection (name : String)
  /-- The registry, and which of some names it has. -/
  | registry (names : List String)
  /-- The database itself. -/
  | database
  /-- To run a statement. -/
  | execute (sql : String) (params : Value)
  /-- To run statements as one transaction. -/
  | batch (requests : List (String × Value))
  /-- Something about a cursor. -/
  | cursor (table : String) (steps : List CursorStep) (task : CursorTask)
  /-- Something about the schema. -/
  | schema (task : SchemaTask)
  /-- Something about the catalog. -/
  | catalog (task : CatalogTask)
  /-- The stored version. -/
  | version
  /-- To store a version. -/
  | setVersion (version : Value)
  /-- To fail. -/
  | fail (fault : Fault)
  /-- To bind an entity to the database. -/
  | bind (entity : String)
  /-- Something about an entity; what it gives is put into a variable, if one is
  named. -/
  | entity (name : String) (task : EntityTask) (slot : Option String)
  /-- Something about what is in a variable. -/
  | item (slot : String) (task : InstanceTask)

/-- An operation on a database. -/
inductive Operation where
  /-- A single request. -/
  | task (task : Task)
  /-- Operations on databases that are started together.  They queue up in
  order, and one that fails does not keep the others from running. -/
  | gather (operations : List (Database × Operation))
  /-- A migration whose hooks are lists of operations on databases. -/
  | migrate (target : Value) (hooks : List (Hook × List (Database × Operation)))

/-! ## Answers -/

/-- What an operation gives. -/
inductive Answer where
  | value (value : Value)
  | outcome (outcome : Outcome)
  | connection (connection : Connection)
  | config (config : Config)
  | query (query : Query)
  | statement (statement : Statement)
  | table (table : Table)
  | column (column : Column)
  | columnInfo (info : ColumnInfo)
  | foreignKeyInfo (info : ForeignKeyInfo)
  | indexInfo (info : IndexInfo)
  | state (state : SchemaState)
  | item (item : Instance)
  | list (answers : List Answer)
  | results (results : List (Except Fault Answer))

namespace Answer

/-- The answer that says nothing. -/
def nothing : Answer := value .null

/-- A text as an answer. -/
def text (content : String) : Answer := value (.text content)

/-- A truth value as an answer. -/
def flag (flag : Bool) : Answer := value (.bool flag)

/-- A number as an answer. -/
def number (number : Int) : Answer := value (.int number)

/-- The answer that an optional value gives. -/
def ofOption {α : Type} (encode : α → Answer) : Option α → Answer
  | some a => encode a
  | none => nothing

/-- The answer that a list gives. -/
def ofList {α : Type} (encode : α → Answer) (items : List α) : Answer :=
  list (items.map encode)

/-- What a variable holds of an answer. -/
def holding? : Answer → Option Holding
  | value v => some (.value v)
  | item i => some (.item i)
  | statement s => some (.statement s)
  | list answers => some (.items (answers.filterMap fun
    | item i => some i
    | _ => none))
  | _ => none

end Answer

end SqlAccess.Workload
