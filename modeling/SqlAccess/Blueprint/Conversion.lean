import SqlAccess.Blueprint
import SqlAccess.Table
import SqlAccess.Fault
import SqlAccess.Sorting

/-!
# From a blueprint to tables

Each table of a blueprint becomes a declared table.  A primary key of a single
column becomes that column's, a primary key of several columns is not carried
over, and of the defaults only constants are.  Foreign keys are ordered by the
keys of their columns and indexes by name, so that their order in the blueprint
does not show.

The tables of a whole blueprint are listed by rounds (`dependencyOrder`): each
round takes, in the order of their names, all tables that refer only to
themselves and to tables of earlier rounds.
-/

namespace SqlAccess.Blueprint

/-! ## Resolving references -/

/-- The table that a target names. -/
def Target.resolveTable (tables : List Table) (target : Target) : Except Fault Table :=
  match table? tables target.table with
  | some table => .ok table
  | none => .error (.undeclaredTable target.table)

/-- The column that a target names. -/
def Target.resolve (tables : List Table) (source : String) (target : Target) :
    Except Fault Column := do
  let table ← target.resolveTable tables
  let key := target.column.getD source
  match table.column? key with
  | some column => return column
  | none => throw (.undeclaredColumn table.name key)

/-- The columns that a foreign key refers to. -/
def ForeignKey.resolve (tables : List Table) (key : ForeignKey) : Except Fault (List Column) :=
  (key.columns.zip key.targets).mapM fun (source, target) => target.resolve tables source

/-- The table that a foreign key refers to: that of its first column, which has
to be declared. -/
def ForeignKey.referredTable (tables : List Table) (key : ForeignKey) :
    Except Fault (Option String) :=
  match key.columns.zip key.targets with
  | [] => .ok none
  | (source, target) :: _ => do
    let _ ← target.resolve tables source
    return some target.table

/-! ## Converting a table -/

/-- The declared column of a column. -/
def Table.convertColumn (table : Table) (column : Column) : Except Fault SqlAccess.Column := do
  let alone := table.primaryKey.length == 1 && column.primaryKey
  return { name := column.name
           type := ← column.type.sql
           primaryKey := alone
           autoIncrement := table.autoIncrement && alone
           nullable := column.isNullable
           default := column.constantDefault }

/-- The declared foreign key of a foreign key: its own columns by key, the ones
it refers to by name. -/
def ForeignKey.convert (tables : List Table) (key : ForeignKey) :
    Except Fault SqlAccess.ForeignKey := do
  let table ← key.referredTable tables
  let referred ← key.resolve tables
  return { columns := key.columns
           table := table
           references := referred.map Column.name
           onDelete := key.onDelete }

/-- The declared index of an index: its columns by name, each of them once. -/
def Table.convertIndex (table : Table) (index : Index) : SqlAccess.Index :=
  { name := table.indexName index
    table := table.name
    unique := index.unique
    columns := (index.columns.filterMap fun key => (table.column? key).map Column.name).eraseDups }

/-- The declared table of a table. -/
def Table.convert (tables : List Table) (table : Table) : Except Fault SqlAccess.Table := do
  let columns ← table.columns.mapM table.convertColumn
  let foreignKeys ← (sortedBy ForeignKey.columns table.allForeignKeys).mapM
    (ForeignKey.convert tables)
  return { name := table.name
           columns := columns
           foreignKeys := foreignKeys
           indexes := sortedBy SqlAccess.Index.name (table.allIndexes.map table.convertIndex) }

/-! ## Well-formed blueprints -/

/-- Checks what a column says of itself: its type takes its arguments, and the
default that the engine fills in is a text. -/
def Column.check (column : Column) : Except Fault Unit := do
  column.type.check
  match column.engineDefault with
  | .none | .computed | .constant (.text _) => return
  | .constant value => throw (.unusableDefault column.name value)

/-- Checks that no columns share a key or a name, and that all of them have a
name; `earlier` are the ones that are already checked. -/
def Table.checkColumns (table : Table) (earlier : List Column) : List Column → Except Fault Unit
  | [] => .ok ()
  | column :: columns => do
    if column.name = "" then throw (.namelessColumn table.name)
    if earlier.any fun other => other.key == column.key || other.name == column.name then
      throw (.duplicateColumn table.name column.name)
    checkColumns table (earlier ++ [column]) columns

/-- The first of the keys under which a table has no column. -/
def Table.unknownKey? (table : Table) (keys : List String) : Option String :=
  keys.find? fun key => (table.column? key).isNone

/-- Checks that a foreign key has as many targets as columns. -/
def Table.checkSides (table : Table) (key : ForeignKey) : Except Fault Unit :=
  if key.columns.length = key.targets.length then .ok () else .error (.mismatchedKey table.name)

/-- Checks a foreign key: its columns exist, and all of its targets are in one
table. -/
def Table.checkForeignKey (table : Table) (key : ForeignKey) : Except Fault Unit := do
  if let some unknown := table.unknownKey? key.columns then
    throw (.unknownColumn table.name unknown)
  let tables := key.targets.map Target.table
  if tables.any fun name => some name ≠ tables.head? then throw (.mismatchedKey table.name)

/-- Checks an index: its columns exist. -/
def Table.checkIndex (table : Table) (index : Index) : Except Fault Unit :=
  match table.unknownKey? index.columns with
  | some unknown => .error (.unknownColumn table.name unknown)
  | none => .ok ()

/-- Adds a table to those that are already checked, after checking what can be
said of it by itself.  A name is given away once; saying it again without saying
more changes nothing. -/
def addChecked (checked : List Table) (table : Table) : Except Fault (List Table) := do
  table.columns.forM Column.check
  table.foreignKeys.forM table.checkSides
  if (table? checked table.name).isSome then
    if table.isBare then return checked else throw (.duplicateTable table.name)
  table.checkColumns [] table.columns
  table.foreignKeys.forM table.checkForeignKey
  table.indexes.forM table.checkIndex
  return checked ++ [table]

/-- The tables of a blueprint, checked one after the other. -/
def check (tables : List Table) : Except Fault (List Table) :=
  tables.foldlM addChecked []

/-! ## Dependency order -/

/-- Which tables a table has to come after: those it refers to, itself left out. -/
abbrev Dependencies := List (String × List String)

/-- The dependencies of a blueprint. -/
def dependencies (tables : List Table) : Except Fault Dependencies :=
  (sortedBy Table.name tables).mapM fun table => do
    let referred ← table.allForeignKeys.mapM (ForeignKey.referredTable tables)
    return (table.name, (referred.filterMap id).filter (· ≠ table.name))

/-- The names by rounds: each round takes the names that depend on no name that
is left.  There is no order when a round takes nothing.  `fuel` bounds the
number of rounds. -/
def rounds : Nat → Dependencies → Option (List String)
  | 0, left => if left.isEmpty then some [] else none
  | fuel + 1, left =>
    let names := left.map Prod.fst
    let isReady := fun entry : String × List String => entry.2.all fun name => !names.contains name
    match left.filter isReady with
    | [] => if left.isEmpty then some [] else none
    | ready =>
      (rounds fuel (left.filter fun entry => !isReady entry)).map (ready.map Prod.fst ++ ·)

/-- The names that can be reached from `names` by going back `fuel` dependencies. -/
def reachable (order : Dependencies) : Nat → List String → List String
  | 0, names => names
  | fuel + 1, names =>
    reachable order fuel
      (names ++ names.flatMap fun name => (order.lookup name).getD []).eraseDups

/-- Frees the names that depend on themselves through others from all of their
dependencies. -/
def withoutCycles (order : Dependencies) : Dependencies :=
  order.map fun (name, needed) =>
    if (reachable order order.length needed).contains name then (name, []) else (name, needed)

/-- The names in dependency order; tables on a cycle count as independent. -/
def dependencyOrder (order : Dependencies) : List String :=
  match rounds order.length order with
  | some names => names
  | none => (rounds order.length (withoutCycles order)).getD (order.map Prod.fst)

/-- The declared tables of a blueprint, in dependency order. -/
def convertAll (tables : List Table) : Except Fault (List SqlAccess.Table) := do
  let tables ← check tables
  let order ← dependencies tables
  ((dependencyOrder order).filterMap (table? tables)).mapM (Table.convert tables)

/-- The declared table of the table of a name. -/
def convertOne (tables : List Table) (name : String) : Except Fault SqlAccess.Table := do
  let tables ← check tables
  match table? tables name with
  | some table => table.convert tables
  | none => throw (.missingKey (.text name))

end SqlAccess.Blueprint
