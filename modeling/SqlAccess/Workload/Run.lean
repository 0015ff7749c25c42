import SqlAccess.Workload.World

/-!
# Running workloads

What each task does, and how operations are run.
-/

namespace SqlAccess.Workload

/-! ## Cursors -/

/-- Does what is asked of a cursor. -/
def CursorTask.run (cursor : Cursor Value) : CursorTask → Action World Answer
  | query => return .query cursor.query
  | table => return .text cursor.table
  | describe => do return .text (← cursor.describe)
  | statement => do return .statement (← cursor.statement)
  | get none => do return .ofList .value (← cursor.get)
  | get (some shape) => do return .ofList .value (← (cursor.withForm shape.form).get)
  | first none => do return .ofOption .value (← cursor.first)
  | first (some shape) => do return .ofOption .value (← (cursor.withForm shape.form).first)
  | insert record => do return .ofOption .number (← cursor.insert record)
  | insertMany fields rows => do return .outcome (← cursor.insertMany fields rows)
  | update record => do return .number (← cursor.update record)
  | delete => do return .number (← cursor.delete)

/-- Answers what is asked of the thing that a cursor was left for. -/
def Departure.answer (departure : Departure) (cursor : Cursor Value) (next : Option Invocation)
    (task : CursorTask) : Except Fault Answer := do
  let holding? ←
    match departure with
    | statement => do pure (some (Holding.statement (← cursor.statement)))
    | pending => pure none
  match next, task, holding? with
  | some call, _, _ => throw (departure.interface.refusal call)
  | none, .describe, some holding => return .text (← holding.describe)
  | none, task, _ => throw (.unknownCall departure.interface.owner task.name)

/-- Builds a cursor by steps, and does what is asked of it. -/
def CursorTask.runAfter {α : Type} (cursor : Cursor α) (steps : List CursorStep)
    (task : CursorTask) : Action World Answer := do
  let cursor ← (cursor.withForm (CursorStep.shape steps).form).refineAll
    (CursorStep.refinements steps)
  match CursorStep.departure? steps with
  | none => task.run cursor
  | some (departure, next) => departure.answer cursor next task

/-! ## Schemas and catalogs -/

/-- Does what is asked about the schema. -/
def SchemaTask.run (database : Database) : SchemaTask → Action World Answer
  | build source => do return .table (← source.table)
  | create source => do return .table (← database.create (← source.table))
  | alter source => do return .table (← database.alter (← source.table))
  | createOrAlter source => do return .table (← database.createOrAlter (← source.table))
  | drop table => do
    database.drop table
    return .nothing
  | duplicate source target => do
    database.duplicate source target
    return .nothing
  | copyRows source target => do return .outcome (← database.copyRows source target)

/-- Answers a question about the catalog. -/
def CatalogTask.run (database : Database) : CatalogTask → Action World Answer
  | hasTable table => do return .flag (← database.hasTable table)
  | tableNames => do return .ofList .value (← database.tableNames)
  | columnInfos table => do return .ofList .columnInfo (← database.columnInfos table)
  | columnNames table => do return .ofList .text (← database.columnNames table)
  | foreignKeyInfos table => do return .ofList .foreignKeyInfo (← database.foreignKeyInfos table)
  | indexInfos table => do return .ofList .indexInfo (← database.indexInfos table)
  | missingColumns description => do
    let table ← (Table.reader description).toExcept
    return .ofList .column (← database.missingColumns table)

/-! ## Entities -/

/-- The query of a description; without one it is the query for everything. -/
def queryOf : Option Value → Except Fault Query
  | none => .ok {}
  | some description => (Query.reader description).toExcept

/-- Does what is asked of an entity. -/
def EntityTask.run (entity : Entity) : EntityTask → Action World Answer
  | create record => do return .ofOption .item (← entity.create record)
  | update record => do return .ofOption .item (← entity.update record)
  | query description => do return .ofList .item (← entity.query (← queryOf description))
  | instantiate fields => do return .item (← entity.instantiate fields)
  | statement steps => do
    let cursor ← entity.cursor
    CursorTask.statement.runAfter cursor steps
  | findBy column operator value => do
    return .ofOption .item (← entity.findBy column operator value)
  | find key => do return .ofOption .item (← entity.find key)
  | first => do return .ofOption .item (← entity.first)
  | last => do return .ofOption .item (← entity.last)
  | count => do return .number (← entity.count)
  | all => do return .ofList .item (← entity.all)
  | destroy key => do return .number (← entity.destroy key)
  | destroyAll => do return .number (← entity.destroyAll)
  | refused call => throw (EntityTask.refusal entity.name call)

/-- The entity of a name, which has to exist. -/
def entityOf (name : String) : Action World Entity := do
  match (← Action.outside).family.entity? name with
  | some entity => return entity
  | none => throw (.missingKey (.text name))

/-- What a variable holds, which has to be there. -/
def holdingOf (slot : String) : Action World Holding := do
  match (← Action.outside).holding? slot with
  | some holding => return holding
  | none => throw (.missingKey (.text slot))

/-- Does what is asked of what a variable holds. -/
def InstanceTask.run (slot : String) (holding : Holding) : InstanceTask → Action World Answer
  | set field value => do
    let item ← holding.set field value
    Action.modifyOutside fun world => world.setVariable slot (.item item)
    return .item item
  | save => do
    let item ← holding.instanceFor "save"
    let entity ← entityOf item.entity
    let (stored, item) ← entity.save item
    Action.modifyOutside fun world => world.setVariable slot (.item item)
    return .list [.ofOption .item stored, .item item]
  | destroy => do
    let item ← holding.instanceFor "destroy_instance"
    let entity ← entityOf item.entity
    return .number (← entity.destroyInstance item)
  | record => do
    let item ← holding.instanceFor "to_record"
    let record ← item.record
    return .value (.object record.entries)
  | describe => do return .text (← holding.describe)
  | same other => do
    let second ← holdingOf other
    if slot = other then return .flag (← holding.sameAsItself)
    else return .flag (← holding.same second)

/-! ## Tasks -/

/-- Does a task. -/
def Task.run (database : Database) : Task → Action World Answer
  | connect => do return .connection (← database.connection)
  | close => do
    database.close
    return .nothing
  | closeAll => do
    Action.closedAll
    return .nothing
  | connection name => do return .connection (← Action.connection name)
  | registry names => do
    let registry ← Action.registry
    return .list [.ofList .text registry.names, .number registry.connections.length,
      .ofList (fun name => .flag (registry.contains name)) names,
      .ofList .connection registry.connections, .config registry.config]
  | .database => do
    return .list [.text database.name, .flag (← database.isOpen), .text database.describe]
  | execute sql params => do
    let statement ← Statement.withParams sql params
    return .outcome (← database.execute statement)
  | batch requests => do
    let statements : List Statement ←
      (requests.mapM fun request => Statement.withParams request.1 request.2 :
        Except Fault (List Statement))
    return .ofList .outcome (← database.executeAll statements)
  | cursor table steps task => task.runAfter (database.table table) steps
  | schema task => task.run database
  | catalog task => task.run database
  | version => do return .number (← database.version)
  | setVersion number => do
    database.setVersion number
    return .nothing
  | fail fault => throw fault
  | bind name => do
    let _ ← entityOf name
    Action.modifyOutside fun world => { world with family := world.family.bind name database }
    return .nothing
  | entity name task slot => do
    let answer ← task.run (← entityOf name)
    if let (some slot, some holding) := (slot, answer.holding?) then
      Action.modifyOutside fun world => world.setVariable slot holding
    return answer
  | item slot task => do task.run slot (← holdingOf slot)

/-! ## Operations -/

/-- Puts a note into the journal. -/
def note (note : Note) : Action World Unit :=
  Action.modifyOutside fun world => world.note note

mutual

/-- Runs an operation. -/
def Operation.run (database : Database) : Operation → Action World Answer
  | .task task => task.run database
  | .gather operations => do return .results (← runGathered operations)
  | .migrate target hooks => do
    let migration ← Migration.ofHooks (hookOf hooks)
    return .state (← database.migrate migration target)

/-- Runs operations that were started together. -/
def runGathered : List (Database × Operation) → Action World (List (Except Fault Answer))
  | [] => pure []
  | (database, operation) :: operations => do
    let result ← (operation.run database).attempt
    let results ← runGathered operations
    return result :: results

/-- What the hooks of a migration do: a hook that is called is noted, and then
its operations are run. -/
def hookOf : List (Hook × List (Database × Operation)) → Hook →
    Option (Versions → Action World Unit)
  | [], _ => none
  | (name, operations) :: hooks, hook =>
    if name = hook then
      some fun versions => do
        note (.hook hook (hook.arguments versions))
        runNoted operations
    else hookOf hooks hook

/-- Runs the operations of a hook, up to the first one that fails; what they
give is noted. -/
def runNoted : List (Database × Operation) → Action World Unit
  | [] => pure ()
  | (database, operation) :: operations => do
    let answer ← operation.run database
    note (.answer answer)
    runNoted operations

end

end SqlAccess.Workload
