import SqlAccess.Proofs.Action.Accounts
import SqlAccess.Proofs.Fault.Library

/-!
# The library accounts for all failures

Whatever is asked of a database, a cursor or an entity accounts for the failures of its
requests to the engine, and passes none of them on as it is: a fault that an operation
ends with is no error of the engine, and has the last failure among its causes.  Only
closing is not said here, since it passes failures on (`passesOn_closed`).

The proofs follow the definitions: a request is a sequence of batches, and what is
worked out between them fails with faults of the library's own.
-/

namespace SqlAccess

open SqlAccess.Action Fault

variable {ω α : Type} [Engine ω] {told : ω → List Fault} {own : Fault → Prop}

section

variable (hrecords : Records told) (hown : ∀ fault, NotEngine fault → own fault)

include hrecords hown

namespace Database

variable (database : Database)

omit hown in
theorem accounts_connection :
    Accounts told own NotEngine (database.connection : Action ω Connection) := by
  have hopened := accounts_opened hrecords database.name
  exact accounts_bind (hopened.mono (fun _ => False.elim) fun _ h => h) fun _ =>
    Action.accounts_connection _

/-! ## Statements -/

omit hown in
theorem accounts_executeAll (statements : List Statement) :
    Accounts told own NotEngine (database.executeAll statements : Action ω (List Outcome)) :=
  (accounts_runBatch hrecords database.name statements).mono (fun _ => False.elim) fun _ h => h

omit hown in
theorem accounts_execute (statement : Statement) :
    Accounts told own NotEngine (database.execute statement : Action ω Outcome) :=
  accounts_bind (database.accounts_executeAll hrecords _) fun _ => accounts_pure _

omit hown in
theorem accounts_rows (statement : Statement) :
    Accounts told own NotEngine (database.rows statement : Action ω (List Row)) :=
  accounts_bind (database.accounts_execute hrecords _) fun _ => accounts_pure _

/-! ## The catalog -/

theorem accounts_hasTable (table : String) :
    Accounts told own NotEngine (database.hasTable table : Action ω Bool) := by
  refine accounts_bind (database.accounts_rows hrecords _) fun rows => ?_
  cases rows with
  | nil => exact accounts_pure false
  | cons row rows =>
      exact accounts_bind (accounts_lift (Row.failsOnly_lookup hown row _)) fun value =>
        accounts_lift (Value.failsOnly_greaterThan hown value 0)

theorem accounts_tableNames :
    Accounts told own NotEngine (database.tableNames : Action ω (List Value)) :=
  accounts_bind (database.accounts_rows hrecords _) fun rows =>
    accounts_lift (Row.failsOnly_column hown _ rows)

theorem accounts_columnInfos (table : String) :
    Accounts told own NotEngine (database.columnInfos table : Action ω (List ColumnInfo)) :=
  accounts_bind (database.accounts_rows hrecords _) fun rows =>
    accounts_lift (ColumnInfo.failsOnly_ofRows hown rows)

theorem accounts_columnNames (table : String) :
    Accounts told own NotEngine (database.columnNames table : Action ω (List String)) :=
  accounts_bind (database.accounts_columnInfos hrecords hown table) fun _ => accounts_pure _

theorem accounts_foreignKeyInfos (table : String) :
    Accounts told own NotEngine
      (database.foreignKeyInfos table : Action ω (List ForeignKeyInfo)) :=
  accounts_bind (database.accounts_rows hrecords _) fun rows =>
    accounts_lift (ForeignKeyInfo.failsOnly_ofRows hown rows)

theorem accounts_indexInfosOf (rows : List Row) :
    Accounts told own NotEngine (database.indexInfosOf rows : Action ω (List IndexInfo)) := by
  induction rows with
  | nil => exact accounts_pure []
  | cons row rows ih =>
      refine accounts_bind (accounts_lift (Row.failsOnly_lookup hown row _)) fun name => ?_
      refine accounts_bind (accounts_lift (name.failsOnly_checkWritable hown)) fun _ => ?_
      refine accounts_bind (database.accounts_rows hrecords _) fun details => ?_
      refine accounts_bind (accounts_lift (IndexInfo.failsOnly_ofRow hown row details)) fun _ => ?_
      exact accounts_bind ih fun _ => accounts_pure _

theorem accounts_indexInfos (table : String) :
    Accounts told own NotEngine (database.indexInfos table : Action ω (List IndexInfo)) :=
  accounts_bind (database.accounts_rows hrecords _) fun rows =>
    database.accounts_indexInfosOf hrecords hown rows

theorem accounts_missingColumns (table : Table) :
    Accounts told own NotEngine (database.missingColumns table : Action ω (List Column)) :=
  accounts_bind (database.accounts_columnNames hrecords hown _) fun _ => accounts_pure _

/-! ## The schema -/

theorem accounts_create (table : Table) :
    Accounts told own NotEngine (database.create table : Action ω Table) :=
  accounts_bind (accounts_lift (Table.failsOnly_creationStatements hown table)) fun _ =>
    accounts_bind (database.accounts_executeAll hrecords _) fun _ => accounts_pure _

theorem accounts_alter (table : Table) :
    Accounts told own NotEngine (database.alter table : Action ω Table) :=
  accounts_bind (database.accounts_missingColumns hrecords hown table) fun missing =>
    accounts_bind (accounts_lift (Table.failsOnly_alterationStatements hown table missing))
      fun _ => accounts_bind (database.accounts_executeAll hrecords _) fun _ => accounts_pure _

theorem accounts_createOrAlter (table : Table) :
    Accounts told own NotEngine (database.createOrAlter table : Action ω Table) :=
  accounts_bind (database.accounts_hasTable hrecords hown _) fun _ =>
    accounts_ite (database.accounts_alter hrecords hown table)
      (database.accounts_create hrecords hown table)

omit hown in
theorem accounts_drop (table : String) :
    Accounts told own NotEngine (database.drop table : Action ω Unit) :=
  accounts_bind (database.accounts_execute hrecords _) fun _ => accounts_pure _

theorem accounts_duplicate (source target : String) :
    Accounts told own NotEngine (database.duplicate source target : Action ω Unit) := by
  refine accounts_bind (database.accounts_hasTable hrecords hown source) fun _ =>
    accounts_guard (hown _ rfl) ?_
  refine accounts_bind (database.accounts_columnInfos hrecords hown source) fun _ => ?_
  refine accounts_bind (database.accounts_foreignKeyInfos hrecords hown source) fun _ => ?_
  refine accounts_bind (database.accounts_indexInfos hrecords hown source) fun _ => ?_
  refine accounts_bind (accounts_lift (failsOnly_copyStatements hown _ _ _ _)) fun _ => ?_
  exact accounts_bind (database.accounts_executeAll hrecords _) fun _ => accounts_pure _

theorem accounts_copyRows (source target : String) :
    Accounts told own NotEngine (database.copyRows source target : Action ω Outcome) := by
  refine accounts_bind (database.accounts_hasTable hrecords hown source) fun _ =>
    accounts_guard (hown _ rfl) ?_
  refine accounts_bind (database.accounts_hasTable hrecords hown target) fun _ =>
    accounts_guard (hown _ rfl) ?_
  refine accounts_bind (database.accounts_columnNames hrecords hown target) fun _ => ?_
  refine accounts_bind (database.accounts_columnNames hrecords hown source) fun _ => ?_
  split
  · exact accounts_throw (hown _ rfl)
  · exact database.accounts_execute hrecords _

/-! ## The version -/

theorem accounts_version : Accounts told own NotEngine (database.version : Action ω Int) :=
  accounts_bind (database.accounts_execute hrecords _) fun _ =>
    accounts_lift (failsOnly_versionOf hown _)

theorem accounts_setVersion (version : Value) :
    Accounts told own NotEngine (database.setVersion version : Action ω Unit) :=
  accounts_bind (accounts_lift (version.failsOnly_toInteger hown)) fun number =>
    accounts_bind (accounts_lift ((Value.int number).failsOnly_checkWritable hown)) fun _ =>
      accounts_bind (database.accounts_execute hrecords _) fun _ => accounts_pure _

/-- Whatever the hooks of a migration pass on, the migration accounts for it as a
failure of a hook. -/
theorem accounts_migrate {migration : Migration ω} (target : Value)
    (hhooks : ∀ hook versions,
      Accounts told (fun _ => True) (fun _ => True) (migration.run hook versions)) :
    Accounts told own NotEngine (database.migrate migration target : Action ω SchemaState) := by
  have hrunHooks : ∀ versions hooks,
      Accounts told own NotEngine (migration.runHooks versions hooks) := by
    intro versions hooks
    induction hooks with
    | nil => exact accounts_pure ()
    | cons hook hooks ih =>
        have htranslates := Migration.translates_hookFault hook versions
        exact accounts_bind (accounts_converting (hhooks hook versions)
          (fun fault _ => hown _ (htranslates.notEngine fault)) htranslates fun _ h => h)
          fun _ => ih
  refine accounts_bind (accounts_lift (failsOnly_checkTarget hown target)) fun _ => ?_
  refine accounts_bind (database.accounts_connection hrecords) fun _ => ?_
  refine accounts_bind (database.accounts_version hrecords hown) fun _ => ?_
  refine accounts_bind (hrunHooks _ _) fun _ => ?_
  refine accounts_bind (database.accounts_setVersion hrecords hown target) fun _ => ?_
  exact accounts_bind (hrunHooks _ _) fun _ => accounts_pure _

/-- Whatever its hooks do, a migration raises nothing but what an account allows. -/
theorem raisesOnly_migrate (migration : Migration ω) (target : Value) :
    RaisesOnly own (database.migrate migration target : Action ω SchemaState) := by
  have hraises : ∀ {β : Type} {action : Action ω β}, Accounts told own NotEngine action →
      RaisesOnly own action := fun haccounts => haccounts.raisesOnly (fun _ h => h) hown
  have hrunHooks : ∀ versions hooks, RaisesOnly own (migration.runHooks versions hooks) := by
    intro versions hooks
    induction hooks with
    | nil => exact fun _ => failsOnly_ok ()
    | cons hook hooks ih =>
        refine raisesOnly_bind (raisesOnly_converting fun fault => ?_) fun _ => ih
        exact hown _ ((Migration.translates_hookFault hook versions).notEngine fault)
  refine raisesOnly_bind (hraises (accounts_lift (failsOnly_checkTarget hown target))) fun _ => ?_
  refine raisesOnly_bind (hraises (database.accounts_connection hrecords)) fun _ => ?_
  refine raisesOnly_bind (hraises (database.accounts_version hrecords hown)) fun _ => ?_
  refine raisesOnly_bind (hrunHooks _ _) fun _ => ?_
  refine raisesOnly_bind (hraises (database.accounts_setVersion hrecords hown target)) fun _ => ?_
  exact raisesOnly_bind (hrunHooks _ _) fun _ _ => failsOnly_ok _

end Database

/-! ## Cursors -/

namespace Cursor

variable {cursor : Cursor α}

theorem accounts_get (hform : ∀ row, FailsOnly own (cursor.form row)) :
    Accounts told own NotEngine (cursor.get : Action ω (List α)) :=
  accounts_bind (accounts_lift (Statement.failsOnly_select hown _ _)) fun _ =>
    accounts_bind (cursor.database.accounts_rows hrecords _) fun _ =>
      accounts_lift (failsOnly_mapM hform)

theorem accounts_first (hform : ∀ row, FailsOnly own (cursor.form row)) :
    Accounts told own NotEngine (cursor.first : Action ω (Option α)) := by
  have hfirst : ∀ row, FailsOnly own (cursor.forFirst.form row) := by
    unfold forFirst
    split <;> exact hform
  exact accounts_bind (accounts_get hrecords hown hfirst) fun _ => accounts_pure _

theorem accounts_insert (record : Record) :
    Accounts told own NotEngine (cursor.insert record : Action ω (Option Int)) :=
  accounts_bind (accounts_lift (Statement.failsOnly_insert hown _ record)) fun _ =>
    accounts_bind (cursor.database.accounts_execute hrecords _) fun _ => accounts_pure _

theorem accounts_insertMany (fields rows : Value) :
    Accounts told own NotEngine (cursor.insertMany fields rows : Action ω Outcome) :=
  accounts_bind (accounts_lift (Statement.failsOnly_insertMany hown _ fields rows)) fun _ =>
    cursor.database.accounts_execute hrecords _

theorem accounts_update (record : Record) :
    Accounts told own NotEngine (cursor.update record : Action ω Nat) :=
  accounts_bind (accounts_lift (Statement.failsOnly_update hown _ record _ _)) fun _ =>
    accounts_bind (cursor.database.accounts_execute hrecords _) fun _ => accounts_pure _

omit hown in
theorem accounts_delete : Accounts told own NotEngine (cursor.delete : Action ω Nat) :=
  accounts_bind (cursor.database.accounts_execute hrecords _) fun _ => accounts_pure _

end Cursor

/-! ## Entities -/

namespace Entity

variable (entity : Entity)

omit [Engine ω] hrecords in
theorem accounts_bound :
    Accounts told own NotEngine (liftM entity.bound : Action ω Database) :=
  accounts_lift (entity.failsOnly_bound hown)

omit [Engine ω] hrecords in
/-- A cursor for the instances gives its rows the form of instances. -/
theorem accounts_cursor {query : Query} {next : Cursor Instance → Action ω α}
    (hnext : ∀ cursor : Cursor Instance, (∀ row, FailsOnly own (cursor.form row)) →
      Accounts told own NotEngine (next cursor)) :
    Accounts told own NotEngine
      ((liftM (entity.cursor query) : Action ω (Cursor Instance)) >>= next) := by
  refine accounts_bind_lift ?_ fun cursor hcursor => hnext cursor ?_
  · exact failsOnly_bind (entity.failsOnly_bound hown) fun _ => failsOnly_ok _
  · obtain ⟨database, -, h⟩ := exists_of_bind_eq_ok hcursor
    cases h
    exact entity.failsOnly_instantiate hown

theorem accounts_findWhere (column operator : String) (value : Value) :
    Accounts told own NotEngine
      (entity.findWhere column operator value : Action ω (Option Instance)) :=
  entity.accounts_cursor hown fun _ hform => Cursor.accounts_first hrecords hown hform

theorem accounts_findBy (column operator value : Value) :
    Accounts told own NotEngine
      (entity.findBy column operator value : Action ω (Option Instance)) :=
  accounts_bind (accounts_lift (Value.failsOnly_operator hown operator)) fun _ =>
    accounts_bind (entity.accounts_bound hown) fun _ =>
      accounts_bind (accounts_lift (column.failsOnly_checkWritable hown)) fun _ =>
        entity.accounts_findWhere hrecords hown _ _ _

theorem accounts_find (key : Value) :
    Accounts told own NotEngine (entity.find key : Action ω (Option Instance)) :=
  entity.accounts_findWhere hrecords hown _ _ _

theorem accounts_first :
    Accounts told own NotEngine (entity.first : Action ω (Option Instance)) :=
  entity.accounts_cursor hown fun _ hform => Cursor.accounts_first hrecords hown hform

theorem accounts_last :
    Accounts told own NotEngine (entity.last : Action ω (Option Instance)) :=
  entity.accounts_cursor hown fun _ hform => Cursor.accounts_first hrecords hown hform

theorem accounts_query (query : Query) :
    Accounts told own NotEngine (entity.query query : Action ω (List Instance)) :=
  entity.accounts_cursor hown fun _ hform => Cursor.accounts_get hrecords hown hform

theorem accounts_count : Accounts told own NotEngine (entity.count : Action ω Int) :=
  accounts_bind (entity.accounts_bound hown) fun database =>
    accounts_bind (database.accounts_execute hrecords _) fun _ =>
      accounts_lift (failsOnly_countOf hown _)

theorem accounts_create (record : Record) :
    Accounts told own NotEngine (entity.create record : Action ω (Option Instance)) := by
  refine accounts_bind (entity.accounts_bound hown) fun database =>
    accounts_bind (accounts_lift (Statement.failsOnly_insert hown _ record)) fun _ => ?_
  refine accounts_bind (database.accounts_execute hrecords _) fun outcome => ?_
  split
  · exact accounts_pure _
  · exact accounts_bind (accounts_lift (Record.failsOnly_items hown record)) fun _ =>
      entity.accounts_find hrecords hown _

theorem accounts_update (record : Record) :
    Accounts told own NotEngine (entity.update record : Action ω (Option Instance)) := by
  refine accounts_bind (accounts_lift (Record.failsOnly_items hown record)) fun items => ?_
  split
  · exact accounts_throw (hown _ rfl)
  · split
    · exact entity.accounts_find hrecords hown _
    · exact accounts_bind (entity.accounts_bound hown) fun database =>
        accounts_bind (database.accounts_execute hrecords _) fun _ =>
          entity.accounts_find hrecords hown _

theorem accounts_destroy (key : Value) :
    Accounts told own NotEngine (entity.destroy key : Action ω Nat) :=
  accounts_bind (entity.accounts_bound hown) fun database =>
    accounts_bind (database.accounts_execute hrecords _) fun _ => accounts_pure _

theorem accounts_destroyAll :
    Accounts told own NotEngine (entity.destroyAll : Action ω Nat) :=
  accounts_bind (entity.accounts_bound hown) fun database =>
    accounts_bind (database.accounts_execute hrecords _) fun _ => accounts_pure _

theorem accounts_save (item : Instance) :
    Accounts told own NotEngine (entity.save item : Action ω (Option Instance × Instance)) := by
  refine accounts_bind (accounts_lift (item.failsOnly_checkCall hown _)) fun _ =>
    accounts_bind (accounts_lift (item.failsOnly_record hown)) fun record => ?_
  refine accounts_ite (accounts_bind (entity.accounts_create hrecords hown _) fun stored => ?_)
    (accounts_bind (entity.accounts_update hrecords hown _) fun stored => ?_)
  all_goals
    cases stored with
    | none => exact accounts_pure _
    | some other =>
        exact accounts_bind (accounts_lift (other.failsOnly_record hown)) fun _ => accounts_pure _

theorem accounts_destroyInstance (item : Instance) :
    Accounts told own NotEngine (entity.destroyInstance item : Action ω Nat) :=
  accounts_bind (accounts_lift (item.failsOnly_checkCall hown _)) fun _ =>
    entity.accounts_destroy hrecords hown _

end Entity

end

end SqlAccess
