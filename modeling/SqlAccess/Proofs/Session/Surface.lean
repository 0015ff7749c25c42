import SqlAccess.Proofs.Session.Reach
import SqlAccess.Proofs.Statement.Plain

/-!
# The surface of the library

Everything that can be asked of a database, a cursor, an entity or the schema is
done by moves of a single database, and all the statements that it submits are plain.
So what these moves keep (`KeptOn`) is kept by every request to the database, whatever
it was asked for and however it ends.

The proofs follow the definitions: a request is a sequence of batches, and between
them values are looked up and converted, which may fail but changes nothing.
-/

namespace SqlAccess

variable {ω α : Type} [Engine ω]

/-- Client code that submits plain statements. -/
def Scope.plain (drifts : ω → ω → Prop) : Scope ω where
  submits _ _ statement := statement.IsPlain
  drifts := drifts

variable {drifts : ω → ω → Prop} {kept : Session ω → Prop}

open SqlAccess.Action

/-! ## Connections -/

/-- What is done with the database of a name keeps a property. -/
structure KeptOn (kept : Session ω → Prop) (database : String) : Prop where
  batch : ∀ statements : List Statement, (∀ statement ∈ statements, statement.IsPlain) →
    Keeps kept (runBatch database statements : Action ω (List Outcome))
  opening : Keeps kept (opened database : Action ω Handle)
  closing : Keeps kept (closed database : Action ω Unit)
  registering : Keeps kept (connection database : Action ω Connection)

theorem Stable.keptOn (hstable : Stable (Scope.plain drifts) kept) (database : String) :
    KeptOn kept database where
  batch _ hplain session h := hstable (.batch session hplain) h
  opening session h := hstable (.opening session database) h
  closing session h := hstable (.closing session database) h
  registering session h := hstable (.registering session database) h

theorem KeptOn.and {kept' : Session ω → Prop} {database : String} (h : KeptOn kept database)
    (h' : KeptOn kept' database) :
    KeptOn (fun session => kept session ∧ kept' session) database where
  batch statements hplain := (h.batch statements hplain).and (h'.batch statements hplain)
  opening := h.opening.and h'.opening
  closing := h.closing.and h'.closing
  registering := h.registering.and h'.registering

theorem keeps_closedAll (hkept : ∀ database, KeptOn kept database) :
    Keeps kept (closedAll : Action ω Unit) := by
  have hclosedEach : ∀ databases, Keeps kept (closedEach databases : Action ω Unit) := by
    intro databases
    induction databases with
    | nil => exact keeps_pure ()
    | cons database databases ih => exact keeps_bind (hkept database).closing fun _ => ih
  exact keeps_bind keeps_registry fun registry => hclosedEach registry.names

namespace Database

variable (database : Database) (hkept : KeptOn kept database.name)

include hkept

theorem keeps_connection : Keeps kept (database.connection : Action ω Connection) :=
  keeps_bind hkept.opening fun _ => hkept.registering

/-! ## Statements -/

theorem keeps_executeAll {statements : List Statement}
    (hplain : ∀ statement ∈ statements, statement.IsPlain) :
    Keeps kept (database.executeAll statements : Action ω (List Outcome)) :=
  hkept.batch statements hplain

theorem keeps_execute {statement : Statement} (hplain : statement.IsPlain) :
    Keeps kept (database.execute statement : Action ω Outcome) :=
  keeps_bind (database.keeps_executeAll hkept (by simpa using hplain)) fun _ => keeps_pure _

theorem keeps_rows {statement : Statement} (hplain : statement.IsPlain) :
    Keeps kept (database.rows statement : Action ω (List Row)) :=
  keeps_bind (database.keeps_execute hkept hplain) fun _ => keeps_pure _

/-! ## The catalog -/

theorem keeps_hasTable (table : String) :
    Keeps kept (database.hasTable table : Action ω Bool) := by
  refine keeps_bind (database.keeps_rows hkept (isPlain_tableCount table)) fun rows => ?_
  cases rows with
  | nil => exact keeps_pure false
  | cons row rows => exact keeps_bind (keeps_lift _) fun _ => keeps_lift _

theorem keeps_tableNames : Keeps kept (database.tableNames : Action ω (List Value)) :=
  keeps_bind (database.keeps_rows hkept isPlain_tableList) fun _ => keeps_lift _

theorem keeps_columnInfos (table : String) :
    Keeps kept (database.columnInfos table : Action ω (List ColumnInfo)) := by
  have hplain := isPlain_pragma (show Opens "PRAGMA table_info(" by decide) table
  exact keeps_bind (database.keeps_rows hkept hplain) fun _ => keeps_lift _

theorem keeps_columnNames (table : String) :
    Keeps kept (database.columnNames table : Action ω (List String)) :=
  keeps_bind (database.keeps_columnInfos hkept table) fun _ => keeps_pure _

theorem keeps_foreignKeyInfos (table : String) :
    Keeps kept (database.foreignKeyInfos table : Action ω (List ForeignKeyInfo)) := by
  have hplain := isPlain_pragma (show Opens "PRAGMA foreign_key_list(" by decide) table
  exact keeps_bind (database.keeps_rows hkept hplain) fun _ => keeps_lift _

theorem keeps_indexInfosOf (rows : List Row) :
    Keeps kept (database.indexInfosOf rows : Action ω (List IndexInfo)) := by
  induction rows with
  | nil => exact keeps_pure []
  | cons row rows ih =>
      refine keeps_bind (keeps_lift _) fun name => keeps_bind (keeps_lift _) fun _ => ?_
      have hplain := isPlain_pragma (show Opens "PRAGMA index_info(" by decide) name.display
      refine keeps_bind (database.keeps_rows hkept hplain) fun _ => ?_
      exact keeps_bind (keeps_lift _) fun _ => keeps_bind ih fun _ => keeps_pure _

theorem keeps_indexInfos (table : String) :
    Keeps kept (database.indexInfos table : Action ω (List IndexInfo)) := by
  have hplain := isPlain_pragma (show Opens "PRAGMA index_list(" by decide) table
  exact keeps_bind (database.keeps_rows hkept hplain) fun rows =>
    database.keeps_indexInfosOf hkept rows

theorem keeps_missingColumns (table : Table) :
    Keeps kept (database.missingColumns table : Action ω (List Column)) :=
  keeps_bind (database.keeps_columnNames hkept _) fun _ => keeps_pure _

/-! ## The schema -/

theorem keeps_create (table : Table) : Keeps kept (database.create table : Action ω Table) :=
  keeps_bind_lift fun _ hstatements =>
    keeps_bind (database.keeps_executeAll hkept (isPlain_creationStatements hstatements))
      fun _ => keeps_pure _

theorem keeps_alter (table : Table) : Keeps kept (database.alter table : Action ω Table) :=
  keeps_bind (database.keeps_missingColumns hkept table) fun _ =>
    keeps_bind_lift fun _ hstatements =>
      keeps_bind (database.keeps_executeAll hkept (isPlain_alterationStatements hstatements))
        fun _ => keeps_pure _

theorem keeps_createOrAlter (table : Table) :
    Keeps kept (database.createOrAlter table : Action ω Table) :=
  keeps_bind (database.keeps_hasTable hkept _) fun _ =>
    keeps_ite (database.keeps_alter hkept table) (database.keeps_create hkept table)

theorem keeps_drop (table : String) : Keeps kept (database.drop table : Action ω Unit) :=
  keeps_bind (database.keeps_execute hkept (isPlain_tableRemoval table)) fun _ => keeps_pure _

theorem keeps_duplicate (source target : String) :
    Keeps kept (database.duplicate source target : Action ω Unit) := by
  refine keeps_bind (database.keeps_hasTable hkept source) fun _ => keeps_guard ?_
  refine keeps_bind (database.keeps_columnInfos hkept source) fun _ => ?_
  refine keeps_bind (database.keeps_foreignKeyInfos hkept source) fun _ => ?_
  refine keeps_bind (database.keeps_indexInfos hkept source) fun _ => ?_
  refine keeps_bind_lift fun _ hstatements => ?_
  have hplain := isPlain_copyStatements hstatements
  exact keeps_bind (database.keeps_executeAll hkept hplain) fun _ => keeps_pure _

theorem keeps_copyRows (source target : String) :
    Keeps kept (database.copyRows source target : Action ω Outcome) := by
  refine keeps_bind (database.keeps_hasTable hkept source) fun _ => keeps_guard ?_
  refine keeps_bind (database.keeps_hasTable hkept target) fun _ => keeps_guard ?_
  refine keeps_bind (database.keeps_columnNames hkept target) fun targetColumns => ?_
  refine keeps_bind (database.keeps_columnNames hkept source) fun sourceColumns => ?_
  split
  · exact keeps_throw _
  · exact database.keeps_execute hkept (isPlain_copyRows _ _ _)

/-! ## The version -/

theorem keeps_version : Keeps kept (database.version : Action ω Int) :=
  keeps_bind (database.keeps_execute hkept isPlain_versionQuestion) fun _ => keeps_lift _

theorem keeps_setVersion (version : Value) :
    Keeps kept (database.setVersion version : Action ω Unit) :=
  keeps_bind (keeps_lift _) fun _ => keeps_bind (keeps_lift _) fun _ =>
    keeps_bind (database.keeps_execute hkept (isPlain_versionUpdate _)) fun _ => keeps_pure _

/-- A migration keeps what its hooks keep. -/
theorem keeps_migrate {migration : Migration ω} (target : Value)
    (hhooks : ∀ hook versions, Keeps kept (migration.run hook versions)) :
    Keeps kept (database.migrate migration target : Action ω SchemaState) := by
  have hrunHooks : ∀ versions hooks, Keeps kept (migration.runHooks versions hooks) := by
    intro versions hooks
    induction hooks with
    | nil => exact keeps_pure ()
    | cons hook hooks ih => exact keeps_bind (keeps_converting (hhooks hook versions)) fun _ => ih
  refine keeps_bind (keeps_lift _) fun _ => ?_
  refine keeps_bind (database.keeps_connection hkept) fun _ => ?_
  refine keeps_bind (database.keeps_version hkept) fun _ => ?_
  refine keeps_bind (hrunHooks _ _) fun _ => ?_
  refine keeps_bind (database.keeps_setVersion hkept target) fun _ => ?_
  exact keeps_bind (hrunHooks _ _) fun _ => keeps_pure _

end Database

/-! ## Cursors -/

namespace Cursor

theorem database_forFirst (cursor : Cursor α) : cursor.forFirst.database = cursor.database := by
  unfold forFirst
  split <;> rfl

variable (cursor : Cursor α) (hkept : KeptOn kept cursor.database.name)

include hkept

theorem keeps_get : Keeps kept (cursor.get : Action ω (List α)) :=
  keeps_bind_lift fun _ hstatement =>
    keeps_bind (cursor.database.keeps_rows hkept (isPlain_select hstatement)) fun _ =>
      keeps_lift _

theorem keeps_first : Keeps kept (cursor.first : Action ω (Option α)) := by
  have hfirst : KeptOn kept cursor.forFirst.database.name := by
    rw [cursor.database_forFirst]
    exact hkept
  exact keeps_bind (cursor.forFirst.keeps_get hfirst) fun _ => keeps_pure _

theorem keeps_insert (record : Record) :
    Keeps kept (cursor.insert record : Action ω (Option Int)) :=
  keeps_bind_lift fun _ hstatement =>
    keeps_bind (cursor.database.keeps_execute hkept (isPlain_insert hstatement)) fun _ =>
      keeps_pure _

theorem keeps_insertMany (fields rows : Value) :
    Keeps kept (cursor.insertMany fields rows : Action ω Outcome) :=
  keeps_bind_lift fun _ hstatement =>
    cursor.database.keeps_execute hkept (isPlain_insertMany hstatement)

theorem keeps_update (record : Record) : Keeps kept (cursor.update record : Action ω Nat) :=
  keeps_bind_lift fun _ hstatement =>
    keeps_bind (cursor.database.keeps_execute hkept (isPlain_update hstatement)) fun _ =>
      keeps_pure _

theorem keeps_delete : Keeps kept (cursor.delete : Action ω Nat) :=
  keeps_bind (cursor.database.keeps_execute hkept (isPlain_removal _ _ _)) fun _ =>
    keeps_pure _

end Cursor

/-! ## Entities -/

namespace Entity

theorem database_of_bound {entity : Entity} {database : Database}
    (h : entity.bound = .ok database) : entity.database = some database := by
  unfold bound at h
  split at h
  · cases h
  · split at h
    · rename_i found hfound
      rw [hfound, Except.ok.inj h]
    · cases h

theorem database_of_cursor {entity : Entity} {query : Query} {cursor : Cursor Instance}
    (h : entity.cursor query = .ok cursor) : entity.database = some cursor.database := by
  obtain ⟨database, hdatabase, hcursor⟩ := exists_of_bind_eq_ok h
  rw [database_of_bound hdatabase, ← Except.ok.inj hcursor]

variable (entity : Entity)
  (hkept : ∀ database, entity.database = some database → KeptOn kept database.name)

include hkept

theorem keeps_findWhere (column operator : String) (value : Value) :
    Keeps kept (entity.findWhere column operator value : Action ω (Option Instance)) :=
  keeps_bind_lift fun cursor hcursor =>
    cursor.keeps_first (hkept _ (database_of_cursor hcursor))

theorem keeps_findBy (column operator value : Value) :
    Keeps kept (entity.findBy column operator value : Action ω (Option Instance)) :=
  keeps_bind (keeps_lift _) fun _ => keeps_bind (keeps_lift _) fun _ =>
    keeps_bind (keeps_lift _) fun _ => entity.keeps_findWhere hkept _ _ _

theorem keeps_find (key : Value) :
    Keeps kept (entity.find key : Action ω (Option Instance)) :=
  entity.keeps_findWhere hkept _ _ _

theorem keeps_first : Keeps kept (entity.first : Action ω (Option Instance)) :=
  keeps_bind_lift fun cursor hcursor =>
    cursor.keeps_first (hkept _ (database_of_cursor hcursor))

theorem keeps_last : Keeps kept (entity.last : Action ω (Option Instance)) :=
  keeps_bind_lift fun cursor hcursor =>
    cursor.keeps_first (hkept _ (database_of_cursor hcursor))

theorem keeps_query (query : Query) :
    Keeps kept (entity.query query : Action ω (List Instance)) :=
  keeps_bind_lift fun cursor hcursor =>
    cursor.keeps_get (hkept _ (database_of_cursor hcursor))

theorem keeps_count : Keeps kept (entity.count : Action ω Int) :=
  keeps_bind_lift fun database hbound =>
    have hdatabase := hkept database (database_of_bound hbound)
    keeps_bind (database.keeps_execute hdatabase (isPlain_count _)) fun _ => keeps_lift _

theorem keeps_create (record : Record) :
    Keeps kept (entity.create record : Action ω (Option Instance)) := by
  refine keeps_bind_lift fun database hbound => keeps_bind_lift fun _ hstatement => ?_
  have hdatabase := hkept database (database_of_bound hbound)
  refine keeps_bind (database.keeps_execute hdatabase (isPlain_insert hstatement)) fun outcome => ?_
  split
  · exact keeps_pure _
  · exact keeps_bind (keeps_lift _) fun _ => entity.keeps_find hkept _

theorem keeps_update (record : Record) :
    Keeps kept (entity.update record : Action ω (Option Instance)) := by
  refine keeps_bind (keeps_lift _) fun items => ?_
  split
  · exact keeps_throw _
  · split
    · exact entity.keeps_find hkept _
    · refine keeps_bind_lift fun database hbound => ?_
      have hdatabase := hkept database (database_of_bound hbound)
      exact keeps_bind (database.keeps_execute hdatabase (isPlain_assignment _ _ _ _)) fun _ =>
        entity.keeps_find hkept _

theorem keeps_destroy (key : Value) : Keeps kept (entity.destroy key : Action ω Nat) :=
  keeps_bind_lift fun database hbound =>
    have hdatabase := hkept database (database_of_bound hbound)
    keeps_bind (database.keeps_execute hdatabase (isPlain_removal _ _ _)) fun _ => keeps_pure _

theorem keeps_destroyAll : Keeps kept (entity.destroyAll : Action ω Nat) :=
  keeps_bind_lift fun database hbound =>
    have hdatabase := hkept database (database_of_bound hbound)
    keeps_bind (database.keeps_execute hdatabase (isPlain_removal _ _ _)) fun _ => keeps_pure _

theorem keeps_save (item : Instance) :
    Keeps kept (entity.save item : Action ω (Option Instance × Instance)) := by
  refine keeps_bind (keeps_lift _) fun _ => keeps_bind (keeps_lift _) fun record => ?_
  refine keeps_ite (keeps_bind (entity.keeps_create hkept _) fun stored => ?_)
    (keeps_bind (entity.keeps_update hkept _) fun stored => ?_)
  all_goals
    cases stored with
    | none => exact keeps_pure _
    | some other => exact keeps_bind (keeps_lift _) fun _ => keeps_pure _

theorem keeps_destroyInstance (item : Instance) :
    Keeps kept (entity.destroyInstance item : Action ω Nat) :=
  keeps_bind (keeps_lift _) fun _ => entity.keeps_destroy hkept _

end Entity

end SqlAccess
