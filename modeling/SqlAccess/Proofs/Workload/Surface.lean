import SqlAccess.Proofs.Session.Surface
import SqlAccess.Workload.Run

/-!
# The surface as workloads

Workloads run tasks and operations of every kind.  In the world outside they leave
notes in the journal, change what variables hold, and bind entities, none of which
concerns the engine (`World.Quiet`); everything else that they do is done by the
library.  So an operation whose texts are plain keeps what all moves with plain
statements keep (`keeps_operation`), and any operation keeps what all moves keep
(`keeps_anyOperation`).  Hooks run operations again, so this goes by induction on the
operation (`Operation.induction`).
-/

namespace SqlAccess.Workload

open SqlAccess.Action

/-- The world has changed in nothing that concerns the engine, but there may be new
notes in its journal. -/
def World.Quiet (before after : World) : Prop :=
  ∃ notes : List Note, after.script =
    { before.script with journal := before.script.journal ++ notes.map .note }

theorem World.quiet_of_script_eq {before after : World} (h : after.script = before.script) :
    World.Quiet before after := by
  refine ⟨[], ?_⟩
  rw [h, List.map_nil, List.append_nil]

/-- What a workload may do if its texts are plain. -/
abbrev plainScope : Scope World :=
  .plain World.Quiet

/-! ## Operations with plain texts -/

/-- The texts that a task submits as they are, are plain. -/
def Task.IsPlain : Task → Prop
  | .execute sql _ => Statement.IsPlain ⟨sql, []⟩
  | .batch requests => ∀ request ∈ requests, Statement.IsPlain ⟨request.1, []⟩
  | _ => True

mutual

/-- The texts that an operation submits as they are, are plain. -/
def Operation.IsPlain : Operation → Prop
  | .task task => task.IsPlain
  | .gather operations => AllPlain operations
  | .migrate _ hooks => HooksPlain hooks

/-- Operations whose texts are plain. -/
def AllPlain : List (Database × Operation) → Prop
  | [] => True
  | (_, operation) :: operations => operation.IsPlain ∧ AllPlain operations

/-- Hooks whose operations have plain texts. -/
def HooksPlain : List (Hook × List (Database × Operation)) → Prop
  | [] => True
  | (_, operations) :: hooks => AllPlain operations ∧ HooksPlain hooks

end

/-! ## Requests to a single database -/

section

variable {kept : Session World → Prop}

theorem keeps_cursorTask (cursor : Cursor Value) (hkept : KeptOn kept cursor.database.name)
    (task : CursorTask) : Keeps kept (task.run cursor) := by
  cases task with
  | query => exact keeps_pure _
  | table => exact keeps_pure _
  | describe => exact keeps_bind (keeps_lift _) fun _ => keeps_pure _
  | statement => exact keeps_bind (keeps_lift _) fun _ => keeps_pure _
  | get shape =>
      cases shape with
      | none => exact keeps_bind (cursor.keeps_get hkept) fun _ => keeps_pure _
      | some shape =>
          exact keeps_bind ((cursor.withForm shape.form).keeps_get hkept) fun _ => keeps_pure _
  | first shape =>
      cases shape with
      | none => exact keeps_bind (cursor.keeps_first hkept) fun _ => keeps_pure _
      | some shape =>
          exact keeps_bind ((cursor.withForm shape.form).keeps_first hkept) fun _ =>
            keeps_pure _
  | insert record => exact keeps_bind (cursor.keeps_insert hkept record) fun _ => keeps_pure _
  | insertMany fields rows =>
      exact keeps_bind (cursor.keeps_insertMany hkept fields rows) fun _ => keeps_pure _
  | update record => exact keeps_bind (cursor.keeps_update hkept record) fun _ => keeps_pure _
  | delete => exact keeps_bind (cursor.keeps_delete hkept) fun _ => keeps_pure _

theorem keeps_runAfter {α : Type} (cursor : Cursor α) (hkept : KeptOn kept cursor.database.name)
    (steps : List CursorStep) (task : CursorTask) : Keeps kept (task.runAfter cursor steps) := by
  refine keeps_bind_lift fun refined hrefined => ?_
  split
  · obtain ⟨query, -, hsame⟩ := exists_of_bind_eq_ok hrefined
    rw [← Except.ok.inj hsame]
    exact keeps_cursorTask _ hkept task
  · exact keeps_lift _

theorem keeps_schemaTask (database : Database) (hkept : KeptOn kept database.name)
    (task : SchemaTask) : Keeps kept (task.run database) := by
  cases task with
  | build source => exact keeps_bind (keeps_lift _) fun _ => keeps_pure _
  | create source =>
      exact keeps_bind (keeps_lift _) fun table =>
        keeps_bind (database.keeps_create hkept table) fun _ => keeps_pure _
  | alter source =>
      exact keeps_bind (keeps_lift _) fun table =>
        keeps_bind (database.keeps_alter hkept table) fun _ => keeps_pure _
  | createOrAlter source =>
      exact keeps_bind (keeps_lift _) fun table =>
        keeps_bind (database.keeps_createOrAlter hkept table) fun _ => keeps_pure _
  | drop table => exact keeps_bind (database.keeps_drop hkept table) fun _ => keeps_pure _
  | duplicate source target =>
      exact keeps_bind (database.keeps_duplicate hkept source target) fun _ => keeps_pure _
  | copyRows source target =>
      exact keeps_bind (database.keeps_copyRows hkept source target) fun _ => keeps_pure _

theorem keeps_catalogTask (database : Database) (hkept : KeptOn kept database.name)
    (task : CatalogTask) : Keeps kept (task.run database) := by
  cases task with
  | hasTable table =>
      exact keeps_bind (database.keeps_hasTable hkept table) fun _ => keeps_pure _
  | tableNames => exact keeps_bind (database.keeps_tableNames hkept) fun _ => keeps_pure _
  | columnInfos table =>
      exact keeps_bind (database.keeps_columnInfos hkept table) fun _ => keeps_pure _
  | columnNames table =>
      exact keeps_bind (database.keeps_columnNames hkept table) fun _ => keeps_pure _
  | foreignKeyInfos table =>
      exact keeps_bind (database.keeps_foreignKeyInfos hkept table) fun _ => keeps_pure _
  | indexInfos table =>
      exact keeps_bind (database.keeps_indexInfos hkept table) fun _ => keeps_pure _
  | missingColumns description =>
      exact keeps_bind (keeps_lift _) fun table =>
        keeps_bind (database.keeps_missingColumns hkept table) fun _ => keeps_pure _

theorem keeps_entityTask (entity : Entity)
    (hkept : ∀ database, entity.database = some database → KeptOn kept database.name)
    (task : EntityTask) : Keeps kept (task.run entity) := by
  cases task with
  | create record => exact keeps_bind (entity.keeps_create hkept record) fun _ => keeps_pure _
  | update record => exact keeps_bind (entity.keeps_update hkept record) fun _ => keeps_pure _
  | query description =>
      exact keeps_bind (keeps_lift _) fun query =>
        keeps_bind (entity.keeps_query hkept query) fun _ => keeps_pure _
  | instantiate fields => exact keeps_bind (keeps_lift _) fun _ => keeps_pure _
  | statement steps =>
      exact keeps_bind_lift fun cursor hcursor =>
        keeps_runAfter cursor (hkept _ (Entity.database_of_cursor hcursor)) steps _
  | findBy column operator value =>
      exact keeps_bind (entity.keeps_findBy hkept column operator value) fun _ => keeps_pure _
  | find key => exact keeps_bind (entity.keeps_find hkept key) fun _ => keeps_pure _
  | first => exact keeps_bind (entity.keeps_first hkept) fun _ => keeps_pure _
  | last => exact keeps_bind (entity.keeps_last hkept) fun _ => keeps_pure _
  | count => exact keeps_bind (entity.keeps_count hkept) fun _ => keeps_pure _
  | all => exact keeps_bind (entity.keeps_query hkept {}) fun _ => keeps_pure _
  | destroy key => exact keeps_bind (entity.keeps_destroy hkept key) fun _ => keeps_pure _
  | destroyAll => exact keeps_bind (entity.keeps_destroyAll hkept) fun _ => keeps_pure _
  | refused call => exact keeps_throw _

theorem keeps_entityOf (name : String) : Keeps kept (entityOf name) := by
  refine keeps_bind keeps_outside fun world => ?_
  split
  · exact keeps_pure _
  · exact keeps_throw _

theorem keeps_holdingOf (slot : String) : Keeps kept (holdingOf slot) := by
  refine keeps_bind keeps_outside fun world => ?_
  split
  · exact keeps_pure _
  · exact keeps_throw _

/-- A task is a request to its database, in words of the library. -/
def Task.IsRequest : Task → Prop
  | .connect | .close | .registry _ | .database | .cursor .. | .schema _ | .catalog _ | .version
  | .setVersion _ | .fail _ => True
  | _ => False

theorem keeps_request (database : Database) (hkept : KeptOn kept database.name) {task : Task}
    (hrequest : task.IsRequest) : Keeps kept (task.run database) := by
  cases task with
  | connect => exact keeps_bind (database.keeps_connection hkept) fun _ => keeps_pure _
  | close => exact keeps_bind hkept.closing fun _ => keeps_pure _
  | registry names => exact keeps_bind keeps_registry fun _ => keeps_pure _
  | database =>
      exact keeps_bind (keeps_bind keeps_registry fun _ => keeps_pure _) fun _ => keeps_pure _
  | cursor table steps task => exact keeps_runAfter _ hkept steps task
  | schema task => exact keeps_schemaTask database hkept task
  | catalog task => exact keeps_catalogTask database hkept task
  | version => exact keeps_bind (database.keeps_version hkept) fun _ => keeps_pure _
  | setVersion number =>
      exact keeps_bind (database.keeps_setVersion hkept number) fun _ => keeps_pure _
  | fail fault => exact keeps_throw fault
  | _ => exact hrequest.elim

/-- A task on what is in a variable that asks for nothing but what is there. -/
def InstanceTask.IsReading : InstanceTask → Prop
  | .record | .describe | .same _ => True
  | _ => False

theorem keeps_reading (slot : String) (holding : Holding) {task : InstanceTask}
    (hreading : task.IsReading) : Keeps kept (task.run slot holding) := by
  cases task with
  | record =>
      exact keeps_bind (keeps_lift _) fun _ => keeps_bind (keeps_lift _) fun _ => keeps_pure _
  | describe => exact keeps_bind (keeps_lift _) fun _ => keeps_pure _
  | same other =>
      refine keeps_bind (keeps_holdingOf other) fun second => keeps_ite ?_ ?_
      · exact keeps_bind (keeps_lift _) fun _ => keeps_pure _
      · exact keeps_bind (keeps_lift _) fun _ => keeps_pure _
  | _ => exact hreading.elim

section

variable (database : Database)
  (hbatch : ∀ statements, Keeps kept (database.executeAll statements : Action World (List Outcome)))

include hbatch

/-- A statement in words of the client. -/
theorem keeps_executeTask (sql : String) (params : Value) :
    Keeps kept ((Task.execute sql params).run database) := by
  refine keeps_bind (keeps_lift _) fun statement => keeps_bind ?_ fun _ => keeps_pure _
  exact keeps_bind (hbatch [statement]) fun _ => keeps_pure _

theorem keeps_batchTask (requests : List (String × Value)) :
    Keeps kept ((Task.batch requests).run database) :=
  keeps_bind (keeps_lift _) fun statements => keeps_bind (hbatch statements) fun _ => keeps_pure _

end

end

/-! ## Tasks -/

section

variable {kept : Session World → Prop} (hstable : Stable plainScope kept)

include hstable

theorem keeps_modifyOutside {change : World → World}
    (hchange : ∀ world, World.Quiet world (change world)) :
    Keeps kept (modifyOutside change) :=
  fun session h => hstable (.drifting session (hchange session.outside)) h

theorem keeps_setVariable (slot : String) (holding : Holding) :
    Keeps kept (modifyOutside fun world => world.setVariable slot holding) :=
  keeps_modifyOutside hstable fun _ => World.quiet_of_script_eq rfl

theorem keeps_instanceTask (slot : String) (holding : Holding) (task : InstanceTask) :
    Keeps kept (task.run slot holding) := by
  have hkept : ∀ database, KeptOn kept database := hstable.keptOn
  cases task with
  | set field value =>
      exact keeps_bind (keeps_lift _) fun _ =>
        keeps_bind (keeps_setVariable hstable _ _) fun _ => keeps_pure _
  | save =>
      exact keeps_bind (keeps_lift _) fun item => keeps_bind (keeps_entityOf _) fun entity =>
        keeps_bind (entity.keeps_save (fun _ _ => hkept _) item) fun _ =>
          keeps_bind (keeps_setVariable hstable _ _) fun _ => keeps_pure _
  | destroy =>
      exact keeps_bind (keeps_lift _) fun item => keeps_bind (keeps_entityOf _) fun entity =>
        keeps_bind (entity.keeps_destroyInstance (fun _ _ => hkept _) item) fun _ => keeps_pure _
  | _ => exact keeps_reading slot holding trivial

theorem keeps_task (database : Database) {task : Task} (hplain : task.IsPlain) :
    Keeps kept (task.run database) := by
  have hkept : ∀ database, KeptOn kept database := hstable.keptOn
  cases task with
  | closeAll => exact keeps_bind (keeps_closedAll hkept) fun _ => keeps_pure _
  | connection name => exact keeps_bind (hkept name).registering fun _ => keeps_pure _
  | execute sql params =>
      exact keeps_bind_lift fun _ hstatement =>
        keeps_bind (database.keeps_execute (hkept _) (isPlain_withParams hplain hstatement))
          fun _ => keeps_pure _
  | batch requests =>
      refine keeps_bind_lift fun statements hstatements => ?_
      have hplain' := forall_of_mapM_eq_ok
        (fun request hrequest _ => isPlain_withParams (hplain request hrequest)) hstatements
      exact keeps_bind (database.keeps_executeAll (hkept _) hplain') fun _ => keeps_pure _
  | bind name =>
      exact keeps_bind (keeps_entityOf name) fun _ =>
        keeps_bind (keeps_modifyOutside hstable fun _ => World.quiet_of_script_eq rfl)
          fun _ => keeps_pure _
  | entity name task slot =>
      refine keeps_bind (keeps_entityOf name) fun entity => ?_
      refine keeps_bind (keeps_entityTask entity (fun _ _ => hkept _) task) fun answer => ?_
      split
      · exact keeps_bind (keeps_setVariable hstable _ _) fun _ => keeps_pure _
      · exact keeps_pure _
  | item slot task =>
      exact keeps_bind (keeps_holdingOf slot) fun holding =>
        keeps_instanceTask hstable slot holding task
  | _ => exact keeps_request database (hkept _) trivial

theorem keeps_note (entry : Note) : Keeps kept (note entry) :=
  keeps_modifyOutside hstable fun _ => ⟨[entry], rfl⟩

end

/-! ## Operations -/

section

variable {kept : Session World → Prop}

theorem keeps_runGathered {operations : List (Database × Operation)}
    (h : ∀ entry ∈ operations, Keeps kept (entry.2.run entry.1)) :
    Keeps kept (runGathered operations) := by
  induction operations with
  | nil =>
      unfold runGathered
      exact keeps_pure _
  | cons head operations ih =>
      obtain ⟨database, operation⟩ := head
      rw [List.forall_mem_cons] at h
      unfold runGathered
      exact keeps_bind (keeps_attempt h.1) fun _ => keeps_bind (ih h.2) fun _ => keeps_pure _

variable (hnote : ∀ entry, Keeps kept (note entry))

include hnote

theorem keeps_runNoted {operations : List (Database × Operation)}
    (h : ∀ entry ∈ operations, Keeps kept (entry.2.run entry.1)) :
    Keeps kept (runNoted operations) := by
  induction operations with
  | nil =>
      unfold runNoted
      exact keeps_pure _
  | cons head operations ih =>
      obtain ⟨database, operation⟩ := head
      rw [List.forall_mem_cons] at h
      unfold runNoted
      exact keeps_bind h.1 fun _ => keeps_bind (hnote _) fun _ => ih h.2

theorem keeps_hookOf {hooks : List (Hook × List (Database × Operation))}
    (h : ∀ hook ∈ hooks, ∀ entry ∈ hook.2, Keeps kept (entry.2.run entry.1)) {hook : Hook}
    {run : Versions → Action World Unit} (hrun : hookOf hooks hook = some run)
    (versions : Versions) : Keeps kept (run versions) := by
  induction hooks with
  | nil =>
      unfold hookOf at hrun
      cases hrun
  | cons head hooks ih =>
      obtain ⟨name, operations⟩ := head
      rw [List.forall_mem_cons] at h
      unfold hookOf at hrun
      split at hrun
      · cases hrun
        exact keeps_bind (hnote _) fun _ => keeps_runNoted hnote h.1
      · exact ih h.2 hrun

/-- A migration keeps what the operations of its hooks keep. -/
theorem keeps_migration (database : Database) (hkept : KeptOn kept database.name) (target : Value)
    {hooks : List (Hook × List (Database × Operation))}
    (h : ∀ hook ∈ hooks, ∀ entry ∈ hook.2, Keeps kept (entry.2.run entry.1)) :
    Keeps kept ((Operation.migrate target hooks).run database) := by
  unfold Operation.run
  refine keeps_bind_lift fun migration hmigration => ?_
  refine keeps_bind (database.keeps_migrate hkept target fun hook versions => ?_)
    fun _ => keeps_pure _
  unfold Migration.ofHooks at hmigration
  split at hmigration
  · cases hmigration
  · cases hmigration
    cases hrun : hookOf hooks hook with
    | none =>
        simp only [hrun]
        exact keeps_pure _
    | some run =>
        simp only [hrun]
        exact keeps_hookOf hnote h hrun versions

end

/-- Operations run other operations, and these are one level below them. -/
theorem Operation.induction {motive : Operation → Prop} (task : ∀ task, motive (.task task))
    (gather : ∀ operations : List (Database × Operation),
      (∀ entry ∈ operations, motive entry.2) → motive (.gather operations))
    (migrate : ∀ (target : Value) (hooks : List (Hook × List (Database × Operation))),
      (∀ hook ∈ hooks, ∀ entry ∈ hook.2, motive entry.2) → motive (.migrate target hooks))
    (operation : Operation) : motive operation :=
  @Operation.rec motive (fun operations => ∀ entry ∈ operations, motive entry.2)
    (fun hooks => ∀ hook ∈ hooks, ∀ entry ∈ hook.2, motive entry.2)
    (fun entry => motive entry.2) (fun hook => ∀ entry ∈ hook.2, motive entry.2)
    task gather migrate nofun (fun _ _ hhead htail => List.forall_mem_cons.mpr ⟨hhead, htail⟩)
    nofun (fun _ _ hhead htail => List.forall_mem_cons.mpr ⟨hhead, htail⟩)
    (fun _ _ h => h) (fun _ _ h => h) operation

theorem allPlain_iff {operations : List (Database × Operation)} :
    AllPlain operations ↔ ∀ entry ∈ operations, entry.2.IsPlain := by
  induction operations with
  | nil => simp [AllPlain]
  | cons head operations ih => rw [AllPlain, ih, List.forall_mem_cons]

theorem hooksPlain_iff {hooks : List (Hook × List (Database × Operation))} :
    HooksPlain hooks ↔ ∀ hook ∈ hooks, AllPlain hook.2 := by
  induction hooks with
  | nil => simp [HooksPlain]
  | cons head hooks ih => rw [HooksPlain, ih, List.forall_mem_cons]

/-- What moves with plain statements keep, every operation with plain texts keeps. -/
theorem keeps_operation {kept : Session World → Prop} (hstable : Stable plainScope kept)
    (database : Database) {operation : Operation} (hplain : operation.IsPlain) :
    Keeps kept (operation.run database) := by
  induction operation using Operation.induction generalizing database with
  | task task =>
      unfold Operation.run
      exact keeps_task hstable database hplain
  | gather operations ih =>
      unfold Operation.run
      have hoperations := allPlain_iff.mp hplain
      have hgathered := keeps_runGathered fun entry hentry =>
        ih entry hentry entry.1 (hoperations entry hentry)
      exact keeps_bind hgathered fun _ => keeps_pure _
  | migrate target hooks ih =>
      have hhooks := hooksPlain_iff.mp hplain
      exact keeps_migration (keeps_note hstable) database (hstable.keptOn _) target
        fun hook hhook entry hentry =>
          ih hook hhook entry hentry entry.1 (allPlain_iff.mp (hhooks hook hhook) entry hentry)

/-- Operations with plain texts are done by moves. -/
theorem reaches_runGathered (operations : List (Database × Operation))
    (hplain : AllPlain operations) (session : Session World) :
    Reaches plainScope session (runGathered operations session).2 :=
  keeps_runGathered (fun entry hentry => keeps_operation (Stable.reaches plainScope session) entry.1
    (allPlain_iff.mp hplain entry hentry)) session .refl

/-! ## Operations with any texts -/

/-- What a workload may do, whatever its texts are. -/
abbrev anyScope : Scope World where
  submits _ _ _ := True
  drifts := World.Quiet

section

variable {kept : Session World → Prop} (hstable : Stable anyScope kept)

include hstable

theorem stable_plain_of_any : Stable plainScope kept :=
  fun hmove => hstable (hmove.mono (fun _ _ _ _ => trivial) fun _ _ h => h)

theorem keeps_anyTask (database : Database) (task : Task) : Keeps kept (task.run database) := by
  have hexecuteAll : ∀ statements,
      Keeps kept (database.executeAll statements : Action World (List Outcome)) :=
    fun _ session h => hstable (.batch session fun _ _ => trivial) h
  cases task with
  | execute sql params => exact keeps_executeTask database hexecuteAll sql params
  | batch requests => exact keeps_batchTask database hexecuteAll requests
  -- the other tasks submit nothing but what the library words
  | _ => exact keeps_task (stable_plain_of_any hstable) database trivial

/-- What all moves keep, every operation keeps. -/
theorem keeps_anyOperation (database : Database) (operation : Operation) :
    Keeps kept (operation.run database) := by
  induction operation using Operation.induction generalizing database with
  | task task =>
      unfold Operation.run
      exact keeps_anyTask hstable database task
  | gather operations ih =>
      unfold Operation.run
      have hgathered := keeps_runGathered fun entry hentry => ih entry hentry entry.1
      exact keeps_bind hgathered fun _ => keeps_pure _
  | migrate target hooks ih =>
      have hplain : Stable plainScope kept := stable_plain_of_any hstable
      exact keeps_migration (keeps_note hplain) database (hplain.keptOn _) target
        fun hook hhook entry hentry => ih hook hhook entry hentry entry.1

end

/-- All operations are done by moves. -/
theorem reaches_anyRunGathered (operations : List (Database × Operation))
    (session : Session World) : Reaches anyScope session (runGathered operations session).2 :=
  keeps_runGathered (fun entry _ =>
    keeps_anyOperation (Stable.reaches anyScope session) entry.1 entry.2) session .refl

end SqlAccess.Workload
