import SqlAccess.Proofs.Engine.Exchange
import SqlAccess.Proofs.Session.Accounts
import SqlAccess.Workload.Run

/-!
# How tasks fail

The journal of a scripted engine tells of all failures of requests
(`World.records_failures`).  A task that does not close anything accounts for those on
its way (`accounts_task`): a fault that it ends with was made from the last one of
them, or it is its own.  Its own faults are no errors of the engine, except for those
that the client lets it fail with (`Task.raised`).
-/

namespace SqlAccess.Workload

open SqlAccess.Action Fault

/-! ## Failures in the journal -/

/-- The failure that an event tells of. -/
def Event.failure? : Event Note → Option Fault
  | .call _ reply => reply.fault
  | .note _ => none

/-- The failures of requests so far. -/
def World.failures (world : World) : List Fault :=
  world.script.journal.filterMap Event.failure?

theorem failureOf_answer {α : Type} (reply : Reply) (value : α) :
    failureOf (Script.Reply.answer reply value) = reply.fault.toList := by
  unfold Script.Reply.answer
  cases reply.fault <;> rfl

theorem World.failures_eq_append {world after : World} {call : Call} {reply : Reply}
    (hjournal : after.script.journal = world.script.journal ++ [.call call reply]) :
    after.failures = world.failures ++ reply.fault.toList := by
  unfold failures
  rw [hjournal, List.filterMap_append]
  cases hfault : reply.fault <;> simp [Event.failure?, hfault]

/-- Each request adds its failure to the journal. -/
theorem World.records_failures : Records World.failures where
  connect path timeout world :=
    (failures_eq_append (Script.journal_connect world.script path timeout)).trans
      (congrArg _ (failureOf_answer _ _).symm)
  execute handle statement world :=
    (failures_eq_append (Script.journal_execute world.script handle statement)).trans
      (congrArg _ (failureOf_answer _ _).symm)
  close handle world :=
    (failures_eq_append (Script.journal_close world.script handle)).trans
      (congrArg _ (failureOf_answer _ _).symm)

/-! ## What the client lets fail -/

/-- The faults with which the client lets a step in building a cursor fail. -/
def CursorStep.raised : CursorStep → List Fault
  | .refine step => step.raised
  | _ => []

/-- The faults with which the client lets the declaration of a table fail. -/
def TableSource.raised : TableSource → List Fault
  | .scripted _ script => raisedIn script
  | .described _ => []

/-- The faults with which the client lets a task fail. -/
def Task.raised : Task → List Fault
  | .fail fault => [fault]
  | .cursor _ steps _ | .entity _ (.statement steps) _ => steps.flatMap CursorStep.raised
  | .schema (.build source) | .schema (.create source) | .schema (.alter source)
  | .schema (.createOrAlter source) => source.raised
  | _ => []

/-! ## Values, rows and variables -/

variable {law : Fault → Prop} (hlaw : ∀ fault, NotEngine fault → law fault)

section

include hlaw

theorem Shape.failsOnly_form (shape : Shape) (row : Row) : FailsOnly law (shape.form row) := by
  cases shape with
  | whole => exact failsOnly_ok _
  | value key => exact row.failsOnly_pick hlaw key
  | values keys =>
      exact failsOnly_bind (failsOnly_mapM (row.failsOnly_pick hlaw)) fun _ => failsOnly_ok _

theorem failsOnly_queryOf (description : Option Value) : FailsOnly law (queryOf description) := by
  cases description with
  | none => exact failsOnly_ok _
  | some description => exact failsOnly_toExcept hlaw _

theorem TableSource.failsOnly_table (source : TableSource)
    (hsource : ∀ fault ∈ source.raised, law fault) : FailsOnly law source.table := by
  cases source with
  | scripted name script => exact Table.failsOnly_scripted hlaw name hsource
  | described description => exact failsOnly_toExcept hlaw _

namespace Holding

theorem failsOnly_instanceFor (holding : Holding) (wanted : String) :
    FailsOnly law (holding.instanceFor wanted) := by
  cases holding with
  | item item => exact failsOnly_ok item
  | _ => exact failsOnly_error (hlaw _ rfl)

theorem failsOnly_set (holding : Holding) (field : String) (content : Value) :
    FailsOnly law (holding.set field content) := by
  have hrefusal : ∀ value, (refusal value field content).NotEngine := by
    intro value
    unfold refusal
    repeat' split
    all_goals rfl
  cases holding with
  | item item => exact item.failsOnly_set hlaw field content
  | statement statement => exact failsOnly_error (hlaw _ rfl)
  | _ => exact failsOnly_error (hlaw _ (hrefusal _))

theorem failsOnly_describe (holding : Holding) : FailsOnly law holding.describe := by
  cases holding with
  | item item => exact item.failsOnly_describe hlaw
  | items items =>
      exact failsOnly_bind (failsOnly_mapM fun item => item.failsOnly_describe hlaw)
        fun _ => failsOnly_ok _
  | value value =>
      exact failsOnly_bind (value.failsOnly_checkWritable hlaw) fun _ => failsOnly_ok _
  | statement statement =>
      exact failsOnly_bind (failsOnly_forM fun value _ => value.failsOnly_checkWritable hlaw)
        fun _ => failsOnly_ok _

theorem failsOnly_same (first second : Holding) : FailsOnly law (first.same second) := by
  have hsameItems : ∀ xs ys, FailsOnly law (sameItems xs ys) := by
    intro xs
    induction xs with
    | nil => intro ys; cases ys <;> exact failsOnly_ok _
    | cons x xs ih =>
        intro ys
        cases ys with
        | nil => exact failsOnly_ok _
        | cons y ys =>
            exact failsOnly_bind (x.failsOnly_same hlaw y) fun _ =>
              failsOnly_ite (ih ys) (failsOnly_ok _)
  unfold same
  split
  · exact failsOnly_ok _
  · exact Instance.failsOnly_same hlaw _ _
  · exact failsOnly_ite (hsameItems _ _) (failsOnly_ok _)
  · exact failsOnly_ok _
  · exact failsOnly_ok _

theorem failsOnly_sameAsItself (holding : Holding) : FailsOnly law holding.sameAsItself := by
  cases holding with
  | item item =>
      exact failsOnly_bind (item.failsOnly_record hlaw) fun _ => failsOnly_ok true
  | _ => exact failsOnly_ok true

end Holding

theorem Departure.failsOnly_answer (departure : Departure) (cursor : Cursor Value)
    (next : Option Invocation) (task : CursorTask) :
    FailsOnly law (departure.answer cursor next task) := by
  unfold answer
  cases departure
  case' statement => refine failsOnly_bind (Statement.failsOnly_select hlaw _ _) fun _ => ?_
  all_goals
    refine failsOnly_bind (failsOnly_pure _) fun holding? => ?_
    beta_reduce
    split
    · exact failsOnly_error (hlaw _ (Interface.notEngine_refusal _ _))
    · exact failsOnly_bind (Holding.failsOnly_describe hlaw _) fun _ => failsOnly_ok _
    · exact failsOnly_error (hlaw _ rfl)

end

/-! ## Tasks -/

/-- What a task fails with of its own. -/
def Task.Own (task : Task) (fault : Fault) : Prop :=
  fault.NotEngine ∨ fault ∈ task.raised

/-- Whether a task closes connections. -/
def Task.Closes : Task → Prop
  | .close | .closeAll => True
  | _ => False

section

variable {own : Fault → Prop} (hown : ∀ fault, NotEngine fault → own fault)

include hown

theorem accounts_cursorTask (cursor : Cursor Value)
    (hform : ∀ row, FailsOnly own (cursor.form row)) (task : CursorTask) :
    Accounts World.failures own NotEngine (task.run cursor) := by
  have hrecords := World.records_failures
  have hshape := fun shape : Shape => shape.failsOnly_form hown
  cases task with
  | query => exact accounts_pure _
  | table => exact accounts_pure _
  | describe =>
      have hdescribe : FailsOnly own cursor.describe :=
        failsOnly_bind (Statement.failsOnly_select hown _ _) fun _ => failsOnly_ok _
      exact accounts_bind (accounts_lift hdescribe) fun _ => accounts_pure _
  | statement =>
      exact accounts_bind (accounts_lift (Statement.failsOnly_select hown _ _)) fun _ =>
        accounts_pure _
  | get shape =>
      cases shape with
      | none =>
          exact accounts_bind (Cursor.accounts_get hrecords hown hform) fun _ => accounts_pure _
      | some shape =>
          exact accounts_bind (Cursor.accounts_get hrecords hown (hshape shape)) fun _ =>
            accounts_pure _
  | first shape =>
      cases shape with
      | none =>
          exact accounts_bind (Cursor.accounts_first hrecords hown hform) fun _ => accounts_pure _
      | some shape =>
          exact accounts_bind (Cursor.accounts_first hrecords hown (hshape shape)) fun _ =>
            accounts_pure _
  | insert record =>
      exact accounts_bind (Cursor.accounts_insert hrecords hown record) fun _ => accounts_pure _
  | insertMany fields rows =>
      exact accounts_bind (Cursor.accounts_insertMany hrecords hown fields rows) fun _ =>
        accounts_pure _
  | update record =>
      exact accounts_bind (Cursor.accounts_update hrecords hown record) fun _ => accounts_pure _
  | delete => exact accounts_bind (Cursor.accounts_delete hrecords) fun _ => accounts_pure _

theorem accounts_runAfter {α : Type} (cursor : Cursor α) (steps : List CursorStep)
    (hsteps : ∀ fault ∈ steps.flatMap CursorStep.raised, own fault) (task : CursorTask) :
    Accounts World.failures own NotEngine (task.runAfter cursor steps) := by
  have hrefine : ∀ step ∈ CursorStep.refinements steps, ∀ fault ∈ step.raised, own fault := by
    intro step hstep fault hfault
    obtain ⟨cursorStep, hmem, hsome⟩ := List.mem_filterMap.mp hstep
    refine hsteps fault (List.mem_flatMap.mpr ⟨cursorStep, hmem, ?_⟩)
    cases cursorStep with
    | refine found =>
        cases hsome
        exact hfault
    | _ => cases hsome
  refine accounts_bind_lift ?_ fun refined hrefined => ?_
  · exact failsOnly_bind (Query.failsOnly_refineAll hown _ hrefine) fun _ => failsOnly_ok _
  · obtain ⟨query, -, h⟩ := exists_of_bind_eq_ok hrefined
    cases h
    split
    · exact accounts_cursorTask hown _ (Shape.failsOnly_form hown _) task
    · exact accounts_lift (Departure.failsOnly_answer hown _ _ _ _)

theorem accounts_schemaTask (database : Database) (task : SchemaTask)
    (htask : ∀ fault ∈ (Task.schema task).raised, own fault) :
    Accounts World.failures own NotEngine (task.run database) := by
  have hrecords := World.records_failures
  cases task with
  | build source =>
      exact accounts_bind (accounts_lift (source.failsOnly_table hown htask)) fun _ =>
        accounts_pure _
  | create source =>
      exact accounts_bind (accounts_lift (source.failsOnly_table hown htask)) fun table =>
        accounts_bind (database.accounts_create hrecords hown table) fun _ => accounts_pure _
  | alter source =>
      exact accounts_bind (accounts_lift (source.failsOnly_table hown htask)) fun table =>
        accounts_bind (database.accounts_alter hrecords hown table) fun _ => accounts_pure _
  | createOrAlter source =>
      exact accounts_bind (accounts_lift (source.failsOnly_table hown htask)) fun table =>
        accounts_bind (database.accounts_createOrAlter hrecords hown table) fun _ =>
          accounts_pure _
  | drop table =>
      exact accounts_bind (database.accounts_drop hrecords table) fun _ => accounts_pure _
  | duplicate source target =>
      exact accounts_bind (database.accounts_duplicate hrecords hown source target) fun _ =>
        accounts_pure _
  | copyRows source target =>
      exact accounts_bind (database.accounts_copyRows hrecords hown source target) fun _ =>
        accounts_pure _

theorem accounts_catalogTask (database : Database) (task : CatalogTask) :
    Accounts World.failures own NotEngine (task.run database) := by
  have hrecords := World.records_failures
  cases task with
  | hasTable table =>
      exact accounts_bind (database.accounts_hasTable hrecords hown table) fun _ => accounts_pure _
  | tableNames =>
      exact accounts_bind (database.accounts_tableNames hrecords hown) fun _ => accounts_pure _
  | columnInfos table =>
      exact accounts_bind (database.accounts_columnInfos hrecords hown table) fun _ =>
        accounts_pure _
  | columnNames table =>
      exact accounts_bind (database.accounts_columnNames hrecords hown table) fun _ =>
        accounts_pure _
  | foreignKeyInfos table =>
      exact accounts_bind (database.accounts_foreignKeyInfos hrecords hown table) fun _ =>
        accounts_pure _
  | indexInfos table =>
      exact accounts_bind (database.accounts_indexInfos hrecords hown table) fun _ =>
        accounts_pure _
  | missingColumns description =>
      exact accounts_bind (accounts_lift (failsOnly_toExcept hown _)) fun table =>
        accounts_bind (database.accounts_missingColumns hrecords hown table) fun _ =>
          accounts_pure _

theorem accounts_entityTask (entity : Entity) (task : EntityTask) {name : String}
    {slot : Option String} (htask : ∀ fault ∈ (Task.entity name task slot).raised, own fault) :
    Accounts World.failures own NotEngine (task.run entity) := by
  have hrecords := World.records_failures
  cases task with
  | create record =>
      exact accounts_bind (entity.accounts_create hrecords hown record) fun _ => accounts_pure _
  | update record =>
      exact accounts_bind (entity.accounts_update hrecords hown record) fun _ => accounts_pure _
  | query description =>
      exact accounts_bind (accounts_lift (failsOnly_queryOf hown description)) fun query =>
        accounts_bind (entity.accounts_query hrecords hown query) fun _ => accounts_pure _
  | instantiate fields =>
      exact accounts_bind (accounts_lift (entity.failsOnly_instantiate hown fields)) fun _ =>
        accounts_pure _
  | statement steps =>
      exact entity.accounts_cursor hown fun cursor _ =>
        accounts_runAfter hown cursor steps htask .statement
  | findBy column operator value =>
      exact accounts_bind (entity.accounts_findBy hrecords hown column operator value) fun _ =>
        accounts_pure _
  | find key =>
      exact accounts_bind (entity.accounts_find hrecords hown key) fun _ => accounts_pure _
  | first => exact accounts_bind (entity.accounts_first hrecords hown) fun _ => accounts_pure _
  | last => exact accounts_bind (entity.accounts_last hrecords hown) fun _ => accounts_pure _
  | count => exact accounts_bind (entity.accounts_count hrecords hown) fun _ => accounts_pure _
  | all => exact accounts_bind (entity.accounts_query hrecords hown {}) fun _ => accounts_pure _
  | destroy key =>
      exact accounts_bind (entity.accounts_destroy hrecords hown key) fun _ => accounts_pure _
  | destroyAll =>
      exact accounts_bind (entity.accounts_destroyAll hrecords hown) fun _ => accounts_pure _
  | refused call =>
      refine accounts_throw (hown _ ?_)
      unfold EntityTask.refusal
      split
      · exact Interface.notEngine_refusal _ call
      · rfl

theorem accounts_entityOf (name : String) :
    Accounts World.failures own NotEngine (entityOf name) := by
  refine accounts_bind accounts_outside fun world => ?_
  split
  · exact accounts_pure _
  · exact accounts_throw (hown _ rfl)

theorem accounts_holdingOf (slot : String) :
    Accounts World.failures own NotEngine (holdingOf slot) := by
  refine accounts_bind accounts_outside fun world => ?_
  split
  · exact accounts_pure _
  · exact accounts_throw (hown _ rfl)

omit hown in
theorem accounts_setVariable (slot : String) (holding : Holding) :
    Accounts World.failures own NotEngine
      (modifyOutside fun world => world.setVariable slot holding) :=
  accounts_modifyOutside fun _ => rfl

theorem accounts_instanceTask (slot : String) (holding : Holding) (task : InstanceTask) :
    Accounts World.failures own NotEngine (task.run slot holding) := by
  have hrecords := World.records_failures
  have hinstanceFor := fun wanted => holding.failsOnly_instanceFor hown wanted
  cases task with
  | set field value =>
      exact accounts_bind (accounts_lift (holding.failsOnly_set hown field value)) fun _ =>
        accounts_bind (accounts_setVariable _ _) fun _ => accounts_pure _
  | save =>
      exact accounts_bind (accounts_lift (hinstanceFor _)) fun item =>
        accounts_bind (accounts_entityOf hown _) fun entity =>
          accounts_bind (entity.accounts_save hrecords hown item) fun _ =>
            accounts_bind (accounts_setVariable _ _) fun _ => accounts_pure _
  | destroy =>
      exact accounts_bind (accounts_lift (hinstanceFor _)) fun item =>
        accounts_bind (accounts_entityOf hown _) fun entity =>
          accounts_bind (entity.accounts_destroyInstance hrecords hown item) fun _ =>
            accounts_pure _
  | record =>
      exact accounts_bind (accounts_lift (hinstanceFor _)) fun item =>
        accounts_bind (accounts_lift (item.failsOnly_record hown)) fun _ => accounts_pure _
  | describe =>
      exact accounts_bind (accounts_lift (holding.failsOnly_describe hown)) fun _ =>
        accounts_pure _
  | same other =>
      refine accounts_bind (accounts_holdingOf hown other) fun second => accounts_ite ?_ ?_
      · exact accounts_bind (accounts_lift (holding.failsOnly_sameAsItself hown)) fun _ =>
          accounts_pure _
      · exact accounts_bind (accounts_lift (holding.failsOnly_same hown second)) fun _ =>
          accounts_pure _

end

/-- A task that closes nothing accounts for all failures. -/
theorem accounts_task (database : Database) {task : Task} (hcloses : ¬ task.Closes) :
    Accounts World.failures task.Own NotEngine (task.run database) := by
  have hrecords := World.records_failures
  have hown : ∀ fault, NotEngine fault → task.Own fault := fun _ => .inl
  have hraised : ∀ fault ∈ task.raised, task.Own fault := fun _ => .inr
  cases task with
  | connect => exact accounts_bind (database.accounts_connection hrecords) fun _ => accounts_pure _
  | close => exact absurd trivial hcloses
  | closeAll => exact absurd trivial hcloses
  | connection name =>
      exact accounts_bind (Action.accounts_connection name) fun _ => accounts_pure _
  | registry names => exact accounts_bind accounts_registry fun _ => accounts_pure _
  | database =>
      exact accounts_bind (accounts_bind accounts_registry fun _ => accounts_pure _) fun _ =>
        accounts_pure _
  | execute sql params =>
      exact accounts_bind (accounts_lift (Statement.failsOnly_withParams hown sql params)) fun _ =>
        accounts_bind (database.accounts_execute hrecords _) fun _ => accounts_pure _
  | batch requests =>
      refine accounts_bind (accounts_lift (failsOnly_mapM fun request => ?_)) fun statements => ?_
      · exact Statement.failsOnly_withParams hown request.1 request.2
      · exact accounts_bind (database.accounts_executeAll hrecords statements) fun _ =>
          accounts_pure _
  | cursor table steps task => exact accounts_runAfter hown _ steps hraised task
  | schema task => exact accounts_schemaTask hown database task hraised
  | catalog task => exact accounts_catalogTask hown database task
  | version =>
      exact accounts_bind (database.accounts_version hrecords hown) fun _ => accounts_pure _
  | setVersion number =>
      exact accounts_bind (database.accounts_setVersion hrecords hown number) fun _ =>
        accounts_pure _
  | fail fault => exact accounts_throw (hraised fault (List.mem_singleton_self fault))
  | bind name =>
      exact accounts_bind (accounts_entityOf hown name) fun _ =>
        accounts_bind (accounts_modifyOutside fun _ => rfl) fun _ => accounts_pure _
  | entity name task slot =>
      refine accounts_bind (accounts_entityOf hown name) fun entity => ?_
      refine accounts_bind (accounts_entityTask hown entity task hraised) fun answer => ?_
      split
      · exact accounts_bind (accounts_setVariable _ _) fun _ => accounts_pure _
      · exact accounts_pure _
  | item slot task =>
      exact accounts_bind (accounts_holdingOf hown slot) fun holding =>
        accounts_instanceTask hown slot holding task

/-- A task that closes connections fails with the failure of the engine. -/
theorem passesOn_task (database : Database) {task : Task} (hcloses : task.Closes) :
    PassesOn World.failures (task.run database) := by
  have hrecords := World.records_failures
  cases task with
  | close => exact passesOn_bind (passesOn_closed hrecords database.name) fun _ => passesOn_pure _
  | closeAll => exact passesOn_bind (passesOn_closedAll hrecords) fun _ => passesOn_pure _
  | _ => exact hcloses.elim

end SqlAccess.Workload
