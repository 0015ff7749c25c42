import SqlAccess.Migration
import SqlAccess.Proofs.Action.Ends
import SqlAccess.Proofs.Action.Log
import SqlAccess.Proofs.Engine.Shelf
import SqlAccess.Proofs.Value.Integers

/-!
# The course of a migration

A migration checks its target, opens the database and reads the stored version.
From then on it is a list of stages, each a hook or the storing of the target
version, that are gone through up to the first one that fails (`migrate_eq`).

The storing submits a single statement, which has the target in its text.  There is
no such statement if the target has no integer, or one with too many digits to be
written (`Versions.update`), and then the stage fails before anything is submitted.

`Course` says what this means for the order of the hooks, for the place of the
storing and for the ending, in terms of a log of the stages that were begun.  That
every migration runs such a course, whatever its hooks do and whatever the engine
answers, is `migrate_course`.
-/

namespace SqlAccess

variable {ω : Type}

/-! ## Stages -/

/-- The hooks between the first and the last one: those that create the schema if
there is no version, and those that update it if the version is another one. -/
def Versions.hooksBetween (versions : Versions) : List Hook :=
  if versions.stored = 0 then [.onCreate, .onPostCreate]
  else if (Value.int versions.stored).same versions.target then []
  else [.onUpdate, .onPostUpdate]

/-- The statement that stores the target version: the integer of the target, which
must not have too many digits to be written. -/
def Versions.update (versions : Versions) : Except Fault Statement := do
  let number ← versions.target.toInteger
  (Value.int number).checkWritable
  return ⟨s!"PRAGMA user_version = {number}", []⟩

theorem Versions.update_of_error {versions : Versions} {fault : Fault}
    (htarget : versions.target.toInteger = .error fault) : versions.update = .error fault := by
  rw [update, htarget]
  rfl

theorem Versions.update_of_ok {versions : Versions} {number : Int}
    (htarget : versions.target.toInteger = .ok number) :
    versions.update =
      if (Value.int number).isWritable then .ok (Database.versionUpdate number)
      else .error (.misfit .longInteger) := by
  rw [update, htarget]
  change (do
    (Value.int number).checkWritable
    pure (Database.versionUpdate number) : Except Fault Statement) = _
  unfold Value.checkWritable
  split <;> rfl

namespace Migration

/-- A stage of a migration. -/
inductive Stage where
  /-- A hook runs. -/
  | hook (hook : Hook)
  /-- The target version is stored. -/
  | storing
  deriving DecidableEq

/-- The hook of a stage, if it is one. -/
def Stage.hook? : Stage → Option Hook
  | hook h => some h
  | storing => none

/-- The hooks that a log says were called. -/
def calledHooks (log : StepLog Stage) : List Hook :=
  log.begun.filterMap Stage.hook?

/-- What is done at a stage.  Storing is a batch of a single statement. -/
def Stage.action [Engine ω] (database : Database) (migration : Migration ω)
    (versions : Versions) : Stage → Action ω Unit
  | hook h => migration.run h versions
  | storing => do
    let statement ← versions.update
    let _ ← Action.runBatch database.name [statement]

/-- The batches that the migration submits by itself at a stage, whatever a hook
submits. -/
def Stage.batches (versions : Versions) : Stage → List (List Statement)
  | hook _ => []
  | storing => versions.update.toOption.toList.map fun statement => [statement]

/-- The batches that a log says the migration submitted by itself. -/
def submitted (versions : Versions) (log : StepLog Stage) : List (List Statement) :=
  log.begun.flatMap (Stage.batches versions)

/-- What the fault of a stage means for the migration. -/
def Stage.fault (versions : Versions) : Stage → Fault → Fault
  | hook h, fault => hookFault h versions fault
  | storing, fault => fault

/-- The stages of a migration between two versions. -/
def plan (versions : Versions) : List Stage :=
  (Hook.beforeMigration :: versions.hooksBetween).map .hook
    ++ .storing :: [.hook .afterMigration]

theorem hooks_classify (versions : Versions) :
    (SchemaState.classify (.int versions.stored) versions.target).hooks =
      versions.hooksBetween := by
  unfold SchemaState.classify Versions.hooksBetween
  rw [Value.same_int]
  simp only [decide_eq_true_eq]
  split
  · rfl
  · split <;> rfl

theorem nodup_plan (versions : Versions) : (plan versions).Nodup := by
  unfold plan Versions.hooksBetween
  split
  · decide
  · split <;> decide

theorem nodup_hooks (versions : Versions) :
    (Hook.beforeMigration :: versions.hooksBetween ++ [Hook.afterMigration]).Nodup := by
  unfold Versions.hooksBetween
  split
  · decide
  · split <;> decide

theorem filterMap_hook?_plan (versions : Versions) :
    (plan versions).filterMap Stage.hook? =
      .beforeMigration :: versions.hooksBetween ++ [.afterMigration] := by
  have hhooks : Stage.hook? ∘ Stage.hook = some := rfl
  rw [plan, List.filterMap_append, List.filterMap_map, hhooks, List.filterMap_some]
  rfl

theorem flatMap_batches (versions : Versions) {stages : List Stage} (hnodup : stages.Nodup) :
    stages.flatMap (Stage.batches versions) =
      if .storing ∈ stages then Stage.batches versions .storing else [] := by
  induction stages with
  | nil => rfl
  | cons stage stages ih =>
      rw [List.nodup_cons] at hnodup
      obtain ⟨hstage, hnodup⟩ := hnodup
      rw [List.flatMap_cons, ih hnodup]
      cases stage with
      | hook hook => simp [Stage.batches]
      | storing => simp [hstage]

end Migration

theorem Action.converting_id {α : Type} (action : Action ω α) :
    action.converting (fun fault => fault) = action := by
  funext session
  unfold Action.converting
  rcases action session with ⟨_ | _, _⟩ <;> rfl

/-! ## The migration as a run through its stages -/

section

variable [Engine ω]

open Migration (Stage)

/-- Opens the database and reads the stored version. -/
def Database.reading (database : Database) : Action ω Int := do
  let _ ← database.connection
  database.version

theorem Migration.runHooks_eq (database : Database) (migration : Migration ω)
    (versions : Versions) (hooks : List Hook) :
    migration.runHooks versions hooks =
      Action.performEach (Stage.action database migration versions) (Stage.fault versions)
        (hooks.map .hook) := by
  induction hooks with
  | nil => rfl
  | cons hook hooks ih =>
      unfold Migration.runHooks
      rw [ih]
      rfl

theorem Migration.performEach_storing (database : Database) (migration : Migration ω)
    (versions : Versions) :
    Action.performEach (Stage.action database migration versions) (Stage.fault versions)
      [.storing] = database.setVersion versions.target := by
  have hstoring : Action.performEach (Stage.action database migration versions)
      (Stage.fault versions) [.storing] = (do
        (Stage.action database migration versions .storing).converting fun fault => fault
        pure ()) := rfl
  have hset : database.setVersion versions.target = (do
      let number ← versions.target.toInteger
      (Value.int number).checkWritable
      let _ ← Action.runBatch database.name [Database.versionUpdate number] : Action ω Unit) := by
    simp only [Database.setVersion, Database.execute, Database.executeAll, bind_assoc, pure_bind]
  rw [hstoring, Action.converting_id, hset]
  simp only [Stage.action, bind_assoc, pure_bind]
  -- both check the integer before they submit anything
  cases htarget : versions.target.toInteger with
  | error fault =>
      rw [Versions.update_of_error htarget]
      rfl
  | ok number =>
      rw [Versions.update_of_ok htarget, Action.lift_ok_bind]
      unfold Value.checkWritable
      split <;> rfl

theorem Migration.action_storing_of_error (database : Database) (migration : Migration ω)
    {versions : Versions} {fault : Fault} (hupdate : versions.update = .error fault)
    (session : Session ω) :
    Stage.action database migration versions .storing session = (.error fault, session) := by
  rw [Stage.action, hupdate]
  rfl

/-- A migration whose target is not too low is a run through its stages. -/
theorem Migration.migrate_eq (database : Database) (migration : Migration ω) {target : Value}
    (htarget : target.lessThan 1 = .ok false) :
    database.migrate migration target = (do
      let stored ← database.reading
      Action.performEach (Stage.action database migration ⟨stored, target⟩)
        (Stage.fault ⟨stored, target⟩) (plan ⟨stored, target⟩)
      return .classify (.int stored) target) := by
  -- the storing is a stage whose fault stays as it is, so it fits between two runs of hooks
  have hplan : ∀ stored, Action.performEach (Stage.action database migration ⟨stored, target⟩)
      (Stage.fault ⟨stored, target⟩) (plan ⟨stored, target⟩) = (do
        migration.runHooks ⟨stored, target⟩
          (.beforeMigration :: (SchemaState.classify (.int stored) target).hooks)
        database.setVersion target
        migration.runHooks ⟨stored, target⟩ [.afterMigration]) := by
    intro stored
    rw [runHooks_eq database, runHooks_eq database, hooks_classify ⟨stored, target⟩,
      ← performEach_storing database migration ⟨stored, target⟩, ← Action.performEach_append,
      ← Action.performEach_append]
    rfl
  have hchecked : database.migrate migration target = (do
      let _ ← database.connection
      let stored ← database.version
      migration.runHooks ⟨stored, target⟩
        (.beforeMigration :: (SchemaState.classify (.int stored) target).hooks)
      database.setVersion target
      migration.runHooks ⟨stored, target⟩ [.afterMigration]
      return .classify (.int stored) target) := by
    unfold Database.migrate Database.checkTarget
    rw [htarget]
    rfl
  rw [hchecked, Database.reading]
  simp only [hplan, bind_assoc]

/-! ## The course -/

/-- Goes through the stages; gives the log. -/
def Migration.staged (database : Database) (migration : Migration ω) (versions : Versions) :
    Session ω → StepLog Stage × Session ω :=
  Action.logged (Stage.action database migration versions) (plan versions)

/-- The log of a migration: the stages that it begins once the version is read. -/
def Migration.log (database : Database) (migration : Migration ω) (target : Value)
    (session : Session ω) : StepLog Stage :=
  match target.lessThan 1, database.reading session with
  | .ok false, (.ok stored, ready) => (migration.staged database ⟨stored, target⟩ ready).1
  | _, _ => []

/-- What a migration between two versions does from the session in which it has
read the version to its ending. -/
structure Migration.Course (database : Database) (migration : Migration ω) (versions : Versions)
    (ready : Session ω) (log : StepLog Stage)
    (ending : Except Fault SchemaState × Session ω) : Prop where
  /-- Nothing is done but what the log tells.  All hooks are told the same versions. -/
  tells : log.Tells (Stage.action database migration versions) ready ending.2
  hooks_prefix :
    calledHooks log <+: .beforeMigration :: versions.hooksBetween ++ [.afterMigration]
  /-- Nothing is begun unless all that was begun before has returned. -/
  returned_before : ∀ first entry rest, log = first ++ entry :: rest →
    ∀ former ∈ first, former.2 = .ok ()
  nodup_begun : log.begun.Nodup
  storing_iff : .storing ∈ log.begun ↔
    ∀ hook ∈ .beforeMigration :: versions.hooksBetween, (.hook hook, .ok ()) ∈ log
  /-- At most one batch is submitted, and it is the statement that stores the target;
  this is submitted if there is such a statement and the hooks before it have returned,
  and only then. -/
  length_submitted : (submitted versions log).length ≤ 1
  mem_submitted_iff : ∀ batch, batch ∈ submitted versions log ↔
    (∃ statement, versions.update = .ok statement ∧ batch = [statement]) ∧
      ∀ hook ∈ .beforeMigration :: versions.hooksBetween, (.hook hook, .ok ()) ∈ log
  /-- Without such a statement the storing fails. -/
  fails_update : ∀ fault, versions.update = .error fault →
    (∀ hook ∈ .beforeMigration :: versions.hooksBetween, (.hook hook, .ok ()) ∈ log) →
    (.storing, .error fault) ∈ log
  afterMigration_iff : .hook .afterMigration ∈ log.begun ↔ (.storing, .ok ()) ∈ log
  /-- The migration returns the state of the schema if everything has returned, and
  only then. -/
  returns_iff : ending.1 = .ok (.classify (.int versions.stored) versions.target) ↔
    ∀ stage ∈ plan versions, (stage, .ok ()) ∈ log
  eq_of_returns : ∀ state, ending.1 = .ok state →
    state = .classify (.int versions.stored) versions.target
  /-- The fault of a hook is passed on if it says already that the migration was
  given up, and else it is the cause of one that says so. -/
  fails_hook : ∀ hook fault, (.hook hook, .error fault) ∈ log →
    ending.1 = .error (if fault.isMigrationFailure then fault
      else .hookFailed hook versions.stored versions.target fault)
  fails_storing : ∀ fault, (.storing, .error fault) ∈ log → ending.1 = .error fault

namespace Migration

variable {database : Database} {migration : Migration ω} {versions : Versions}
  {ready : Session ω}

theorem storing_begun_iff :
    .storing ∈ (migration.staged database versions ready).1.begun ↔
      ∀ hook ∈ .beforeMigration :: versions.hooksBetween,
        (.hook hook, .ok ()) ∈ (migration.staged database versions ready).1 := by
  have hiff := Action.mem_begun_logged_iff (Stage.action database migration versions)
    (nodup_plan versions) ready
  rw [List.forall_mem_map] at hiff
  exact hiff

theorem nodup_begun_staged : (migration.staged database versions ready).1.begun.Nodup :=
  (Action.begun_logged_prefix _ _).sublist.nodup (nodup_plan versions)

theorem submitted_staged :
    submitted versions (migration.staged database versions ready).1 =
      if .storing ∈ (migration.staged database versions ready).1.begun
        then Stage.batches versions .storing else [] :=
  flatMap_batches versions nodup_begun_staged

theorem mem_batches_storing {batch : List Statement} :
    batch ∈ Stage.batches versions .storing ↔
      ∃ statement, versions.update = .ok statement ∧ batch = [statement] := by
  unfold Stage.batches
  cases versions.update with
  | error fault => simp [Except.toOption]
  | ok statement => simp [Except.toOption]

theorem mem_submitted_staged_iff {batch : List Statement} :
    batch ∈ submitted versions (migration.staged database versions ready).1 ↔
      (∃ statement, versions.update = .ok statement ∧ batch = [statement]) ∧
        ∀ hook ∈ .beforeMigration :: versions.hooksBetween,
          (.hook hook, .ok ()) ∈ (migration.staged database versions ready).1 := by
  rw [submitted_staged, ← mem_batches_storing, ← storing_begun_iff]
  split <;> simp_all

theorem length_submitted_staged :
    (submitted versions (migration.staged database versions ready).1).length ≤ 1 := by
  rw [submitted_staged, Stage.batches]
  split
  · cases versions.update <;> simp [Except.toOption]
  · exact Nat.zero_le 1

/-- If there is no statement that stores the target, the storing fails when its turn comes. -/
theorem storing_error_mem_staged {fault : Fault} (hupdate : versions.update = .error fault)
    (hhooks : ∀ hook ∈ .beforeMigration :: versions.hooksBetween,
      (.hook hook, .ok ()) ∈ (migration.staged database versions ready).1) :
    (.storing, .error fault) ∈ (migration.staged database versions ready).1 := by
  obtain ⟨⟨stage, result⟩, hmem, rfl⟩ := List.mem_map.mp (storing_begun_iff.mpr hhooks)
  obtain ⟨before, after, hperform⟩ := (Action.tells_logged _ _).exists_of_mem hmem
  rw [action_storing_of_error database migration hupdate] at hperform
  obtain ⟨rfl, -⟩ := Prod.mk.inj hperform
  exact hmem

theorem afterMigration_begun_iff :
    .hook .afterMigration ∈ (migration.staged database versions ready).1.begun ↔
      (.storing, .ok ()) ∈ (migration.staged database versions ready).1 := by
  have hplan : plan versions = ((Hook.beforeMigration :: versions.hooksBetween).map .hook
      ++ [.storing]) ++ [.hook .afterMigration] := by
    rw [plan, List.append_assoc]
    rfl
  have hiff := Action.mem_begun_logged_iff (Stage.action database migration versions)
    (hplan ▸ nodup_plan versions) ready
  rw [← hplan] at hiff
  refine hiff.trans ⟨?_, ?_⟩
  · intro h
    exact h _ (List.mem_append_right _ List.mem_cons_self)
  · -- the storing was begun, so all before it has returned
    intro hstored stage hstage
    have hhooks := storing_begun_iff.mp (StepLog.mem_begun_of_mem hstored)
    rcases List.mem_append.mp hstage with hhook | hstoring
    · obtain ⟨hook, hmem, rfl⟩ := List.mem_map.mp hhook
      exact hhooks hook hmem
    · rwa [List.mem_singleton.mp hstoring]

/-- The ending of a run through the stages, with the state of the schema as its
value. -/
private def concluded (versions : Versions) (result : Except Fault Unit) :
    Except Fault SchemaState :=
  result.map fun _ => .classify (.int versions.stored) versions.target

private theorem concluded_eq_ok_iff {result : Except Fault Unit} {state : SchemaState} :
    concluded versions result = .ok state ↔
      result = .ok () ∧ state = .classify (.int versions.stored) versions.target := by
  unfold concluded
  cases result with
  | error fault => simp [Except.map]
  | ok value => simp [Except.map, eq_comm]

private theorem performEach_plan_apply (versions : Versions) :
    (do
      Action.performEach (Stage.action database migration versions) (Stage.fault versions)
        (plan versions)
      return .classify (.int versions.stored) versions.target : Action ω SchemaState) ready =
    (concluded versions ((migration.staged database versions ready).1.verdict
      (Stage.fault versions)), (migration.staged database versions ready).2) := by
  rw [Action.bind_apply, Action.performEach_apply, staged]
  rcases StepLog.verdict _ _ with fault | _ <;> rfl

/-- The stages of a migration run a course. -/
theorem course_staged (database : Database) (migration : Migration ω) (versions : Versions)
    (ready : Session ω) :
    Course database migration versions ready (migration.staged database versions ready).1
      (concluded versions ((migration.staged database versions ready).1.verdict
        (Stage.fault versions)), (migration.staged database versions ready).2) := by
  have hverdict := Action.verdict_logged_eq_ok_iff (Stage.action database migration versions)
    (Stage.fault versions) (nodup_plan versions) ready
  refine ⟨Action.tells_logged _ _, ?_, fun _ _ _ => Action.returned_before, nodup_begun_staged,
    storing_begun_iff, length_submitted_staged, fun _ => mem_submitted_staged_iff,
    fun _ => storing_error_mem_staged, afterMigration_begun_iff, ?_, ?_, ?_, ?_⟩
  · rw [← filterMap_hook?_plan]
    exact (Action.begun_logged_prefix _ _).filterMap _
  · exact concluded_eq_ok_iff.trans ((and_iff_left rfl).trans hverdict)
  · intro state hstate
    exact (concluded_eq_ok_iff.mp hstate).2
  · intro hook fault hmem
    exact congrArg (concluded versions) (Action.verdict_logged_of_error hmem)
  · intro fault hmem
    exact congrArg (concluded versions) (Action.verdict_logged_of_error hmem)

/-- A migration that returns has called all of its hooks. -/
theorem Course.hooks_eq_of_returns {log : StepLog Stage} {state : SchemaState}
    {ending : Except Fault SchemaState × Session ω}
    (hcourse : Course database migration versions ready log ending)
    (hreturns : ending.1 = .ok state) :
    calledHooks log = .beforeMigration :: versions.hooksBetween ++ [.afterMigration] := by
  have hall := hcourse.returns_iff.mp (hcourse.eq_of_returns state hreturns ▸ hreturns)
  obtain ⟨rest, hrest⟩ := hcourse.hooks_prefix
  rw [← filterMap_hook?_plan] at hrest ⊢
  cases rest with
  | nil => rwa [List.append_nil] at hrest
  | cons hook rest =>
      -- a hook that was not called would have returned
      have hnodup : ((plan versions).filterMap Stage.hook?).Nodup := by
        rw [filterMap_hook?_plan]
        exact nodup_hooks versions
      have hplanned : hook ∈ (plan versions).filterMap Stage.hook? := by
        rw [← hrest]
        exact List.mem_append_right _ List.mem_cons_self
      obtain ⟨stage, hstage, hhook⟩ := List.mem_filterMap.mp hplanned
      have hcalled : hook ∈ calledHooks log :=
        List.mem_filterMap.mpr ⟨stage, StepLog.mem_begun_of_mem (hall stage hstage), hhook⟩
      rw [← hrest] at hnodup
      exact absurd rfl ((List.nodup_append.mp hnodup).2.2 hook hcalled hook List.mem_cons_self)

/-- With a target that is not too low, a migration runs its course once the version is
read. -/
theorem ends_migrate (database : Database) (migration : Migration ω) {target : Value}
    (htarget : target.lessThan 1 = .ok false) (session : Session ω) :
    Ends (fun stored ready => Course database migration ⟨stored, target⟩ ready
        (migration.log database target session) (database.migrate migration target session))
      (fun fault failed => migration.log database target session = [] ∧
        database.migrate migration target session = (.error fault, failed))
      (database.reading session) := by
  rw [migrate_eq database migration htarget, Action.bind_apply, log, htarget]
  rcases database.reading session with ⟨fault | stored, ready⟩
  · exact ⟨rfl, rfl⟩
  · rw [Action.after_ok, performEach_plan_apply ⟨stored, target⟩]
    exact course_staged database migration ⟨stored, target⟩ ready

/-- A session with an empty shelf. -/
def unused : Session Shelf where
  outside := {}

end Migration

end

end SqlAccess
