import SqlAccess.Proofs.Workload.Failing
import SqlAccess.Proofs.Workload.Ownership

/-!
# How failures surface

Whatever operations are run, on whatever databases and with whatever replies of the
engine, a failure of the engine surfaces in one way only (`Surfaces`): as the cause of
a fault that says that a database could not be opened, that a statement or a
transaction failed, or that a migration was given up.  An operation ends with an error
of the engine itself only if the client made it fail with that error, or if it closes
connections.

The last is an oversight of the library.  Closing passes the error of the engine on as
it is (`close_raises`), where an opening that fails makes a fault of its own from it.

Operations that are started together do not fail, whatever becomes of the single ones.
If a hook does this, the failures need not reach the migration, so for such a migration
it is only said that it is never given up with an error of the engine.
-/

namespace SqlAccess.Workload

open SqlAccess.Action Fault

/-! ## Operations -/

/-- Whether an operation closes connections. -/
def Operation.Closes : Operation → Prop
  | .task request => request.Closes
  | _ => False

/-- The faults with which the client lets an operation itself fail. -/
def Operation.raised : Operation → List Fault
  | .task request => request.raised
  | _ => []

mutual

/-- Nothing is started together with other operations. -/
def Operation.IsSequential : Operation → Prop
  | .task _ => True
  | .gather _ => False
  | .migrate _ hooks => HooksSequential hooks

/-- Operations in which nothing is started together. -/
def AllSequential : List (Database × Operation) → Prop
  | [] => True
  | (_, operation) :: operations => operation.IsSequential ∧ AllSequential operations

/-- Hooks in which nothing is started together. -/
def HooksSequential : List (Hook × List (Database × Operation)) → Prop
  | [] => True
  | (_, operations) :: hooks => AllSequential operations ∧ HooksSequential hooks

end

theorem allSequential_iff {operations : List (Database × Operation)} :
    AllSequential operations ↔ ∀ entry ∈ operations, entry.2.IsSequential := by
  induction operations with
  | nil => simp [AllSequential]
  | cons head operations ih => rw [AllSequential, ih, List.forall_mem_cons]

theorem hooksSequential_iff {hooks : List (Hook × List (Database × Operation))} :
    HooksSequential hooks ↔ ∀ hook ∈ hooks, AllSequential hook.2 := by
  induction hooks with
  | nil => simp [HooksSequential]
  | cons head hooks ih => rw [HooksSequential, ih, List.forall_mem_cons]

/-! ## Migrations -/

theorem accounts_note (entry : Note) {own passed : Fault → Prop} :
    Accounts World.failures own passed (note entry) :=
  accounts_modifyOutside fun world => by
    simp [World.failures, World.note, Script.note, Event.failure?]

/-- A hook accounts for failures if its operations do. -/
theorem accounts_hookOf {own passed : Fault → Prop}
    {hooks : List (Hook × List (Database × Operation))}
    (h : ∀ hook ∈ hooks, ∀ entry ∈ hook.2,
      Accounts World.failures own passed (entry.2.run entry.1)) {hook : Hook}
    {run : Versions → Action World Unit} (hrun : hookOf hooks hook = some run)
    (versions : Versions) : Accounts World.failures own passed (run versions) := by
  have hrunNoted : ∀ operations : List (Database × Operation),
      (∀ entry ∈ operations, Accounts World.failures own passed (entry.2.run entry.1)) →
      Accounts World.failures own passed (runNoted operations) := by
    intro operations hoperations
    induction operations with
    | nil =>
        unfold runNoted
        exact accounts_pure _
    | cons head operations ih =>
        obtain ⟨database, operation⟩ := head
        rw [List.forall_mem_cons] at hoperations
        unfold runNoted
        exact accounts_bind hoperations.1 fun _ =>
          accounts_bind (accounts_note _) fun _ => ih hoperations.2
  induction hooks with
  | nil =>
      unfold hookOf at hrun
      cases hrun
  | cons head hooks ih =>
      obtain ⟨name, operations⟩ := head
      rw [List.forall_mem_cons] at h
      unfold hookOf at hrun
      split at hrun
      · cases hrun
        exact accounts_bind (accounts_note _) fun _ => hrunNoted operations h.1
      · exact ih h.2 hrun

theorem Migration.failsOnly_ofHooks {law : Fault → Prop}
    (hlaw : ∀ fault, NotEngine fault → law fault)
    (hooks : Hook → Option (Versions → Action World Unit)) :
    FailsOnly law (Migration.ofHooks hooks) :=
  failsOnly_ite (failsOnly_error (hlaw _ rfl)) (failsOnly_ok _)

/-- A migration accounts for what the operations of its hooks account for. -/
theorem accounts_migration (database : Database) (target : Value)
    {hooks : List (Hook × List (Database × Operation))}
    (h : ∀ hook ∈ hooks, ∀ entry ∈ hook.2,
      Accounts World.failures (fun _ => True) (fun _ => True) (entry.2.run entry.1)) :
    Accounts World.failures NotEngine NotEngine
      ((Operation.migrate target hooks).run database) := by
  unfold Operation.run
  refine accounts_bind_lift (Migration.failsOnly_ofHooks (fun _ h => h) _)
    fun migration hmigration => ?_
  refine accounts_bind (database.accounts_migrate World.records_failures (fun _ h => h) target
    fun hook versions => ?_) fun _ => accounts_pure _
  unfold Migration.ofHooks at hmigration
  split at hmigration
  · cases hmigration
  · cases hmigration
    cases hrun : hookOf hooks hook with
    | none =>
        simp only [hrun]
        exact accounts_pure _
    | some run =>
        simp only [hrun]
        exact accounts_hookOf h hrun versions

/-- What an operation in which nothing is started together ends with is accounted for,
whether it closes connections or not. -/
theorem accounts_operation (database : Database) {operation : Operation}
    (hsequential : operation.IsSequential) :
    Accounts World.failures (fun _ => True) (fun _ => True) (operation.run database) := by
  induction operation using Operation.induction generalizing database with
  | task task =>
      unfold Operation.run
      by_cases hcloses : task.Closes
      · exact (passesOn_task database hcloses).accounts
      · exact (accounts_task database hcloses).mono (fun _ _ => trivial) fun _ _ => trivial
  | gather operations ih => exact hsequential.elim
  | migrate target hooks ih =>
      have hhooks := hooksSequential_iff.mp hsequential
      refine (accounts_migration database target fun hook hhook entry hentry => ?_).mono
        (fun _ _ => trivial) fun _ _ => trivial
      exact ih hook hhook entry hentry entry.1
        (allSequential_iff.mp (hhooks hook hhook) entry hentry)

/-- A migration is never given up with an error of the engine, whatever its hooks do. -/
theorem raisesOnly_migration (database : Database) (target : Value)
    (hooks : List (Hook × List (Database × Operation))) :
    RaisesOnly NotEngine ((Operation.migrate target hooks).run database) := by
  have hown : ∀ fault, NotEngine fault → NotEngine fault := fun _ h => h
  unfold Operation.run
  refine raisesOnly_bind (fun _ => Migration.failsOnly_ofHooks hown _) fun migration => ?_
  exact raisesOnly_bind (database.raisesOnly_migrate World.records_failures hown migration target)
    fun _ _ => failsOnly_ok _

/-! ## Operations started together -/

/-- Each operation runs in the session that the one before it has left, and what comes
after it runs whether or not it failed. -/
theorem runGathered_cons (database : Database) (operation : Operation)
    (operations : List (Database × Operation)) (session : Session World) :
    runGathered ((database, operation) :: operations) session =
      after (runGathered operations (operation.run database session).2) fun results =>
        pure ((operation.run database session).1 :: results) := by
  rw [runGathered]
  rfl

theorem raisesOnly_runGathered (operations : List (Database × Operation)) :
    RaisesOnly (fun _ => False) (runGathered operations) := by
  induction operations with
  | nil =>
      unfold runGathered
      exact fun _ => failsOnly_ok _
  | cons head operations ih =>
      unfold runGathered
      exact raisesOnly_bind (fun _ => failsOnly_ok _) fun _ =>
        raisesOnly_bind ih fun _ _ => failsOnly_ok _

/-- What the journal tells of failures is never taken back. -/
theorem exists_failures_run (database : Database) (operation : Operation)
    (session : Session World) : ∃ failures,
      (operation.run database session).2.outside.failures =
        session.outside.failures ++ failures := by
  let kept := fun later : Session World => (scriptOf session).journal <+: (scriptOf later).journal
  have hstable : Stable anyScope kept :=
    @stable_of_turns anyScope kept fun hturn hfirst =>
      hfirst.trans (journal_isPrefix_of_turn hturn)
  have hjournal := keeps_anyOperation hstable database operation session (List.prefix_refl _)
  obtain ⟨failures, hfailures⟩ := hjournal.filterMap Event.failure?
  exact ⟨failures, hfailures.symm⟩

/-! ## Surfacing -/

/-- How an operation ended, as against the requests that failed on the way. -/
structure Surfaces (operation : Operation) (result : Except Fault Answer)
    (failures : List Fault) : Prop where
  /-- An error of the engine is never raised, unless the client raised it. -/
  notEngine : ¬ operation.Closes → ∀ fault, result = .error fault →
    fault.isEngineError = true → fault ∈ operation.raised
  /-- No failure gets lost: an operation that gave an answer had none. -/
  answered : operation.IsSequential → ∀ answer, result = .ok answer → failures = []
  /-- An error of the engine is among the causes of what is raised in its place. -/
  wrapped : operation.IsSequential → ¬ operation.Closes → ∀ fault, result = .error fault →
    ∀ cause, failures.getLast? = some cause → HasCause cause fault ∧
      (cause.isEngineError = true → fault.category ∈ Category.ofMade)
  /-- Closing passes on the failure as it is. -/
  closed : operation.Closes → failures = failureOf result

/-- How operations ended that were run one after the other, with the failures of all
of them. -/
inductive AllSurface : List (Database × Operation) → List (Except Fault Answer) → List Fault →
    Prop where
  | nil : AllSurface [] [] []
  | cons {database : Database} {operation : Operation} {result : Except Fault Answer}
      {operations : List (Database × Operation)} {results : List (Except Fault Answer)}
      {failures more : List Fault} :
      Surfaces operation result failures → AllSurface operations results more →
      AllSurface ((database, operation) :: operations) (result :: results) (failures ++ more)

theorem surfaces_of_accounted {operation : Operation} {result : Except Fault Answer}
    {failures : List Fault} (hcloses : ¬ operation.Closes)
    (haccounted : AccountedBy (fun fault => fault.NotEngine ∨ fault ∈ operation.raised) NotEngine
      failures result) : Surfaces operation result failures where
  notEngine _ fault hfault hengine := by
    subst hfault
    have hnot : ¬ fault.NotEngine := fun h => Bool.false_ne_true (h.symm.trans hengine)
    rcases haccounted with ⟨-, h | hraised⟩ | ⟨cause, -, -, h⟩
    · exact absurd h hnot
    · exact hraised
    · exact absurd h hnot
  answered _ answer hanswer := by
    subst hanswer
    exact haccounted
  wrapped _ _ fault hfault cause hlast := by
    subst hfault
    rcases haccounted with ⟨rfl, -⟩ | ⟨cause', hlast', hcause, h⟩
    · cases hlast
    · obtain rfl : cause' = cause := Option.some.inj (hlast'.symm.trans hlast)
      exact ⟨hcause, fun hengine => category_of_hasCause hcause hengine h⟩
  closed hclosing := absurd hclosing hcloses

/-- Every operation surfaces its failures. -/
theorem exists_surfaces_run (database : Database) (operation : Operation)
    (session : Session World) : ∃ failures,
      (operation.run database session).2.outside.failures =
        session.outside.failures ++ failures ∧
      Surfaces operation (operation.run database session).1 failures := by
  cases operation with
  | task task =>
      unfold Operation.run
      by_cases hcloses : task.Closes
      · refine ⟨_, passesOn_task database hcloses session, ?_⟩
        exact
          { notEngine := absurd hcloses
            answered := fun _ answer hanswer => by rw [hanswer]; rfl
            wrapped := fun _ => absurd hcloses
            closed := fun _ => rfl }
      · obtain ⟨failures, htold, haccounted⟩ := accounts_task database hcloses session
        exact ⟨failures, htold, surfaces_of_accounted hcloses haccounted⟩
  | gather operations =>
      obtain ⟨failures, htold⟩ := exists_failures_run database (.gather operations) session
      have hraises : RaisesOnly (fun _ => False) ((Operation.gather operations).run database) := by
        unfold Operation.run
        exact raisesOnly_bind (raisesOnly_runGathered operations) fun _ _ => failsOnly_ok _
      exact ⟨failures, htold,
        { notEngine := fun _ fault hfault => (hraises session fault hfault).elim
          answered := False.elim
          wrapped := False.elim
          closed := False.elim }⟩
  | migrate target hooks =>
      by_cases hsequential : (Operation.migrate target hooks).IsSequential
      · have hhooks := hooksSequential_iff.mp hsequential
        have haccounts := accounts_migration database target fun hook hhook entry hentry =>
          accounts_operation entry.1 (allSequential_iff.mp (hhooks hook hhook) entry hentry)
        obtain ⟨failures, htold, haccounted⟩ := haccounts session
        exact ⟨failures, htold, surfaces_of_accounted id
          (haccounted.mono (fun _ => .inl) fun _ h => h)⟩
      · obtain ⟨failures, htold⟩ := exists_failures_run database (.migrate target hooks) session
        have hraises := raisesOnly_migration database target hooks session
        exact ⟨failures, htold,
          { notEngine := fun _ fault hfault hengine =>
              absurd ((hraises fault hfault).symm.trans hengine) Bool.false_ne_true
            answered := fun h => absurd h hsequential
            wrapped := fun h => absurd h hsequential
            closed := False.elim }⟩

/-- Whatever operations are run one after the other, on whatever databases, and
whatever the engine replies, each of them surfaces its failures, and these are all
failures that there were. -/
theorem runGathered_surfaces (operations : List (Database × Operation))
    (session : Session World) : ∃ results failures,
      (runGathered operations session).1 = .ok results ∧
      (runGathered operations session).2.outside.failures =
        session.outside.failures ++ failures ∧
      AllSurface operations results failures := by
  induction operations generalizing session with
  | nil =>
      unfold runGathered
      exact ⟨[], [], rfl, (List.append_nil _).symm, .nil⟩
  | cons head operations ih =>
      obtain ⟨database, operation⟩ := head
      obtain ⟨failures, htold, hsurfaces⟩ := exists_surfaces_run database operation session
      obtain ⟨results, more, hresults, hmore, haccount⟩ :=
        ih (operation.run database session).2
      rw [runGathered_cons]
      generalize runGathered operations (operation.run database session).2 = ending
        at hresults hmore ⊢
      obtain ⟨result, last⟩ := ending
      obtain rfl : result = .ok results := hresults
      refine ⟨_, failures ++ more, rfl, ?_, .cons hsurfaces haccount⟩
      calc last.outside.failures
          = (operation.run database session).2.outside.failures ++ more := hmore
        _ = session.outside.failures ++ (failures ++ more) := by rw [htold, List.append_assoc]

/-! ## Closing -/

/-- Closing raises the error with which the engine refuses to close, as it is. -/
theorem close_raises {database : Database} {session : Session World} {handle : Handle}
    {fault : Fault} (hopen : session.registry.handle? database.name = some handle)
    (hfault : (scriptOf session).nextReply.fault = some fault) :
    ((Operation.task .close).run database session).1 = .error fault := by
  have hanswer : Script.Reply.answer (scriptOf session).nextReply () = .error fault := by
    unfold Script.Reply.answer
    rw [hfault]
  obtain ⟨last, hclose⟩ : ∃ last, close handle { session with
      registry := session.registry.setHandle database.name none } = (.error fault, last) :=
    ⟨_, Prod.ext hanswer rfl⟩
  unfold Operation.run
  change (after (closed database.name session) fun _ => pure Answer.nothing).1 = _
  rw [closed_of_handle hopen, hclose]
  rfl

/-- The session in which a database was opened that the engine refuses to close. -/
def refusingToClose : Session World :=
  ((Operation.task .connect).run ⟨"app.db"⟩ (newSession {} (.replicate 3 {} ++
    [{ fault := some (.reported (.engine .operational) "unable to close") }]) {})).2

/-- Closing it raises the error of the engine, which nobody else has raised. -/
theorem runGathered_refusingToClose :
    (runGathered [(⟨"app.db"⟩, .task .close)] refusingToClose).1 =
        .ok [.error (.reported (.engine .operational) "unable to close")] ∧
      Fault.isEngineError (.reported (.engine .operational) "unable to close") = true ∧
      (Operation.task .close).raised = [] := by
  have hopen : refusingToClose.registry.handle? "app.db" = some ⟨1⟩ := by
    unfold refusingToClose Operation.run
    decide +kernel
  have hfault : (scriptOf refusingToClose).nextReply.fault =
      some (.reported (.engine .operational) "unable to close") := by
    unfold refusingToClose Operation.run
    rfl
  have hclose : ((Operation.task .close).run ⟨"app.db"⟩ refusingToClose).1 = _ :=
    close_raises hopen hfault
  refine ⟨?_, rfl, rfl⟩
  rw [runGathered_cons, hclose, runGathered]
  rfl

end SqlAccess.Workload
