import SqlAccess.Proofs.Migration.Course
import SqlAccess.Proofs.Session.Reach
import SqlAccess.Proofs.Session.Ready

/-!
# The history of the version

What becomes of the stored version when a database is migrated again and again, on
an engine that keeps the version as a register.  The hooks do anything that can be
done with the library, except to write the version themselves
(`Migration.SparesVersion`); hooks, the engine, or the storing of the version may
fail wherever they like.

A migration changes the version in a single place, the storing stage, and that is a
transaction of its own: the version becomes the target if the stage returns, and
stays what it was if not (`settled_tells`).  Everything that is said of histories
(`version_history`) comes from this and from the fact that reading the version tells
what is stored (`ends_reading`).
-/

namespace SqlAccess

variable {ω δ : Type} [Engine ω]

open Migration (Stage)

namespace VersionedEngine

variable {engine : VersionedEngine ω δ} {config : Config} {number : Int}
  {database : Database} {migration : Migration ω} {session : Session ω}

/-- What client code may do if it does not write the version. -/
def scope (engine : VersionedEngine ω δ) : Scope ω where
  submits config database statement :=
    engine.leads (config.resolve database) → ¬ engine.writesVersion statement
  drifts before after := engine.stored after = engine.stored before ∧
    ∀ handle, Undisturbed engine.file handle before after

theorem settled_opened (name : String) :
    Action.Keeps (engine.Settled config number) (Action.opened name : Action ω Handle) := by
  intro session h
  exact ends_state_iff.mp ((ends_opened h name).mono (fun _ _ => And.right) fun _ _ h => h)

theorem stable_settled : Stable engine.scope (engine.Settled config number) := by
  intro before after hmove h
  cases hmove with
  | batch hsubmits =>
      refine settled_runBatch (fun hleads statement hstatement => ?_) before h
      rw [h.config_eq] at hsubmits
      exact hsubmits statement hstatement hleads
  | opening name => exact settled_opened name before h
  | closing name => exact settled_closed name before h
  | registering name => exact settled_connection name before h
  | drifting hdrifts =>
      obtain ⟨hstored, hundisturbed⟩ := hdrifts
      refine ⟨⟨h.config_eq, h.path_eq, fun hname => ?_, fun hname => ?_, h.injective⟩,
        (congrArg engine.version hstored).trans h.register_eq⟩
      · exact (hundisturbed _).1.trans (h.file_eq hname)
      · exact (hundisturbed _).2.trans (h.idle hname)

/-! ## Reading and storing the version -/

theorem versionOf_told {result : ResultSet} (isInsertion : Bool)
    (hcolumns : result.columns = ["user_version"]) (hrows : result.rows = [[.int number]]) :
    Database.versionOf (Outcome.ofResult isInsertion result).first? = .ok number := by
  have hrow : (Outcome.ofResult isInsertion result).first? =
      some (Row.ofCells ["user_version"] [.int number]) := by
    simp only [Outcome.first?, Outcome.ofResult, Outcome.rowsOf, hcolumns, hrows]
    rfl
  have hvalue : (Row.ofCells ["user_version"] [.int number]).get? "user_version" =
      some (.int number) := by rfl
  rw [hrow, Database.versionOf, Option.bind_some, hvalue]
  by_cases hzero : number = 0
  · subst hzero
    rfl
  · have htruth : (Value.int number).truth = true := by simpa [Value.truth] using hzero
    simp only [htruth, if_true]
    rfl

theorem settled_open (database : Database) :
    Action.Keeps (engine.Settled config number) (database.connection : Action ω Connection) :=
  Action.keeps_bind (settled_opened _) fun _ => settled_connection _

/-- Reading the version tells what is stored. -/
theorem ends_reading (h : engine.Settled config number session)
    (hleads : engine.leads (config.resolve database.name)) :
    Ends (fun stored after => stored = number ∧ engine.Settled config number after)
      (fun _ after => engine.Settled config number after) (database.reading session) := by
  refine Action.ends_bind ((settled_open database).ends h) fun _ opened hopened => ?_
  -- the question is a batch on the file with the version, and it writes nothing there
  have hplain : ∀ statement ∈ [Database.versionQuestion], ¬ engine.controls statement := by
    simpa using engine.not_controls_versionQuestion
  have hwrites : engine.leads (config.resolve database.name) →
      ∀ statement ∈ [Database.versionQuestion], ¬ engine.writesVersion statement := by
    simpa using fun _ => engine.not_writesVersion_versionQuestion
  have hasked := (ends_leading_batch hopened hleads (List.cons_ne_nil _ _) hplain).and
    ((settled_runBatch hwrites).ends hopened)
  have hexecuted : Ends (fun outcome after => Database.versionOf outcome.first? = .ok number ∧
        engine.Settled config number after)
      (fun _ after => engine.Settled config number after)
      (database.execute Database.versionQuestion opened) := by
    refine Action.ends_bind (hasked.mono (fun _ _ h => h) fun _ _ => And.right) ?_
    rintro outcomes after ⟨⟨data, changed, hdata, hcomposed, -⟩, hsettled⟩
    cases hcomposed with
    | cons heffect hrest =>
        cases hrest
        obtain ⟨hcolumns, hrows⟩ := engine.version_told heffect
        exact ⟨versionOf_told _ hcolumns (hdata ▸ hrows), hsettled⟩
  refine Action.ends_bind hexecuted ?_
  rintro outcome after ⟨hversion, hafter⟩
  rw [hversion]
  exact ⟨rfl, hafter⟩

/-- Storing a version either succeeds, or it leaves the one that was stored. -/
theorem ends_storing (migration : Migration ω) (h : engine.Settled config number session)
    (hleads : engine.leads (config.resolve database.name)) (stored target : Int) :
    Ends (fun _ after => engine.Settled config target after)
      (fun _ after => engine.Settled config number after)
      (Stage.action database migration ⟨stored, .int target⟩ .storing session) := by
  have hplain : ∀ statement ∈ [Database.versionUpdate target], ¬ engine.controls statement := by
    simpa using engine.not_controls_versionUpdate target
  refine Action.ends_bind_lift (fun _ _ => h) fun statement hupdate => ?_
  -- the version has been written down as it is
  obtain rfl : Database.versionUpdate target = statement := by
    rw [Versions.update_of_ok rfl] at hupdate
    split_ifs at hupdate
    exact Except.ok.inj hupdate
  refine Action.ends_bind (ends_leading_batch h hleads (List.cons_ne_nil _ _) hplain) ?_
  rintro outcomes after ⟨data, changed, -, hcomposed, hsettled⟩
  cases hcomposed with
  | cons heffect hrest =>
      cases hrest
      rw [engine.version_updated heffect] at hsettled
      exact hsettled

end VersionedEngine

/-! ## One migration -/

/-- The hooks of a migration do what they like, but they do not write the version. -/
def Migration.SparesVersion (engine : VersionedEngine ω δ) (migration : Migration ω) : Prop :=
  ∀ hook versions session, Reaches engine.scope session (migration.run hook versions session).2

/-- The version write of a migration has returned, and so it is committed. -/
def Migration.Wrote (log : StepLog Stage) : Prop :=
  (Stage.storing, .ok ()) ∈ log

namespace Migration

variable {engine : VersionedEngine ω δ} {config : Config} {number target : Int}
  {database : Database} {migration : Migration ω} {session : Session ω}

/-- The stages change the version by the storing alone. -/
theorem settled_tells (hspares : migration.SparesVersion engine)
    (hleads : engine.leads (config.resolve database.name)) {stored : Int} {log : StepLog Stage}
    {last : Session ω}
    (htells : log.Tells (Stage.action database migration ⟨stored, .int target⟩) session last)
    (h : engine.Settled config number session) :
    (Wrote log → engine.Settled config target last) ∧
      (¬ Wrote log → engine.Settled config number last) := by
  -- the induction is on the log, and the version that is stored so far goes along
  induction htells generalizing number with
  | nil => exact ⟨fun hwrote => absurd hwrote List.not_mem_nil, fun _ => h⟩
  | @cons stage result log first between last hstage htells ih =>
      cases stage with
      | hook hook =>
          have hrest : Wrote ((.hook hook, result) :: log) ↔ Wrote log := by simp [Wrote]
          have hreaches := hspares hook ⟨stored, .int target⟩ first
          have hbetween := VersionedEngine.stable_settled.of_reaches hreaches h
          rw [show migration.run hook _ first = _ from hstage] at hbetween
          rw [hrest]
          exact ih hbetween
      | storing =>
          have hends := VersionedEngine.ends_storing migration h hleads stored target
          rw [hstage] at hends
          cases result with
          | error fault =>
              have hrest : Wrote ((.storing, .error fault) :: log) ↔ Wrote log := by
                simp [Wrote]
              rw [hrest]
              exact ih hends
          | ok value =>
              -- what is stored from now on is the target, whether or not it is stored again
              obtain ⟨hagain, honce⟩ := ih hends
              refine ⟨fun _ => ?_, fun hnot => absurd List.mem_cons_self hnot⟩
              by_cases hwrote : Wrote log
              · exact hagain hwrote
              · exact honce hwrote

variable {log : StepLog Stage}

/-- What is known of a migration once it has run in a session with a version: what
it has read, which hooks it has called, and what it has stored. -/
structure Advance (engine : VersionedEngine ω δ) (config : Config) (number target : Int)
    (log : StepLog Stage) (ending : Except Fault SchemaState × Session ω) : Prop where
  settled_of_wrote : Wrote log → engine.Settled config target ending.2
  settled_of_not_wrote : ¬ Wrote log → engine.Settled config number ending.2
  hooks_prefix : calledHooks log <+:
    .beforeMigration :: Versions.hooksBetween ⟨number, .int target⟩ ++ [.afterMigration]
  hooks_eq : ∀ state, ending.1 = .ok state → calledHooks log =
    .beforeMigration :: Versions.hooksBetween ⟨number, .int target⟩ ++ [.afterMigration]
  wrote_of_returns : ∀ state, ending.1 = .ok state → Wrote log
  wrote_of_begun : .hook .afterMigration ∈ log.begun → Wrote log

theorem advance_migrate (hspares : migration.SparesVersion engine)
    (hleads : engine.leads (config.resolve database.name)) (htarget : 1 ≤ target)
    (h : engine.Settled config number session) :
    Advance engine config number target (migration.log database (.int target) session)
      (database.migrate migration (.int target) session) := by
  have hchecked : (Value.int target).lessThan 1 = .ok false := by
    rw [Value.lessThan_int, decide_eq_false (by omega)]
  -- the version that the migration has read is the one that is stored
  have hboth := (ends_migrate database migration hchecked session).and
    (VersionedEngine.ends_reading h hleads)
  rcases hreading : database.reading session with ⟨fault | stored, ready⟩
  · rw [hreading] at hboth
    obtain ⟨⟨hlog, hmigrate⟩, hsettled⟩ := hboth
    rw [hlog, hmigrate]
    exact ⟨fun hwrote => absurd hwrote List.not_mem_nil, fun _ => hsettled, List.nil_prefix,
      nofun, nofun, fun hbegun => absurd hbegun List.not_mem_nil⟩
  · rw [hreading] at hboth
    obtain ⟨hcourse, rfl, hsettled⟩ := hboth
    obtain ⟨hwrote, hnot⟩ := settled_tells hspares hleads hcourse.tells hsettled
    refine ⟨hwrote, hnot, hcourse.hooks_prefix, fun state => hcourse.hooks_eq_of_returns, ?_,
      hcourse.afterMigration_iff.mp⟩
    intro state hreturns
    refine hcourse.returns_iff.mp (hcourse.eq_of_returns state hreturns ▸ hreturns) _ ?_
    exact List.mem_append_right _ List.mem_cons_self

end Migration

/-! ## Histories -/

/-- Migrates a database again and again, whatever becomes of each migration. -/
def Database.migrateEach (database : Database) (calls : List (Migration ω × Int))
    (session : Session ω) : Session ω :=
  calls.foldl (fun session call => (database.migrate call.1 (.int call.2) session).2) session

/-- The state in which a migration to a target would find the schema, if it could
read the version. -/
def Database.classification (database : Database) (target : Int) (session : Session ω) :
    Option SchemaState :=
  match (database.reading session).1 with
  | .ok stored => some (.classify (.int stored) (.int target))
  | .error _ => none

namespace Migration

/-- What a migration, which was called before `later` ones, means for the version and
for the migrations after it. -/
structure Recorded (engine : VersionedEngine ω δ) (database : Database) (target : Int)
    (before : Session ω) (log : StepLog Stage) (ending : Except Fault SchemaState × Session ω)
    (later : List (Migration ω × Int)) : Prop where
  /-- If the version write was not committed, the version is what it was. -/
  register_unchanged : ¬ Wrote log → engine.register ending.2 = engine.register before
  /-- So the next call with the same target finds the same state. -/
  same_state : ¬ Wrote log → ∀ state ∈ database.classification target before,
    ∀ next ∈ database.classification target ending.2, next = state
  /-- If the migration returned, or if only its last hook failed, the version is the
  target. -/
  register_eq_target : ((∃ state, ending.1 = .ok state) ∨
      ∃ fault, (.hook .afterMigration, .error fault) ∈ log) →
    engine.register ending.2 = target
  /-- Once a version write is committed the schema is never created again. -/
  never_created : Wrote log → ∀ middle next goal rest, later = middle ++ (next, goal) :: rest →
    ∀ hook ∈ [Hook.onCreate, .onPostCreate],
      hook ∉ calledHooks (next.log database (.int goal) (database.migrateEach middle ending.2))
  /-- Repeating a migration that returned calls the first and the last hook, and no
  other one. -/
  repeated : ∀ state next rest, ending.1 = .ok state → later = (next, target) :: rest →
    calledHooks (next.log database (.int target) ending.2) <+:
        [.beforeMigration, .afterMigration] ∧
      ∀ again, (database.migrate next (.int target) ending.2).1 = .ok again →
        calledHooks (next.log database (.int target) ending.2) =
          [.beforeMigration, .afterMigration]

variable {engine : VersionedEngine ω δ} {config : Config} {number target : Int}
  {database : Database} {session : Session ω} {calls : List (Migration ω × Int)}

theorem eq_of_mem_classification (h : engine.Settled config number session)
    (hleads : engine.leads (config.resolve database.name)) {state : SchemaState}
    (hstate : state ∈ database.classification target session) :
    state = .classify (.int number) (.int target) := by
  have hends := VersionedEngine.ends_reading h hleads
  unfold Database.classification at hstate
  rcases hreading : database.reading session with ⟨fault | stored, ready⟩
  · rw [hreading] at hstate
    cases hstate
  · rw [hreading] at hends hstate
    obtain ⟨rfl, -⟩ := hends
    exact (Option.some.inj hstate).symm

/-- Migrations leave the session settled, and a version that is above zero stays
so. -/
theorem settled_migrateEach (hleads : engine.leads (config.resolve database.name))
    (htargets : ∀ call ∈ calls, 1 ≤ call.2)
    (hspares : ∀ call ∈ calls, call.1.SparesVersion engine)
    (h : engine.Settled config number session) :
    ∃ last, engine.Settled config last (database.migrateEach calls session) ∧
      (1 ≤ number → 1 ≤ last) := by
  induction calls generalizing number session with
  | nil => exact ⟨number, h, id⟩
  | cons call calls ih =>
      rw [List.forall_mem_cons] at htargets hspares
      have hadvance := advance_migrate hspares.1 hleads htargets.1 h
      by_cases hwrote : Wrote (call.1.log database (.int call.2) session)
      · obtain ⟨last, hlast, hpositive⟩ :=
          ih htargets.2 hspares.2 (hadvance.settled_of_wrote hwrote)
        exact ⟨last, hlast, fun _ => hpositive htargets.1⟩
      · exact ih htargets.2 hspares.2 (hadvance.settled_of_not_wrote hwrote)

theorem hooksBetween_same (hpositive : 1 ≤ target) :
    Versions.hooksBetween ⟨target, .int target⟩ = [] := by
  have hsame : (Value.int target).same (.int target) = true := by
    rw [Value.same_int, decide_eq_true rfl]
  unfold Versions.hooksBetween
  rw [if_neg (show ¬ target = 0 by omega), if_pos hsame]

theorem not_mem_hooksBetween (hpositive : 1 ≤ number) (goal : Value) :
    ∀ hook ∈ [Hook.onCreate, .onPostCreate],
      hook ∉ .beforeMigration :: Versions.hooksBetween ⟨number, goal⟩ ++ [.afterMigration] := by
  unfold Versions.hooksBetween
  rw [if_neg (show ¬ number = 0 by omega)]
  split <;> decide

/-- Whatever calls to migrate a database there are, and wherever they fail, each of
them is recorded by the version as it should be. -/
theorem version_history (engine : VersionedEngine ω δ) (database : Database) {config : Config}
    {session : Session ω} {earlier later : List (Migration ω × Int)} {migration : Migration ω}
    {target : Int} (hready : engine.Ready config session)
    (hleads : engine.leads (config.resolve database.name))
    (htargets : ∀ call ∈ earlier ++ (migration, target) :: later, 1 ≤ call.2)
    (hspares : ∀ call ∈ earlier ++ (migration, target) :: later,
      call.1.SparesVersion engine) :
    Recorded engine database target (database.migrateEach earlier session)
      (migration.log database (.int target) (database.migrateEach earlier session))
      (database.migrate migration (.int target) (database.migrateEach earlier session)) later := by
  rw [List.forall_mem_append, List.forall_mem_cons] at htargets hspares
  obtain ⟨hearlierTargets, htarget, hlaterTargets⟩ := htargets
  obtain ⟨hearlierSpares, hspare, hlaterSpares⟩ := hspares
  -- nothing is known of the earlier calls but that the session is settled after them
  obtain ⟨number, hbefore, -⟩ :=
    settled_migrateEach hleads hearlierTargets hearlierSpares ⟨hready, rfl⟩
  generalize database.migrateEach earlier session = before at hbefore ⊢
  have hadvance := advance_migrate hspare hleads htarget hbefore
  generalize migration.log database (.int target) before = log at hadvance ⊢
  generalize database.migrate migration (.int target) before = ending at hadvance ⊢
  refine ⟨?_, ?_, ?_, ?_, ?_⟩
  · intro hnot
    rw [(hadvance.settled_of_not_wrote hnot).register_eq, hbefore.register_eq]
  · intro hnot state hstate next hnext
    rw [eq_of_mem_classification hbefore hleads hstate,
      eq_of_mem_classification (hadvance.settled_of_not_wrote hnot) hleads hnext]
  · intro hended
    have hwrote : Wrote log := by
      rcases hended with ⟨state, hreturns⟩ | ⟨fault, hfailed⟩
      · exact hadvance.wrote_of_returns state hreturns
      · exact hadvance.wrote_of_begun (StepLog.mem_begun_of_mem hfailed)
    exact (hadvance.settled_of_wrote hwrote).register_eq
  · rintro hwrote middle next goal rest rfl hook hhook hcalled
    rw [List.forall_mem_append, List.forall_mem_cons] at hlaterTargets hlaterSpares
    obtain ⟨last, hlast, hpositive⟩ := settled_migrateEach hleads hlaterTargets.1
      hlaterSpares.1 (hadvance.settled_of_wrote hwrote)
    have hnext := advance_migrate hlaterSpares.2.1 hleads hlaterTargets.2.1 hlast
    exact not_mem_hooksBetween (hpositive htarget) _ hook hhook
      (hnext.hooks_prefix.subset hcalled)
  · rintro state next rest hreturns rfl
    rw [List.forall_mem_cons] at hlaterTargets hlaterSpares
    have hstored := hadvance.settled_of_wrote (hadvance.wrote_of_returns state hreturns)
    have hnext := advance_migrate hlaterSpares.1 hleads htarget hstored
    have hfirst := hnext.hooks_prefix
    have heq := hnext.hooks_eq
    rw [hooksBetween_same htarget] at hfirst heq
    exact ⟨hfirst, heq⟩

/-- A migration that creates a table of notes. -/
def ofNotes : Migration Shelf where
  run
    | .onCreate, _ => do
      let _ ← Action.runBatch "notes" [⟨"CREATE TABLE notes (body TEXT)", []⟩]
    | _, _ => pure ()

theorem ofNotes_sparesVersion : ofNotes.SparesVersion (Shelf.versioned "notes") := by
  intro hook versions session
  have hkeeps : Action.Keeps (Reaches (Shelf.versioned "notes").scope session)
      (ofNotes.run hook versions) := by
    cases hook with
    | onCreate =>
        refine Action.keeps_bind (fun reached hreached => hreached.tail (.batch reached ?_))
          fun _ => Action.keeps_pure ()
        simp only [List.mem_singleton, forall_eq]
        exact fun _ => show ¬ Sheet.updateStart.toList <+: _ by decide
    | _ => exact Action.keeps_pure ()
  exact hkeeps session .refl

/-- The notes are migrated three times, and created by the first migration. -/
theorem version_history_notes :
    let database : Database := ⟨"notes"⟩
    let start : Session Shelf := { outside := {} }
    let first := database.migrate ofNotes (.int 1) start
    first.1.isOk = true ∧
      Recorded (Shelf.versioned "notes") database 1 start
        (ofNotes.log database (.int 1) start) first [(ofNotes, 1), (ofNotes, 2)] := by
  intro database start first
  have hready : (Shelf.versioned "notes").Ready {} start :=
    ⟨rfl, fun _ => rfl, nofun, nofun, nofun⟩
  have htargets : ∀ call ∈ [] ++ (ofNotes, 1) :: [(ofNotes, 1), (ofNotes, (2 : Int))],
      1 ≤ call.2 := by simp
  have hspares : ∀ call ∈ [] ++ (ofNotes, 1) :: [(ofNotes, 1), (ofNotes, (2 : Int))],
      call.1.SparesVersion (Shelf.versioned "notes") := by
    simpa using ofNotes_sparesVersion
  exact ⟨by decide +kernel, version_history _ database hready rfl htargets hspares⟩

end Migration

end SqlAccess
