import SqlAccess.Proofs.Engine.Versioned
import SqlAccess.Proofs.Registry.Handle
import SqlAccess.Proofs.Transaction.Atomicity

/-!
# Sessions that are ready

A session is ready when the registry tells the truth about the engine: each handle
in it is of one database only, it is a connection to the file of that database, and
it is not in a transaction (`Ready`).  Opening, closing, registering and batches of
any statements keep sessions ready, whatever fails.

Between two transactions the version is what is stored (`Settled`).  All of these
actions keep it too, as long as the batches on the file with the version do not
write it (`settled_runBatch`).  A batch that does write it stores the version that
its statements arrive at, or leaves the one that was stored (`ends_leading_batch`).

A request to one connection is handled in two halves: it leaves all the other
connections alone (`Aside`), and what it does to its own is said by `Holds`.
-/

namespace SqlAccess

variable {ω δ : Type} [Engine ω]

namespace VersionedEngine

/-- The registry tells the truth about the engine, and nothing is left open. -/
structure Ready (engine : VersionedEngine ω δ) (config : Config) (session : Session ω) :
    Prop where
  config_eq : session.registry.config = config
  path_eq : ∀ name, session.registry.path name = config.resolve name
  file_eq : ∀ {name handle}, session.registry.handle? name = some handle →
    engine.file handle session.outside = some (config.resolve name)
  idle : ∀ {name handle}, session.registry.handle? name = some handle →
    Engine.inTransaction handle session.outside = false
  injective : ∀ {name other handle}, session.registry.handle? name = some handle →
    session.registry.handle? other = some handle → name = other

/-- The version that is stored in a session. -/
def register (engine : VersionedEngine ω δ) (session : Session ω) : Int :=
  engine.version (engine.stored session.outside)

/-- A session that is ready, with a version stored. -/
structure Settled (engine : VersionedEngine ω δ) (config : Config) (number : Int)
    (session : Session ω) : Prop extends engine.Ready config session where
  register_eq : engine.register session = number

/-- Nothing but one connection has changed. -/
structure Aside (engine : VersionedEngine ω δ) (handle : Handle) (start session : Session ω) :
    Prop where
  registry_eq : session.registry = start.registry
  undisturbed : ∀ other, other ≠ handle →
    Undisturbed engine.file other start.outside session.outside

/-- A connection to the file at a path sees a version, if it can see the version at
all, and the same version is stored. -/
structure Holds (engine : VersionedEngine ω δ) (path : String) (number : Int) (handle : Handle)
    (session : Session ω) : Prop where
  file_eq : engine.file handle session.outside = some path
  register_eq : engine.register session = number
  all_eq : engine.leads path →
    (engine.state handle session.outside).All fun data => engine.version data = number

variable {engine : VersionedEngine ω δ} {config : Config} {number : Int} {handle : Handle}
  {path : String} {start session : Session ω} {statement : Statement}

/-! ## A connection and those aside -/

theorem Aside.refl (handle : Handle) (session : Session ω) : engine.Aside handle session session :=
  ⟨rfl, fun _ _ => ⟨rfl, rfl⟩⟩

theorem aside_execute (statement : Statement) :
    Action.Keeps (engine.Aside handle start) (Action.execute handle statement) := by
  intro session h
  refine ⟨h.registry_eq, fun other hother => ?_⟩
  have hbefore := h.undisturbed other hother
  have hafter := engine.undisturbed_execute statement session.outside hother
  exact ⟨hafter.1.trans hbefore.1, hafter.2.trans hbefore.2⟩

theorem aside_close :
    Action.Keeps (engine.Aside handle start) (Action.close handle : Action ω Unit) := by
  intro session h
  refine ⟨h.registry_eq, fun other hother => ?_⟩
  have hbefore := h.undisturbed other hother
  have hafter := engine.undisturbed_close session.outside hother
  exact ⟨hafter.1.trans hbefore.1, hafter.2.trans hbefore.2⟩

/-- A session stays ready while a single connection changes, provided that this
one, if it is registered, ends up ready too. -/
theorem Ready.of_aside (hready : engine.Ready config start)
    (haside : engine.Aside handle start session)
    (hhandle : ∀ name, start.registry.handle? name = some handle →
      engine.file handle session.outside = some (config.resolve name) ∧
        Engine.inTransaction handle session.outside = false) :
    engine.Ready config session := by
  obtain ⟨hconfig, hpath, hfile, hidle, hinjective⟩ := hready
  obtain ⟨hregistry, hundisturbed⟩ := haside
  rw [← hregistry] at hconfig hpath hfile hidle hinjective hhandle
  refine ⟨hconfig, hpath, ?_, ?_, hinjective⟩
  · intro name other hother
    by_cases hsame : other = handle
    · exact hsame ▸ (hhandle name (hsame ▸ hother)).1
    · exact (hundisturbed other hsame).1.trans (hfile hother)
  · intro name other hother
    by_cases hsame : other = handle
    · exact hsame ▸ (hhandle name (hsame ▸ hother)).2
    · exact (hundisturbed other hsame).2.trans (hidle hother)

/-- A connection that is not in a transaction sees what is stored. -/
theorem state_of_idle (hfile : engine.file handle session.outside = some path)
    (hleads : engine.leads path) (hidle : Engine.inTransaction handle session.outside = false) :
    engine.state handle session.outside = .idle (engine.stored session.outside) := by
  rw [engine.inTransaction_eq] at hidle
  obtain ⟨data, hstate⟩ := TransactionState.exists_idle_of_not_isActive hidle
  have hdurable := engine.durable_eq_stored hfile hleads
  rw [hstate] at hdurable ⊢
  exact congrArg _ hdurable

theorem Holds.of_idle (hfile : engine.file handle session.outside = some path)
    (hidle : Engine.inTransaction handle session.outside = false)
    (hregister : engine.register session = number) : engine.Holds path number handle session := by
  refine ⟨hfile, hregister, fun hleads => ?_⟩
  rw [state_of_idle hfile hleads hidle]
  exact hregister

theorem register_of_all (hfile : engine.file handle session.outside = some path)
    (hleads : engine.leads path)
    (hall : (engine.state handle session.outside).All fun data => engine.version data = number) :
    engine.register session = number := by
  rw [register, ← engine.durable_eq_stored hfile hleads]
  cases hstate : engine.state handle session.outside with
  | idle data =>
      rw [hstate] at hall
      exact hall
  | active snapshot data =>
      rw [hstate] at hall
      exact hall.1

/-- A statement that does not write the version where it is kept changes nothing of
it. -/
theorem holds_execute (hwrites : engine.leads path → ¬ engine.writesVersion statement) :
    Action.Keeps (engine.Holds path number handle) (Action.execute handle statement) := by
  intro session h
  have hfile : engine.file handle (Action.execute handle statement session).2.outside =
      some path := (engine.file_execute _ _ _).trans h.file_eq
  by_cases hleads : engine.leads path
  · have hall := engine.version_kept h.file_eq hleads (hwrites hleads) (h.all_eq hleads)
    exact ⟨hfile, register_of_all hfile hleads hall, fun _ => hall⟩
  · have hstored := engine.stored_execute statement h.file_eq hleads
    exact ⟨hfile, (congrArg engine.version hstored).trans h.register_eq,
      fun hleads' => absurd hleads' hleads⟩

/-! ## Registering -/

theorem Ready.register (h : engine.Ready config session) (name : String) :
    engine.Ready config { session with registry := session.registry.register name } := by
  obtain ⟨hconfig, hpath, hfile, hidle, hinjective⟩ := h
  refine ⟨?_, ?_, ?_, ?_, ?_⟩
  · rwa [Registry.config_register]
  · simpa only [Registry.path_register] using hpath
  · simpa only [Registry.handle?_register] using @hfile
  · simpa only [Registry.handle?_register] using @hidle
  · simpa only [Registry.handle?_register] using @hinjective

theorem settled_connection (name : String) :
    Action.Keeps (engine.Settled config number) (Action.connection name) :=
  fun _ h => ⟨h.toReady.register name, h.register_eq⟩

/-! ## Closing -/

theorem Ready.dropHandle (h : engine.Ready config session) (name : String) :
    engine.Ready config
      { session with registry := session.registry.setHandle name none } := by
  obtain ⟨hconfig, hpath, hfile, hidle, hinjective⟩ := h
  have hformer : ∀ {other handle},
      (session.registry.setHandle name none).handle? other = some handle →
      session.registry.handle? other = some handle := by
    intro other handle hhandle
    rcases Registry.of_handle?_setHandle hhandle with ⟨-, ⟨⟩⟩ | ⟨-, hformer⟩
    exact hformer
  refine ⟨hconfig, ?_, fun hhandle => hfile (hformer hhandle),
    fun hhandle => hidle (hformer hhandle),
    fun hhandle hother => hinjective (hformer hhandle) (hformer hother)⟩
  simpa only [Registry.path_setHandle] using hpath

/-- After a handle was taken away from its database nothing has it. -/
theorem Ready.not_handle?_dropHandle (h : engine.Ready config session) {name : String}
    (hname : session.registry.handle? name = some handle) (other : String) :
    (session.registry.setHandle name none).handle? other ≠ some handle := by
  intro hhandle
  rcases Registry.of_handle?_setHandle hhandle with ⟨-, ⟨⟩⟩ | ⟨hne, hformer⟩
  exact hne (h.injective hformer hname)

theorem settled_closed (name : String) :
    Action.Keeps (engine.Settled config number) (Action.closed name : Action ω Unit) := by
  intro session h
  cases hname : session.registry.handle? name with
  | none =>
      rw [Action.closed_of_no_handle hname]
      exact h
  | some handle =>
      rw [Action.closed_of_handle hname]
      have hdropped := h.toReady.dropHandle name
      have haside : engine.Aside handle
          { session with registry := session.registry.setHandle name none }
          (Action.close handle
            { session with registry := session.registry.setHandle name none }).2 :=
        aside_close _ (.refl _ _)
      refine ⟨hdropped.of_aside haside fun other hother => ?_, ?_⟩
      · exact absurd hother (h.toReady.not_handle?_dropHandle hname other)
      · exact (congrArg engine.version (engine.stored_close _ _)).trans h.register_eq

/-! ## Opening -/

theorem Ready.setHandle (h : engine.Ready config session) {name : String}
    (hnew : ∀ other, session.registry.handle? other ≠ some handle)
    (hfile : engine.file handle session.outside = some (config.resolve name))
    (hidle : Engine.inTransaction handle session.outside = false) :
    engine.Ready config
      { session with registry := session.registry.setHandle name (some handle) } := by
  have hhandles : ∀ {other handle'},
      (session.registry.setHandle name (some handle)).handle? other = some handle' →
      other = name ∧ handle' = handle ∨
        handle' ≠ handle ∧ session.registry.handle? other = some handle' := by
    intro other handle' hhandle
    rcases Registry.of_handle?_setHandle hhandle with ⟨hname, hsome⟩ | ⟨-, hformer⟩
    · exact .inl ⟨hname, (Option.some.inj hsome).symm⟩
    · refine .inr ⟨?_, hformer⟩
      rintro rfl
      exact hnew other hformer
  refine ⟨h.config_eq, ?_, ?_, ?_, ?_⟩
  · simpa only [Registry.path_setHandle] using h.path_eq
  · intro other handle' hhandle
    rcases hhandles hhandle with ⟨rfl, rfl⟩ | ⟨-, hformer⟩
    · exact hfile
    · exact h.file_eq hformer
  · intro other handle' hhandle
    rcases hhandles hhandle with ⟨rfl, rfl⟩ | ⟨-, hformer⟩
    · exact hidle
    · exact h.idle hformer
  · intro first second handle' hfirst hsecond
    rcases hhandles hfirst with ⟨rfl, rfl⟩ | ⟨hne, hfirst⟩
    · rcases hhandles hsecond with ⟨rfl, -⟩ | ⟨hne, -⟩
      · rfl
      · exact absurd rfl hne
    · rcases hhandles hsecond with ⟨-, rfl⟩ | ⟨-, hsecond⟩
      · exact absurd rfl hne
      · exact h.injective hfirst hsecond

/-- A new connection is set up aside of all those that are registered; if its setup
fails, it is as if nothing had happened. -/
theorem ends_openHandle (h : engine.Settled config number session) (path : String) :
    Ends (fun handle after => (∀ name, session.registry.handle? name ≠ some handle) ∧
        engine.Aside handle session after ∧ engine.file handle after.outside = some path ∧
        Engine.inTransaction handle after.outside = false ∧ engine.register after = number)
      (fun _ after => engine.Settled config number after)
      (Action.openHandle config path session) := by
  have hconnected := Action.ends_request_registry session
    (engine.connects path config.timeout session.outside)
  have hregister : Ends (fun _ after => engine.register after = number)
      (fun _ after => engine.register after = number)
      (Action.connect path config.timeout session) :=
    ends_state_iff.mpr ((congrArg engine.version (engine.stored_connect _ _ _)).trans h.register_eq)
  refine Action.ends_bind ((hconnected.and hregister).mono (fun _ _ h => h) ?_) ?_
  · rintro fault after ⟨⟨hregistry, hundisturbed⟩, hregister⟩
    have haside : engine.Aside ⟨0⟩ session after :=
      ⟨hregistry, fun other _ => hundisturbed other⟩
    refine ⟨h.toReady.of_aside haside fun name hname => ?_, hregister⟩
    have hsame := hundisturbed ⟨0⟩
    exact ⟨hsame.1.trans (h.file_eq hname), hsame.2.trans (h.idle hname)⟩
  · rintro handle begun ⟨⟨hregistry, hnone, hfile, hidle, hundisturbed⟩, hregister⟩
    -- what is registered is to a file, and a connection that does not exist yet is to none
    have hnew : ∀ name, session.registry.handle? name ≠ some handle := by
      intro name hname
      rw [h.file_eq hname] at hnone
      cases hnone
    have hkept : Action.Keeps (fun after => (engine.Aside handle session after ∧
          engine.Holds path number handle after) ∧
          Engine.inTransaction handle after.outside = false)
        (Action.executeEach handle config.setup) := by
      refine Action.keeps_executeEach fun statement hsetup => ?_
      refine ((aside_execute statement).and (holds_execute fun _ => ?_)).and ?_
      · exact engine.not_writesVersion_setup config statement hsetup
      · exact fun after hafter => engine.sets_up hafter hsetup
    have hbegun : (engine.Aside handle session begun ∧ engine.Holds path number handle begun) ∧
        Engine.inTransaction handle begun.outside = false :=
      ⟨⟨⟨hregistry, hundisturbed⟩, .of_idle hfile hidle hregister⟩, hidle⟩
    refine Action.ends_bind (Action.ends_cleaning (hkept.ends hbegun) ?_) ?_
    · rintro fault failed ⟨⟨haside, hholds⟩, -⟩
      have hsettled : engine.Settled config number (Action.close handle failed).2 := by
        refine ⟨h.toReady.of_aside (aside_close failed haside) ?_, ?_⟩
        · exact fun name hname => absurd hname (hnew name)
        · exact (congrArg engine.version (engine.stored_close _ _)).trans hholds.register_eq
      exact ends_state_iff.mpr hsettled
    · rintro _ after ⟨⟨haside, hholds⟩, hafter⟩
      exact ⟨hnew, haside, hholds.file_eq, hafter, hholds.register_eq⟩

theorem ends_opened (h : engine.Settled config number session) (database : String) :
    Ends (fun handle after => after.registry.handle? database = some handle ∧
        engine.Settled config number after)
      (fun _ after => engine.Settled config number after)
      (Action.opened database session) := by
  cases hhandle : session.registry.handle? database with
  | some handle =>
      rw [Action.opened_of_handle hhandle]
      exact ⟨hhandle, h⟩
  | none =>
      have hregistered : engine.Settled config number
          { session with registry := session.registry.register database } :=
        ⟨h.toReady.register database, h.register_eq⟩
      rw [Action.opened_of_no_handle hhandle, h.config_eq, h.path_eq]
      refine Action.ends_bind
        (Action.ends_converting (ends_openHandle hregistered (config.resolve database))) ?_
      rintro handle after ⟨hnew, haside, hfile, hidle, hregister⟩
      have hready : engine.Ready config after :=
        hregistered.toReady.of_aside haside fun name hname => absurd hname (hnew name)
      have hcontains : after.registry.contains database = true := by
        rw [haside.registry_eq]
        exact Registry.contains_register_self _ _
      have hnew' : ∀ name, after.registry.handle? name ≠ some handle := by
        rw [haside.registry_eq]
        exact hnew
      exact ⟨Registry.handle?_setHandle_self hcontains,
        hready.setHandle hnew' hfile hidle, hregister⟩

/-! ## Batches -/

theorem idle_rollBack (engine : VersionedEngine ω δ) (session : Session ω) :
    Engine.inTransaction handle (Action.rollBack handle session).2.outside = false := by
  have hends : Ends (fun _ after => Engine.inTransaction handle after.outside = false)
      (fun _ after => Engine.inTransaction handle after.outside = false)
      (Action.rollBack handle session) := by
    cases hactive : Engine.inTransaction handle session.outside with
    | false =>
        rw [Action.rollBack_apply, hactive]
        exact hactive
    | true =>
        rw [Action.rollBack_apply, hactive]
        rw [engine.inTransaction_eq] at hactive
        obtain ⟨snapshot, data, hstate⟩ := TransactionState.exists_active_of_isActive hactive
        refine Action.ends_bind ((Action.ends_request (engine.rollsBack hstate)).mono
          (fun _ _ h => h) fun _ _ h => h.elim) fun _ after hafter => ?_
        rw [Action.pure_apply, ends_ok, engine.inTransaction_eq, hafter]
        rfl
  exact ends_state_iff.mp hends

/-- Whatever statements are run in a transaction, it is over when they have ended. -/
theorem idle_transaction (engine : VersionedEngine ω δ) (handle : Handle)
    (statements : List Statement) :
    Action.Keeps (fun session => Engine.inTransaction handle session.outside = false)
      (Action.transaction handle (Action.runFrom handle 0 statements) :
        Action ω (List Outcome)) := by
  intro session h
  rw [engine.inTransaction_eq] at h
  obtain ⟨data, hstate⟩ := TransactionState.exists_idle_of_not_isActive h
  have hbegins : Ends (fun _ _ => True)
      (fun _ after => Engine.inTransaction handle after.outside = false)
      (Action.execute handle .beginning session) := by
    refine (Action.ends_request (engine.begins hstate)).mono (fun _ _ _ => trivial) ?_
    intro _ after hafter
    rw [engine.inTransaction_eq, hafter]
    rfl
  have hends : Ends (fun _ after => Engine.inTransaction handle after.outside = false)
      (fun _ after => Engine.inTransaction handle after.outside = false)
      (Action.transaction handle (Action.runFrom handle 0 statements) session) := by
    refine Action.ends_bind hbegins fun _ begun _ => Action.ends_cleaning
      (Action.ends_bind (ends_anyhow _) fun _ ended _ => ?_) fun _ failed _ =>
        ends_state_iff.mpr (idle_rollBack engine failed)
    exact Action.ends_bind (Action.ends_request (engine.commit_ends handle ended.outside))
      fun _ _ hcommitted => hcommitted
  exact ends_state_iff.mp hends

/-- A batch keeps sessions settled, unless it writes the version where it is kept. -/
theorem settled_runBatch {database : String} {statements : List Statement}
    (hwrites : engine.leads (config.resolve database) →
      ∀ statement ∈ statements, ¬ engine.writesVersion statement) :
    Action.Keeps (engine.Settled config number)
      (Action.runBatch database statements : Action ω (List Outcome)) := by
  unfold Action.runBatch
  refine Action.keeps_ite (Action.keeps_pure []) ?_
  intro session h
  have hends : Ends (fun _ after => engine.Settled config number after)
      (fun _ after => engine.Settled config number after)
      ((do
        let handle ← Action.opened database
        (Action.transaction handle (Action.runFrom handle 0 statements)).converting
          (Action.transactionFault database) : Action ω (List Outcome)) session) := by
    refine Action.ends_bind (ends_opened h database) ?_
    rintro handle opened ⟨hhandle, hopened⟩
    -- each statement leaves the other connections and the version alone, which does not
    -- say that the transaction ends; this is said by `idle_transaction`
    have hplain : ∀ statement ∈ statements,
        Action.Keeps (fun after => engine.Aside handle opened after ∧
          engine.Holds (config.resolve database) number handle after)
          (Action.execute handle statement) := fun statement hstatement =>
      (aside_execute statement).and (holds_execute fun hleads => hwrites hleads _ hstatement)
    have hown : ∀ statement ∈ Action.ownStatements,
        Action.Keeps (fun after => engine.Aside handle opened after ∧
          engine.Holds (config.resolve database) number handle after)
          (Action.execute handle statement) := fun statement hstatement =>
      (aside_execute statement).and
        (holds_execute fun _ => engine.not_writesVersion_own _ hstatement)
    have hidle := hopened.idle hhandle
    have hstart : engine.Aside handle opened opened ∧
        engine.Holds (config.resolve database) number handle opened :=
      ⟨.refl _ _, .of_idle (hopened.file_eq hhandle) hidle hopened.register_eq⟩
    refine Action.ends_converting ((((Action.keeps_transaction hown hplain).and
      (idle_transaction engine handle statements)).ends ⟨hstart, hidle⟩).mono ?_ ?_)
    all_goals
      rintro _ after ⟨⟨haside, hholds⟩, hafter⟩
      refine ⟨hopened.toReady.of_aside haside fun name hname => ?_, hholds.register_eq⟩
      rw [hopened.injective hname hhandle]
      exact ⟨hholds.file_eq, hafter⟩
  exact ends_state_iff.mp hends

/-- A batch on the file with the version stores the version that its statements
arrive at, or it fails and leaves the one that was stored. -/
theorem ends_leading_batch {database : String} {statements : List Statement}
    (h : engine.Settled config number session)
    (hleads : engine.leads (config.resolve database)) (hne : statements ≠ [])
    (hplain : ∀ statement ∈ statements, ¬ engine.controls statement) :
    Ends (fun outcomes after => ∃ data changed, engine.version data = number ∧
        engine.Composed statements outcomes data changed ∧
        engine.Settled config (engine.version changed) after)
      (fun _ after => engine.Settled config number after)
      (Action.runBatch database statements session) := by
  unfold Action.runBatch
  rw [if_neg (by rwa [List.isEmpty_iff])]
  refine Action.ends_bind (ends_opened h database) ?_
  rintro handle opened ⟨hhandle, hopened⟩
  have hstate := state_of_idle (hopened.file_eq hhandle) hleads (hopened.idle hhandle)
  have hkept : ∀ statement, Action.Keeps (fun after => engine.Aside handle opened after ∧
      engine.file handle after.outside = some (config.resolve database))
      (Action.execute handle statement) := fun statement =>
    (aside_execute statement).and fun _ hfile => (engine.file_execute _ _ _).trans hfile
  have hframe := (Action.keeps_transaction (fun statement _ => hkept statement)
    (fun statement (_ : statement ∈ statements) => hkept statement)).ends
      ⟨Aside.refl handle opened, hopened.file_eq hhandle⟩
  have hsettled : ∀ (after : Session ω) (changed : δ), (engine.Aside handle opened after ∧
      engine.file handle after.outside = some (config.resolve database)) →
      engine.state handle after.outside = .idle changed →
      engine.Settled config (engine.version changed) after := by
    rintro after changed ⟨haside, hfile⟩ hafter
    refine ⟨hopened.toReady.of_aside haside fun name hname => ?_, ?_⟩
    · rw [hopened.injective hname hhandle, engine.inTransaction_eq, hafter]
      exact ⟨hfile, rfl⟩
    · rw [register, ← engine.durable_eq_stored hfile hleads, hafter]
      rfl
  refine Action.ends_converting
    (((Action.ends_transaction hplain hstate).and hframe).mono ?_ ?_)
  · rintro outcomes after ⟨⟨changed, hcomposed, hafter⟩, hkept⟩
    exact ⟨_, changed, hopened.register_eq, hcomposed, hsettled after changed hkept hafter⟩
  · rintro fault after ⟨hafter, hkept⟩
    exact hopened.register_eq ▸ hsettled after _ hkept hafter

end VersionedEngine

end SqlAccess
