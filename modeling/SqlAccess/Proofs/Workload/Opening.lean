import SqlAccess.Proofs.Workload.Course
import SqlAccess.Proofs.Workload.Ownership

/-!
# Opening and opening again

A database without a connection is opened by an attempt (`Attempt`).  The engine is asked
for a connection to the path of the name; if this is granted, the setup follows, up to the
first statement that fails, and a connection whose setup failed is closed at once.  The
fault of the attempt is the last one that the engine reported: that of the closing takes
the place of the one before it.

A batch opens its database first, if need be, and then takes the course of a batch on an
open connection (`Transacts`).

Main result: opening a database that has no connection is such an attempt.  It gives a
connection exactly if no request of it failed, and otherwise the database is as it was, so
that the next attempt starts afresh; a connection that it gave is kept until it is closed,
and until then no other one is asked for (`opened_retryable`).
-/

namespace SqlAccess.Workload

open SqlAccess.Action

/-! ## Attempts -/

/-- What is asked of the engine to connect to a path and to set the connection up, and what
comes of it. -/
inductive Attempt (config : Config) (path : String) (handle : Handle) :
    List (Event Note) → Except Fault Handle → Prop where
  /-- There was no connection, and so none is closed. -/
  | refused {reply : Reply} {fault : Fault} :
      reply.fault = some fault →
        Attempt config path handle [.call (.connect path config.timeout) reply] (.error fault)
  | abandoned {reply ended : Reply} {exchanges : List Exchange} {raised : Fault} :
      reply.fault = none → Fails config.setup exchanges → failure? exchanges = some raised →
        Attempt config path handle
          (.call (.connect path config.timeout) reply ::
            exchanges.map (Exchange.event handle) ++ [.call (.close handle) ended])
          (.error (ended.fault.getD raised))
  | ready {reply : Reply} {exchanges : List Exchange} :
      reply.fault = none → Passes config.setup exchanges →
        Attempt config path handle
          (.call (.connect path config.timeout) reply :: exchanges.map (Exchange.event handle))
          (.ok handle)

section

variable {config : Config} {path database : String} {handle found : Handle}
  {session before after : Session World} {entries : List (Event Note)}
  {outcome : Except Fault Handle}

/-- An attempt gives a connection exactly if nothing in it failed. -/
theorem Attempt.ok_iff (h : Attempt config path handle entries outcome) :
    outcome = .ok handle ↔ ∀ event ∈ entries, event.fault? = none := by
  cases h with
  | refused hfault =>
      refine iff_of_false nofun fun hnone => ?_
      have hreply := hnone _ List.mem_cons_self
      cases hfault.symm.trans hreply
  | abandoned _ hfails _ =>
      obtain ⟨exchange, hmem, hfault⟩ := hfails.exists_fault
      refine iff_of_false nofun fun hnone => ?_
      have hexchange : (exchange.event handle : Event Note).fault? = none :=
        hnone _ (List.mem_cons_of_mem _ (List.mem_append_left _ (List.mem_map_of_mem hmem)))
      rw [fault?_event] at hexchange
      rw [hexchange] at hfault
      cases hfault
  | ready hnone hpasses =>
      refine iff_of_true rfl (List.forall_mem_cons.mpr ⟨hnone, ?_⟩)
      exact forall_fault?_map_event.mpr hpasses.forall_fault_eq

theorem Attempt.eq_of_ok (h : Attempt config path handle entries (.ok found)) :
    found = handle := by
  cases h
  rfl

theorem failure?_cons {statements : List Statement} {exchanges : List Exchange}
    (h : Fails statements exchanges) (exchange : Exchange) :
    failure? (exchange :: exchanges) = failure? exchanges := by
  unfold failure?
  cases h <;> rw [List.getLast?_cons_cons]

theorem ends_executeEach (handle : Handle) (statements : List Statement)
    (session : Session World) :
    Ends
      (fun _ after => ∃ exchanges, Scripted handle session exchanges after ∧
        Passes statements exchanges)
      (fun fault after => ∃ exchanges, Scripted handle session exchanges after ∧
        Fails statements exchanges ∧ failure? exchanges = some fault)
      (executeEach handle statements session) := by
  induction statements generalizing session with
  | nil => exact ⟨[], .refl handle session, .nil⟩
  | cons statement statements ih =>
      refine ends_bind ((ends_execute handle statement session).mono (fun _ _ h => h) ?_) ?_
      · rintro fault after ⟨reply, hfault, hscripted⟩
        exact ⟨_, hscripted, .here (Option.isSome_of_eq_some hfault), hfault⟩
      · rintro _ between ⟨reply, hnone, -, hbefore⟩
        refine (ih between).mono ?_ ?_
        · rintro _ after ⟨exchanges, hscripted, hpasses⟩
          exact ⟨_, hbefore.trans hscripted, .cons hnone hpasses⟩
        · rintro fault after ⟨exchanges, hscripted, hfails, hfault⟩
          refine ⟨_, hbefore.trans hscripted, .later hnone hfails, ?_⟩
          rw [← hfault]
          exact failure?_cons hfails _

/-! ### The requests of an attempt -/

theorem ends_connect_advances (path : String) (timeout : Floating) (session : Session World) :
    Ends
      (fun handle after => handle = (scriptOf session).nextHandle ∧
        after.registry = session.registry ∧ ∃ reply, reply.fault = none ∧
          (scriptOf session).Advances [.call (.connect path timeout) reply] (scriptOf after))
      (fun fault after => after.registry = session.registry ∧ ∃ reply, reply.fault = some fault ∧
          (scriptOf session).Advances [.call (.connect path timeout) reply] (scriptOf after))
      (connect path timeout session) := by
  have hconnect := Script.advances_connect (scriptOf session) path timeout
  exact ends_answer (fun hnone => ⟨rfl, rfl, _, hnone, hconnect⟩) fun _ hfault =>
    ⟨rfl, _, hfault, hconnect⟩

theorem ends_close_advances (handle : Handle) (session : Session World) :
    Ends
      (fun _ after => after.registry = session.registry ∧ ∃ reply, reply.fault = none ∧
        (scriptOf session).Advances [.call (.close handle) reply] (scriptOf after))
      (fun fault after => after.registry = session.registry ∧ ∃ reply, reply.fault = some fault ∧
        (scriptOf session).Advances [.call (.close handle) reply] (scriptOf after))
      (close handle session) := by
  have hclose := Script.advances_close (scriptOf session) handle
  exact ends_answer (fun hnone => ⟨rfl, _, hnone, hclose⟩) fun _ hfault =>
    ⟨rfl, _, hfault, hclose⟩

/-- An attempt led from a session to another one, which has the same registry. -/
def Attempted (config : Config) (path : String) (before : Session World)
    (outcome : Except Fault Handle) (after : Session World) : Prop :=
  after.registry = before.registry ∧
    ∃ entries, (scriptOf before).Advances entries (scriptOf after) ∧
      Attempt config path (scriptOf before).nextHandle entries outcome

theorem ends_openHandle_attempted (config : Config) (path : String) (session : Session World) :
    Ends (fun handle => Attempted config path session (.ok handle))
      (fun fault => Attempted config path session (.error fault))
      (openHandle config path session) := by
  refine ends_bind ((ends_connect_advances path config.timeout session).mono (fun _ _ h => h) ?_) ?_
  · rintro fault after ⟨hregistry, reply, hfault, hconnect⟩
    exact ⟨hregistry, _, hconnect, .refused hfault⟩
  · rintro _ between ⟨rfl, hregistry, reply, hnone, hconnect⟩
    refine ends_bind (ends_cleaning (ends_executeEach _ config.setup between) ?_) ?_
    · rintro raised failed ⟨exchanges, hscripted, hfails, hraised⟩
      have hfailed := hscripted.since.registry_eq.trans hregistry
      have hadvances := hconnect.trans hscripted.advances
      -- the fault of the closing, if it has one, is the one that is left
      have habandoned : ∀ {ended : Reply} {fault : Fault}, ended.fault.getD raised = fault →
          Attempt config path (scriptOf session).nextHandle
            (.call (.connect path config.timeout) reply ::
              exchanges.map (Exchange.event (scriptOf session).nextHandle) ++
                [.call (.close (scriptOf session).nextHandle) ended]) (.error fault) := by
        rintro ended _ rfl
        exact .abandoned hnone hfails hraised
      refine (ends_close_advances _ failed).mono ?_ ?_
      · rintro _ after ⟨hclosed, ended, hended, hclose⟩
        exact ⟨hclosed.trans hfailed, _, hadvances.trans hclose, habandoned (by rw [hended]; rfl)⟩
      · rintro fault after ⟨hclosed, ended, hended, hclose⟩
        exact ⟨hclosed.trans hfailed, _, hadvances.trans hclose, habandoned (by rw [hended]; rfl)⟩
    · rintro _ after ⟨exchanges, hscripted, hpasses⟩
      exact ⟨hscripted.since.registry_eq.trans hregistry, _, hconnect.trans hscripted.advances,
        .ready hnone hpasses⟩

/-! ## Opening -/

/-- A database without a connection is opened by an attempt, and has a connection then if
this is what comes of it. -/
theorem opened_attempted (hunopened : session.registry.handle? database = none) :
    ∃ entries outcome,
      (scriptOf session).Advances entries (scriptOf (opened database session).2) ∧
      Attempt session.registry.config (session.registry.path database)
        (scriptOf session).nextHandle entries outcome ∧
      (opened database session).1 = outcome.mapError (openingFault database) ∧
      (opened database session).2.registry.handle? database = outcome.toOption := by
  let registered : Session World :=
    { session with registry := session.registry.register database }
  have hattempted := ends_openHandle_attempted session.registry.config
    (session.registry.path database) registered
  have hnone : registered.registry.handle? database = none := by
    rw [Registry.handle?_register, hunopened]
  have hcontains : registered.registry.contains database = true :=
    Registry.contains_register_self session.registry database
  rw [opened_of_no_handle hunopened, bind_apply]
  change ∃ entries outcome, (scriptOf registered).Advances entries _ ∧ _
  unfold converting
  generalize openHandle session.registry.config (session.registry.path database) registered =
    ending at hattempted ⊢
  obtain ⟨fault | handle, after⟩ := ending
  · obtain ⟨hregistry, entries, hadvances, hattempt⟩ := hattempted
    refine ⟨entries, .error fault, hadvances, hattempt, rfl, ?_⟩
    rw [after_error, hregistry, hnone]
    rfl
  · obtain ⟨hregistry, entries, hadvances, hattempt⟩ := hattempted
    refine ⟨entries, .ok handle, hadvances, hattempt, rfl, ?_⟩
    exact Registry.handle?_setHandle_self (hregistry ▸ hcontains)

end

/-! ## Batches -/

/-- What is asked of the engine to have a database open, and what comes of it: nothing if it
has a connection, and an attempt if it has none. -/
inductive Opens (database : String) (before : Session World) :
    List (Event Note) → Except Fault Handle → Prop where
  | already {handle : Handle} :
      before.registry.handle? database = some handle → Opens database before [] (.ok handle)
  | attempted {entries : List (Event Note)} {outcome result : Except Fault Handle} :
      before.registry.handle? database = none →
        Attempt before.registry.config (before.registry.path database)
          (scriptOf before).nextHandle entries outcome →
        result = outcome.mapError (openingFault database) → Opens database before entries result

/-- What a batch asks of the engine, and what comes of it. -/
inductive Transacts (database : String) (statements : List Statement) (before : Session World) :
    List (Event Note) → Except Fault (List Outcome) → Prop where
  | unopened {entries : List (Event Note)} {fault : Fault} :
      Opens database before entries (.error fault) →
        Transacts database statements before entries (.error fault)
  | opened {entries : List (Event Note)} {handle : Handle} {exchanges : List Exchange}
      {result : Except Fault (List Outcome)} :
      Opens database before entries (.ok handle) →
        Course database statements
          (Engine.inTransaction handle (opened database before).2.outside) exchanges result →
        Transacts database statements before
          (entries ++ exchanges.map (Exchange.event handle)) result

section

variable {database : String} {handle : Handle} {statements : List Statement}
  {session before : Session World} {entries : List (Event Note)}

theorem opens_opened (database : String) (session : Session World) :
    ∃ entries, (scriptOf session).Advances entries (scriptOf (opened database session).2) ∧
      Opens database session entries (opened database session).1 := by
  cases hhandle : session.registry.handle? database with
  | some handle =>
      rw [opened_of_handle hhandle]
      exact ⟨[], .refl _, .already hhandle⟩
  | none =>
      obtain ⟨entries, outcome, hadvances, hattempt, hresult, -⟩ := opened_attempted hhandle
      exact ⟨entries, hadvances, .attempted hhandle hattempt hresult⟩

theorem Opens.ok_iff {result : Except Fault Handle} (h : Opens database before entries result) :
    (∃ handle, result = .ok handle) ↔ ∀ event ∈ entries, event.fault? = none := by
  cases h with
  | already _ => exact iff_of_true ⟨_, rfl⟩ nofun
  | @attempted _ outcome _ _ hattempt hresult =>
      rw [hresult, ← hattempt.ok_iff]
      cases outcome with
      | error fault => exact iff_of_false nofun nofun
      | ok found => exact iff_of_true ⟨found, rfl⟩ (congrArg _ hattempt.eq_of_ok)

/-- A database that was opened has the connection, and lies where it did. -/
theorem registry_opened {after : Session World}
    (h : opened database session = (.ok handle, after)) :
    after.registry.config = session.registry.config ∧
      after.registry.handle? database = some handle := by
  have hopened := ends_opened anyScope database session
  rw [h] at hopened
  exact hopened.2

theorem handle?_opened {after : Session World}
    (h : opened database session = (.ok handle, after)) :
    after.registry.handle? database = some handle :=
  (registry_opened h).2

/-- A batch opens its database first, and then it is a batch on an open connection. -/
theorem runBatch_eq_after_opened (hne : statements ≠ []) (session : Session World) :
    runBatch database statements session =
      after (opened database session) fun _ => runBatch database statements := by
  have hempty : ¬ statements.isEmpty := by simpa using hne
  unfold runBatch
  rw [if_neg hempty, bind_apply]
  rcases hopened : opened database session with ⟨fault | handle, between⟩
  · rfl
  · rw [after_ok, after_ok, bind_apply, opened_of_handle (handle?_opened hopened), after_ok]

theorem runBatch_took (hopen : session.registry.handle? database = some handle)
    (hne : statements ≠ []) :
    Took database statements handle session (runBatch database statements session).1
      (runBatch database statements session).2 := by
  have hempty : ¬ statements.isEmpty := by simpa using hne
  unfold runBatch
  rw [if_neg hempty, bind_apply, opened_of_handle hopen, after_ok]
  exact @ends_result_iff _ _ (Took database statements handle session) _ |>.mp
    (ends_converting (ends_transaction database handle statements session))

/-- What a batch asks for begins with the opening of its database. -/
theorem Opens.exists_transacts (hne : statements ≠ [])
    (hopens : Opens database session entries (opened database session).1)
    (hadvances : (scriptOf session).Advances entries (scriptOf (opened database session).2)) :
    ∃ more,
      (scriptOf session).Advances (entries ++ more)
        (scriptOf (runBatch database statements session).2) ∧
      Transacts database statements session (entries ++ more)
        (runBatch database statements session).1 := by
  rw [runBatch_eq_after_opened hne]
  rcases hopened : opened database session with ⟨fault | handle, between⟩
  · rw [hopened] at hadvances hopens
    exact ⟨[], by rwa [List.append_nil], by rw [List.append_nil]; exact .unopened hopens⟩
  · obtain ⟨exchanges, hscripted, hcourse⟩ := runBatch_took (handle?_opened hopened) hne
    rw [hopened] at hadvances hopens
    refine ⟨_, hadvances.trans hscripted.advances, .opened hopens ?_⟩
    rw [hopened]
    exact hcourse

/-- After a batch that gave outcomes its database is open. -/
theorem registry_of_runBatch {outcomes : List Outcome} {after : Session World}
    (hne : statements ≠ []) (h : runBatch database statements session = (.ok outcomes, after)) :
    after.registry.config = session.registry.config ∧
      ∃ handle, after.registry.handle? database = some handle := by
  rw [runBatch_eq_after_opened hne] at h
  rcases hopened : opened database session with ⟨fault | handle, between⟩
  · rw [hopened] at h
    cases h
  · obtain ⟨hconfig, hopen⟩ := registry_opened hopened
    obtain ⟨exchanges, hscripted, -⟩ := runBatch_took hopen hne
    rw [hopened, after_ok] at h
    rw [h] at hscripted
    rw [hscripted.since.registry_eq]
    exact ⟨hconfig, handle, hopen⟩

theorem runBatch_transacts (hne : statements ≠ []) (session : Session World) :
    ∃ entries,
      (scriptOf session).Advances entries (scriptOf (runBatch database statements session).2) ∧
      Transacts database statements session entries (runBatch database statements session).1 := by
  obtain ⟨entries, hadvances, hopens⟩ := opens_opened database session
  obtain ⟨more, htransacts⟩ := hopens.exists_transacts hne hadvances
  exact ⟨entries ++ more, htransacts⟩

/-- A batch gives outcomes, one for each statement, exactly if no request failed. -/
theorem Transacts.ok_iff {result : Except Fault (List Outcome)}
    (h : Transacts database statements before entries result) :
    (∃ outcomes, result = .ok outcomes ∧ outcomes.length = statements.length) ↔
      ∀ event ∈ entries, event.fault? = none := by
  cases h with
  | unopened hopens =>
      refine iff_of_false ?_ fun hnone => ?_
      · rintro ⟨_, ⟨⟩, -⟩
      · obtain ⟨_, ⟨⟩⟩ := hopens.ok_iff.mpr hnone
  | opened hopens hcourse =>
      have hopening := hopens.ok_iff.mp ⟨_, rfl⟩
      rw [List.forall_mem_append, forall_fault?_map_event, hcourse.ok_iff]
      exact (and_iff_right hopening).symm

end

/-! ## Where a database lies -/

/-- Each name lies where the configuration puts it. -/
structure Placed (config : Config) (registry : Registry) : Prop where
  config_eq : registry.config = config
  path_eq : ∀ name, registry.path name = config.resolve name

section

variable {config : Config} {registry : Registry} {before after session : Session World}

theorem Placed.register (h : Placed config registry) (name : String) :
    Placed config (registry.register name) where
  config_eq := (Registry.config_register _ _).trans h.config_eq
  path_eq other := (Registry.path_register _ _ _).trans (h.path_eq other)

theorem Placed.setHandle (h : Placed config registry) (name : String) (handle : Option Handle) :
    Placed config (registry.setHandle name handle) where
  config_eq := (Registry.config_setHandle _ _ _).trans h.config_eq
  path_eq other := (Registry.path_setHandle _ _ _ _).trans (h.path_eq other)

theorem placed_turn (hturn : Turn anyScope before after) (h : Placed config before.registry) :
    Placed config after.registry := by
  cases hturn with
  | registered name => exact h.register name
  | refused _ hjoins => rwa [hjoins.registry_eq]
  | abandoned _ hjoins _ hsince =>
      rwa [close_snd_registry, hsince.registry_eq, hjoins.registry_eq]
  | setUp _ _ _ hjoins _ hsince =>
      rw [hsince.registry_eq, hjoins.registry_eq]
      exact h.setHandle _ _
  | @served name handle statements =>
      obtain ⟨exchanges, hsince⟩ := exists_since_transaction handle statements before
      rwa [hsince.registry_eq]
  | closed =>
      rw [close_snd_registry]
      exact h.setHandle _ _
  | drifted => exact h

theorem placed_of_reaches {replies : List Reply} {family : Family}
    (hreaches : Reaches anyScope (newSession config replies family) session) :
    Placed config session.registry := by
  have hstable : Stable anyScope fun later : Session World => Placed config later.registry :=
    @stable_of_turns anyScope (fun later => Placed config later.registry) placed_turn
  exact hstable.of_reaches hreaches ⟨rfl, fun _ => rfl⟩

end

/-! ## Connections are kept -/

/-- As long as the connection is not closed it is that of the database, and nothing that is
done with the database asks for another one. -/
def KeepsOpen (database : String) (handle : Handle) (session : Session World) : Prop :=
  ∀ later, Reaches anyScope session later → closings handle (scriptOf later).journal = 0 →
    opened database later = (.ok handle, later) ∧
      ∀ statements, joinings (scriptOf (runBatch database statements later).2).journal =
        joinings (scriptOf later).journal

section

variable {database : String} {handle : Handle} {before after session : Session World}

/-- A database whose connection was not closed has it still. -/
theorem handle?_turn (hturn : Turn anyScope before after)
    (h : closings handle (scriptOf before).journal = 0 →
      before.registry.handle? database = some handle)
    (hclosings : closings handle (scriptOf after).journal = 0) :
    after.registry.handle? database = some handle := by
  have hbefore : before.registry.handle? database = some handle := by
    obtain ⟨more, hmore⟩ := journal_isPrefix_of_turn hturn
    rw [← hmore, closings_append] at hclosings
    exact h (Nat.eq_zero_of_add_eq_zero_right hclosings)
  cases hturn with
  | registered name => rw [Registry.handle?_register, hbefore]
  | refused _ hjoins => rw [hjoins.registry_eq, hbefore]
  | abandoned _ hjoins _ hsince =>
      rw [close_snd_registry, hsince.registry_eq, hjoins.registry_eq, hbefore]
  | @setUp between ready reply exchanges name _ hnone _ hjoins _ hsince =>
      -- a database that is set up had no connection, so it is another one
      have hne : database ≠ name := by
        rintro rfl
        rw [hnone] at hbefore
        cases hbefore
      rw [Registry.handle?_setHandle_of_ne hne, hsince.registry_eq, hjoins.registry_eq, hbefore]
  | @served name found statements =>
      obtain ⟨exchanges, hsince⟩ := exists_since_transaction found statements before
      rw [hsince.registry_eq, hbefore]
  | @closed name found hfound =>
      have hne : database ≠ name := by
        rintro rfl
        obtain rfl := Option.some.inj (hfound.symm.trans hbefore)
        rw [close_snd_journal, closings_append_close, if_pos rfl] at hclosings
        exact Nat.succ_ne_zero _ hclosings
      rw [close_snd_registry, Registry.handle?_setHandle_of_ne hne, hbefore]
  | drifted => exact hbefore

theorem keepsOpen_of_handle? (hopen : session.registry.handle? database = some handle) :
    KeepsOpen database handle session := by
  intro later hreaches hclosings
  let kept := fun later : Session World => closings handle (scriptOf later).journal = 0 →
    later.registry.handle? database = some handle
  have hstable : Stable anyScope kept := @stable_of_turns anyScope kept handle?_turn
  have hlater := hstable.of_reaches hreaches (fun _ => hopen) hclosings
  refine ⟨opened_of_handle hlater, fun statements => ?_⟩
  rcases eq_or_ne statements [] with rfl | hne
  · rfl
  · obtain ⟨exchanges, hscripted, -⟩ := runBatch_took hlater hne
    rw [hscripted.since.journal_eq, joinings_append, joinings_map_event, List.append_nil]

end

/-! ## Opening again -/

/-- A database is opened by an attempt, whether it is opened for its own sake or by the first
batch. -/
structure OpensAfresh (config : Config) (database : String) (session : Session World)
    (entries : List (Event Note)) (outcome : Except Fault Handle) : Prop where
  attempt : Attempt config (config.resolve database) (scriptOf session).nextHandle entries outcome
  advances : (scriptOf session).Advances entries (scriptOf (opened database session).2)
  ok_iff : outcome = .ok (scriptOf session).nextHandle ↔ ∀ event ∈ entries, event.fault? = none
  result_eq : (opened database session).1 = outcome.mapError fun fault =>
    if fault.preventsOpening then .openFailed database fault else fault
  /-- After a failure the database has no connection. -/
  handle_eq : (opened database session).2.registry.handle? database = outcome.toOption
  batch_eq : ∀ statements, statements ≠ [] → runBatch database statements session =
    after (opened database session) fun _ => runBatch database statements
  batch_ok_iff : ∀ statements, statements ≠ [] → ∃ more,
    (scriptOf session).Advances (entries ++ more)
        (scriptOf (runBatch database statements session).2) ∧
      ((∃ outcomes, (runBatch database statements session).1 = .ok outcomes ∧
          outcomes.length = statements.length) ↔
        ∀ event ∈ entries ++ more, event.fault? = none)

section

variable {config : Config} {replies : List Reply} {family : Family} {session : Session World}
  {database : String}

theorem opensAfresh_of_reaches
    (hreaches : Reaches anyScope (newSession config replies family) session)
    (hunopened : session.registry.handle? database = none) :
    ∃ entries outcome, OpensAfresh config database session entries outcome := by
  have hplaced := placed_of_reaches hreaches
  obtain ⟨entries, outcome, hadvances, hattempt, hresult, hhandle⟩ := opened_attempted hunopened
  have hopens : Opens database session entries (opened database session).1 :=
    .attempted hunopened hattempt hresult
  rw [hplaced.config_eq, hplaced.path_eq] at hattempt
  refine ⟨entries, outcome, hattempt, hadvances, hattempt.ok_iff, hresult, hhandle,
    fun statements hne => runBatch_eq_after_opened hne session, fun statements hne => ?_⟩
  obtain ⟨more, hmore, htransacts⟩ := hopens.exists_transacts hne hadvances
  exact ⟨more, hmore, htransacts.ok_iff⟩

/-- In a session that any operations have led to, with any replies of the engine: a database
that has no connection is opened by an attempt.  If the attempt gives a connection, the
database keeps it until it is closed; if it fails, whatever is done next, the database is
opened by another attempt as soon as it is needed again. -/
theorem opened_retryable
    (hreaches : Reaches anyScope (newSession config replies family) session)
    (hunopened : session.registry.handle? database = none) :
    ∃ entries outcome, OpensAfresh config database session entries outcome ∧
      (∀ handle, outcome = .ok handle →
        KeepsOpen database handle (opened database session).2) ∧
      (∀ fault, outcome = .error fault → ∀ later,
        Reaches anyScope (opened database session).2 later →
          later.registry.handle? database = none →
            ∃ entries outcome, OpensAfresh config database later entries outcome) := by
  obtain ⟨entries, outcome, hopens⟩ := opensAfresh_of_reaches hreaches hunopened
  refine ⟨entries, outcome, hopens, ?_, ?_⟩
  · rintro handle rfl
    exact keepsOpen_of_handle? hopens.handle_eq
  · intro fault _ later hlater hnone
    have hfinal := hreaches.tail (.opening session database)
    exact opensAfresh_of_reaches (hfinal.trans hlater) hnone

/-- The last setup statement is refused, and so is the closing after it: the fault of the
closing is reported, and the next attempt succeeds on a connection of its own. -/
theorem opened_retryable_failing :
    let ending := opened "notes" failing
    (ending.1 = .error (.openFailed "notes"
        (.reported (.engine .operational) "disk I/O error")) ∧
      (opened "notes" ending.2).1 = .ok ⟨2⟩) ∧
    ∃ entries outcome, OpensAfresh failing.registry.config "notes" failing entries outcome ∧
      (∀ handle, outcome = .ok handle → KeepsOpen "notes" handle ending.2) ∧
      (∀ fault, outcome = .error fault → ∀ later, Reaches anyScope ending.2 later →
        later.registry.handle? "notes" = none → ∃ entries outcome,
          OpensAfresh failing.registry.config "notes" later entries outcome) := by
  refine ⟨⟨?_, ?_⟩, opened_retryable .refl rfl⟩
  all_goals
    rfl

end

end SqlAccess.Workload
