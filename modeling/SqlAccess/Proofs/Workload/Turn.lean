import SqlAccess.Proofs.Workload.Life

/-!
# Turns

A move may do several things one after the other: a batch on a database that is not
open registers its name, asks for a connection, sets it up, and then runs its
transaction.  Taken apart like this a move consists of turns, and a turn is one of
the few things that can become of a single connection (`Turn`).

So what every turn keeps, every move keeps (`stable_of_turns`), and what a turn can
do is said here once.
-/

namespace SqlAccess.Workload

open SqlAccess.Action

/-- A step of a move. -/
inductive Turn (scope : Scope World) : Session World → Session World → Prop where
  /-- A name was registered. -/
  | registered (session : Session World) (name : String) :
      Turn scope session { session with registry := session.registry.register name }
  /-- The engine refused a connection. -/
  | refused {before after : Session World} {reply : Reply} :
      reply.fault.isSome → Joins before reply after → Turn scope before after
  /-- A connection came about, but its setup failed, and it was closed. -/
  | abandoned {before between after : Session World} {reply : Reply}
      {exchanges : List Exchange} :
      reply.fault = none → Joins before reply between →
      Fails before.registry.config.setup exchanges →
      Since (scriptOf before).nextHandle between exchanges after →
      Turn scope before (close (scriptOf before).nextHandle after).2
  /-- A connection came about and was set up, for a name that had none. -/
  | setUp {before between after : Session World} {reply : Reply} {exchanges : List Exchange}
      {name : String} :
      before.registry.contains name = true → before.registry.handle? name = none →
      reply.fault = none → Joins before reply between →
      Passes before.registry.config.setup exchanges →
      Since (scriptOf before).nextHandle between exchanges after →
      Turn scope before { after with
        registry := after.registry.setHandle name (some (scriptOf before).nextHandle) }
  /-- A transaction was run on the connection of a name. -/
  | served (session : Session World) {name : String} {handle : Handle}
      {statements : List Statement} :
      session.registry.handle? name = some handle →
      (∀ statement ∈ statements, scope.submits session.registry.config name statement) →
      Turn scope session (transaction handle (runFrom handle 0 statements) session).2
  /-- The connection of a name was closed. -/
  | closed (session : Session World) {name : String} {handle : Handle} :
      session.registry.handle? name = some handle →
      Turn scope session
        (close handle { session with registry := session.registry.setHandle name none }).2
  /-- Something else happened in the world outside. -/
  | drifted (session : Session World) {outside : World} :
      scope.drifts session.outside outside → Turn scope session { session with outside }

/-- Turns lead from one session to the other. -/
abbrev Turns (scope : Scope World) : Session World → Session World → Prop :=
  Relation.ReflTransGen (Turn scope)

section

variable {scope : Scope World} {before after session : Session World}

/-! ## Opening -/

/-- What opening a connection comes to: a turn that ends with a fault, or a connection
that was set up. -/
theorem ends_openHandle (scope : Scope World) (path : String) (session : Session World) :
    Ends
      (fun handle after => handle = (scriptOf session).nextHandle ∧
        ∃ reply between exchanges, reply.fault = none ∧ Joins session reply between ∧
          Passes session.registry.config.setup exchanges ∧ Since handle between exchanges after)
      (fun _ after => Turn scope session after)
      (openHandle session.registry.config path session) := by
  refine ends_bind ((ends_connect path _ session).mono (fun _ _ h => h) ?_) ?_
  · rintro _ after ⟨reply, hfault, hjoins⟩
    exact .refused hfault hjoins
  · rintro _ between ⟨rfl, reply, hnone, hjoins⟩
    have hsetup := sends_executeEach (scriptOf session).nextHandle
      session.registry.config.setup between
    refine ends_bind (ends_cleaning hsetup ?_) ?_
    · rintro _ failed ⟨exchanges, hfails, hsince⟩
      exact ends_state_iff.mpr (.abandoned hnone hjoins hfails hsince)
    · rintro _ after ⟨exchanges, hpasses, hsince⟩
      exact ⟨rfl, reply, between, exchanges, hnone, hjoins, hpasses, hsince⟩

theorem ends_opened (scope : Scope World) (database : String) (session : Session World) :
    Ends
      (fun handle after => Turns scope session after ∧
        after.registry.config = session.registry.config ∧
        after.registry.handle? database = some handle)
      (fun _ after => Turns scope session after) (opened database session) := by
  cases hhandle : session.registry.handle? database with
  | some handle =>
      rw [opened_of_handle hhandle]
      exact ⟨.refl, rfl, hhandle⟩
  | none =>
      rw [opened_of_no_handle hhandle, ← Registry.config_register session.registry database]
      have hcontains := Registry.contains_register_self session.registry database
      have hnone : (session.registry.register database).handle? database = none := by
        rw [Registry.handle?_register, hhandle]
      have hregistered : Turns scope session _ := .single (.registered session database)
      have hopening := ends_openHandle scope (session.registry.path database)
        { session with registry := session.registry.register database }
      refine ends_bind (ends_converting (hopening.mono (fun _ _ h => h) fun _ _ hturn => ?_)) ?_
      · exact hregistered.tail hturn
      · rintro _ after ⟨rfl, reply, between, exchanges, hfault, hjoins, hpasses, hsince⟩
        have hregistry := hsince.registry_eq.trans hjoins.registry_eq
        refine ⟨hregistered.tail (.setUp hcontains hnone hfault hjoins hpasses hsince), ?_, ?_⟩
        · rw [Registry.config_setHandle, hregistry, Registry.config_register]
        · exact Registry.handle?_setHandle_self (hregistry ▸ hcontains)

/-! ## Every move -/

theorem turns_of_move (hmove : Move scope before after) : Turns scope before after := by
  cases hmove with
  | @batch database statements hsubmits =>
      unfold runBatch
      split
      · exact .refl
      · refine ends_state_iff.mp (ends_bind (ends_opened scope database before) ?_)
        rintro handle between ⟨hturns, hconfig, hopen⟩
        refine ends_converting (ends_state_iff.mpr (hturns.tail (.served between hopen ?_)))
        rwa [hconfig]
  | opening database =>
      have hopened := ends_opened scope database before
      exact ends_state_iff.mp (hopened.mono (fun _ _ h => h.1) fun _ _ h => h)
  | closing database =>
      cases hhandle : before.registry.handle? database with
      | none =>
          rw [closed_of_no_handle hhandle]
      | some handle =>
          rw [closed_of_handle hhandle]
          exact .single (.closed before hhandle)
  | registering database => exact .single (.registered before database)
  | drifting hdrifts => exact .single (.drifted before hdrifts)

/-- What every turn keeps, every move keeps. -/
theorem stable_of_turns {kept : Session World → Prop}
    (hturn : ∀ {before after}, Turn scope before after → kept before → kept after) :
    Stable scope kept := by
  intro before after hmove hbefore
  have hturns := turns_of_move hmove
  clear hmove
  induction hturns with
  | refl => exact hbefore
  | tail _ hlast ih => exact hturn hlast ih

end

end SqlAccess.Workload
