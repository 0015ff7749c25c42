import SqlAccess.Proofs.Action.Keeps
import SqlAccess.Proofs.Transaction.Bracket
import SqlAccess.Workload.World

/-!
# Transactions of workloads

On a scripted engine everything that is sent is in the journal.  `Since` says that a
session has come about from another one by exchanges on a single connection, and by
nothing else, and `Sends` that this is what an action does: it sends statements one
after the other, up to the first one that fails.  Actions that send statements
compose as the lists of their statements do, and so the exchanges of a transaction
are those of a bracket (`bracketed_transaction`).
-/

namespace SqlAccess.Workload

open SqlAccess.Action
open Exchange (flagAfterAll)

/-- The scripted engine of a session. -/
abbrev scriptOf (session : Session World) : Script Note :=
  session.outside.script

/-- The exchanges on a connection are all that was done since a session. -/
structure Since (handle : Handle) (before : Session World) (exchanges : List Exchange)
    (after : Session World) : Prop where
  registry_eq : after.registry = before.registry
  connected_eq : (scriptOf after).connected = (scriptOf before).connected
  journal_eq : (scriptOf after).journal =
    (scriptOf before).journal ++ exchanges.map (Exchange.event handle)
  flag_eq : Engine.inTransaction handle after.outside =
    flagAfterAll exchanges (Engine.inTransaction handle before.outside)
  others_eq : ∀ other, other ≠ handle →
    Engine.inTransaction other after.outside = Engine.inTransaction other before.outside

section

variable {handle : Handle} {before between after session : Session World}
  {exchanges more : List Exchange}

theorem Since.refl (handle : Handle) (session : Session World) :
    Since handle session [] session where
  registry_eq := rfl
  connected_eq := rfl
  journal_eq := (List.append_nil _).symm
  flag_eq := rfl
  others_eq _ _ := rfl

theorem Since.trans (h : Since handle before exchanges between)
    (hmore : Since handle between more after) :
    Since handle before (exchanges ++ more) after where
  registry_eq := hmore.registry_eq.trans h.registry_eq
  connected_eq := hmore.connected_eq.trans h.connected_eq
  journal_eq := by rw [hmore.journal_eq, h.journal_eq, List.map_append, List.append_assoc]
  flag_eq := by rw [hmore.flag_eq, h.flag_eq, Exchange.flagAfterAll_append]
  others_eq other hother := (hmore.others_eq other hother).trans (h.others_eq other hother)

theorem since_execute (handle : Handle) (statement : Statement) (session : Session World) :
    Since handle session [⟨statement, (scriptOf session).nextReply⟩]
      (execute handle statement session).2 where
  registry_eq := rfl
  connected_eq := Script.connected_execute _ _ _
  journal_eq := Script.journal_execute _ _ _
  flag_eq := (Script.inTransaction_execute _ _ _ handle).trans (if_pos rfl)
  others_eq other hother := (Script.inTransaction_execute _ _ _ other).trans (if_neg hother)

/-- A transaction makes exchanges on its own connection, whatever its statements are and
however it ends. -/
theorem exists_since_transaction (handle : Handle) (statements : List Statement)
    (session : Session World) :
    ∃ exchanges, Since handle session exchanges
      (transaction handle (runFrom handle 0 statements) session).2 := by
  have hexecute : ∀ statement,
      Keeps (fun after => ∃ exchanges, Since handle session exchanges after)
        (execute handle statement : Action World ResultSet) := by
    rintro statement between ⟨exchanges, hsince⟩
    exact ⟨_, hsince.trans (since_execute handle statement between)⟩
  exact keeps_transaction (fun statement _ => hexecute statement)
    (fun statement _ => hexecute statement) session ⟨[], .refl handle session⟩

/-- An answer is a value or a fault as its reply has no fault or one. -/
theorem ends_answer {σ β : Type} {returns : β → σ → Prop} {faults : Fault → σ → Prop}
    {reply : Reply} {value : β} {state : σ} (hreturns : reply.fault = none → returns value state)
    (hfaults : ∀ fault, reply.fault = some fault → faults fault state) :
    Ends returns faults (Script.Reply.answer reply value, state) := by
  unfold Script.Reply.answer
  cases hfault : reply.fault with
  | none => exact hreturns hfault
  | some fault => exact hfaults fault hfault

/-! ## Sending statements -/

variable {α β : Type} {first second : List Statement}

/-- All that an action does is to send statements on a connection, one after the
other and up to the first one that fails, and then it fails too. -/
def Sends (handle : Handle) (statements : List Statement) (action : Action World α) : Prop :=
  ∀ session, Ends
    (fun _ after => ∃ exchanges, Passes statements exchanges ∧ Since handle session exchanges after)
    (fun _ after => ∃ exchanges, Fails statements exchanges ∧ Since handle session exchanges after)
    (action session)

theorem sends_pure (handle : Handle) (value : α) : Sends handle [] (pure value) :=
  fun session => ⟨[], .nil, .refl handle session⟩

theorem sends_execute (handle : Handle) (statement : Statement) :
    Sends handle [statement] (execute handle statement) := by
  intro session
  have hsince := since_execute handle statement session
  refine ends_answer (fun hnone => ?_) fun fault hfault => ?_
  · exact ⟨_, .cons hnone .nil, hsince⟩
  · exact ⟨_, .here (Option.isSome_of_eq_some hfault), hsince⟩

theorem sends_bind {action : Action World α} {next : α → Action World β}
    (haction : Sends handle first action) (hnext : ∀ value, Sends handle second (next value)) :
    Sends handle (first ++ second) (action >>= next) := by
  intro session
  refine ends_bind ((haction session).mono (fun _ _ h => h) ?_) ?_
  · rintro _ after ⟨exchanges, hfails, hsince⟩
    exact ⟨exchanges, hfails.append_right second, hsince⟩
  · rintro value between ⟨exchanges, hpasses, hsince⟩
    refine (hnext value between).mono ?_ ?_
    · rintro _ after ⟨more, hmore, hthen⟩
      exact ⟨exchanges ++ more, hpasses.append hmore, hsince.trans hthen⟩
    · rintro _ after ⟨more, hmore, hthen⟩
      exact ⟨exchanges ++ more, hpasses.append_fails hmore, hsince.trans hthen⟩

theorem sends_converting {action : Action World α} {statements : List Statement}
    {convert : Fault → Fault} (h : Sends handle statements action) :
    Sends handle statements (action.converting convert) :=
  fun session => ends_converting (h session)

theorem sends_executeEach (handle : Handle) (statements : List Statement) :
    Sends handle statements (executeEach handle statements) := by
  induction statements with
  | nil => exact sends_pure handle ()
  | cons statement statements ih =>
      exact sends_bind (sends_execute handle statement) fun _ => ih

theorem sends_runStatement (handle : Handle) (statement : Statement) :
    Sends handle statement.marked (runStatement handle statement) := by
  have hrun : Sends handle [statement] (do
      let result ← execute handle statement
      return .ofResult statement.isInsertion result : Action World Outcome) :=
    sends_bind (sends_execute handle statement) fun _ => sends_pure handle _
  unfold runStatement Statement.marked
  split
  · exact sends_bind (sends_execute handle .rowMarker) fun _ => hrun
  · exact hrun

theorem sends_runFrom (handle : Handle) (statements : List Statement) (position : Nat) :
    Sends handle (statements.flatMap Statement.marked) (runFrom handle position statements) := by
  induction statements generalizing position with
  | nil => exact sends_pure handle []
  | cons statement statements ih =>
      refine sends_bind (sends_converting (sends_runStatement handle statement)) fun outcome => ?_
      have hrest := sends_bind (ih (position + 1)) fun outcomes =>
        sends_pure handle (outcome :: outcomes)
      rwa [List.append_nil] at hrest

/-! ## The exchanges of a transaction -/

/-- The exchanges since a session are a bracket, provided that the connection was not
in a transaction and the engine is regular. -/
def Bracketed (handle : Handle) (before after : Session World) : Prop :=
  ∃ exchanges, Since handle before exchanges after ∧
    (Engine.inTransaction handle before.outside = false →
      (∀ exchange ∈ exchanges, exchange.IsRegular) → Bracket exchanges)

theorem bracketed_rollBack {began : Reply} {statements : List Statement}
    (hplain : ∀ statement ∈ statements, statement.IsPlain) (hbegan : began.fault = none)
    (hfails : Fails (statements.flatMap Statement.marked ++ [.commit]) exchanges)
    (hsince : Since handle before (⟨.beginning, began⟩ :: exchanges) session) :
    Bracketed handle before (rollBack handle session).2 := by
  -- the connection is asked, and it says what the exchanges so far have made of it
  have hflag := hsince.flag_eq
  rw [rollBack_apply]
  cases hactive : Engine.inTransaction handle session.outside with
  | false =>
      refine ⟨_, hsince, fun hbefore _ => .givenUp hplain hbegan hfails ?_⟩
      rw [hbefore, hactive] at hflag
      exact hflag.symm
  | true =>
      have hrollBack := sends_bind (sends_execute handle .rollback) fun _ => sends_pure handle ()
      refine ends_state_iff.mp ((hrollBack session).mono ?_ ?_)
      · rintro _ after ⟨_, hpasses, hthen⟩
        obtain _ | ⟨hended, _ | _⟩ := hpasses
        refine ⟨_, hsince.trans hthen, fun hbefore _ => ?_⟩
        rw [hbefore, hactive] at hflag
        exact .rolledBack hplain hbegan hfails hflag.symm hended
      · rintro _ after ⟨_, hfailed, hthen⟩
        refine ⟨_, hsince.trans hthen, fun _ hregular => ?_⟩
        -- a rollback that fails is not regular
        have hrollback := fun reply hmem =>
          ((hregular ⟨.rollback, reply⟩ (List.mem_append_right _ hmem)).rolledBack rfl).1
        obtain hfault | ⟨_, ⟨⟩⟩ := hfailed
        have hnone := hrollback _ List.mem_cons_self
        rw [Option.isNone_iff_eq_none] at hnone
        rw [hnone] at hfault
        cases hfault

/-- Statements that run in a transaction leave a bracket behind them, whether or not
the transaction comes about. -/
theorem bracketed_transaction {statements : List Statement}
    (hplain : ∀ statement ∈ statements, statement.IsPlain) (handle : Handle)
    (session : Session World) :
    Bracketed handle session (transaction handle (runFrom handle 0 statements) session).2 := by
  have hcommitted : Sends handle (statements.flatMap Statement.marked ++ [.commit]) (do
      let outcomes ← runFrom handle 0 statements
      let _ ← execute handle Statement.commit
      return outcomes : Action World (List Outcome)) :=
    sends_bind (sends_runFrom handle statements 0) fun _ =>
      sends_bind (sends_execute handle .commit) fun _ => sends_pure handle _
  refine ends_state_iff.mp (ends_bind ((sends_execute handle .beginning session).mono
    (fun _ _ h => h) ?_) ?_)
  · rintro _ after ⟨_, hfails, hsince⟩
    obtain hfault | ⟨_, ⟨⟩⟩ := hfails
    exact ⟨_, hsince, fun _ _ => .refused hfault⟩
  · rintro _ between ⟨_, hpasses, hbegun⟩
    obtain _ | ⟨hbegan, _ | _⟩ := hpasses
    refine ends_cleaning ((hcommitted between).mono ?_ fun _ _ h => h) ?_
    · rintro _ after ⟨_, hpasses, hsince⟩
      obtain ⟨_, _, rfl, hstatements, hcommit⟩ := hpasses.of_append
      obtain _ | ⟨hended, _ | _⟩ := hcommit
      exact ⟨_, hbegun.trans hsince, fun _ _ => .committed hplain hbegan hstatements hended⟩
    · rintro _ failed ⟨_, hfails, hsince⟩
      exact ends_state_iff.mpr
        (bracketed_rollBack hplain hbegan hfails (hbegun.trans hsince))

end

end SqlAccess.Workload
