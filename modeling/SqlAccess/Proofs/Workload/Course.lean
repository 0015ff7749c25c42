import SqlAccess.Proofs.Engine.Advance
import SqlAccess.Proofs.Registry.Handle
import SqlAccess.Proofs.Workload.Bracket

/-!
# The course of a batch

What a batch sends to an open connection, and what becomes of it, can be read off the
replies of the script.  The batch begins a transaction; for each request it sends the
request itself, and the row marker before it if the request is an insertion; then it
commits.  It stops at the first call that fails, and if the connection is in a
transaction by then, a rollback is all that still follows.

There are five ways through this (`Course`).  The beginning is refused; all calls
succeed; or one of those in between fails, and then the transaction is already over, or
it is rolled back, or the rollback fails as well and its fault takes the place of the
first one.

A fault that is an error of the engine is reported as one of the request that the call
was made for (`Breaks`), or of the transaction when it was made for no request.  Any other
fault is passed on as it is.

Main result: every batch on an open connection takes one of these ways, its calls take
the replies in order, and it gives outcomes exactly if no call fails
(`runBatch_course`).
-/

namespace SqlAccess.Workload

open SqlAccess.Action
open Exchange (flagAfterAll)

/-! ## Calls and replies -/

/-- The exchanges are all that was done since a session, and they took the replies of its
script one after the other. -/
structure Scripted (handle : Handle) (before : Session World) (exchanges : List Exchange)
    (after : Session World) : Prop where
  since : Since handle before exchanges after
  reply_eq : ∀ index exchange, exchanges[index]? = some exchange →
    exchange.reply = (scriptOf before).replies.getD index {}
  replies_eq : (scriptOf after).replies = (scriptOf before).replies.drop exchanges.length

section

variable {handle : Handle} {before between after session : Session World}
  {exchanges more : List Exchange}

/-- The script advances by the entries of the exchanges. -/
theorem Scripted.advances (h : Scripted handle before exchanges after) :
    (scriptOf before).Advances (exchanges.map (Exchange.event handle)) (scriptOf after) where
  journal_eq := h.since.journal_eq
  reply_eq index event hevent := by
    rw [List.getElem?_map, Option.map_eq_some_iff] at hevent
    obtain ⟨exchange, hexchange, rfl⟩ := hevent
    exact congrArg some (h.reply_eq index exchange hexchange)
  replies_eq := by rw [List.length_map, h.replies_eq]

theorem Since.scripted (h : Since handle before exchanges after)
    (hadvances : (scriptOf before).Advances (exchanges.map (Exchange.event handle))
      (scriptOf after)) : Scripted handle before exchanges after where
  since := h
  reply_eq index exchange hexchange := by
    have hevent : (exchanges.map (Exchange.event handle) : List (Event Note))[index]? =
        some (exchange.event handle) := by
      rw [List.getElem?_map, hexchange]
      rfl
    exact Option.some.inj (hadvances.reply_eq index _ hevent)
  replies_eq := by rw [hadvances.replies_eq, List.length_map]

theorem Scripted.refl (handle : Handle) (session : Session World) :
    Scripted handle session [] session :=
  (Since.refl handle session).scripted (.refl _)

theorem Scripted.trans (h : Scripted handle before exchanges between)
    (hmore : Scripted handle between more after) :
    Scripted handle before (exchanges ++ more) after := by
  refine (h.since.trans hmore.since).scripted ?_
  rw [List.map_append]
  exact h.advances.trans hmore.advances

theorem scripted_execute (handle : Handle) (statement : Statement) (session : Session World) :
    Scripted handle session [⟨statement, (scriptOf session).nextReply⟩]
      (execute handle statement session).2 :=
  (since_execute handle statement session).scripted (Script.advances_execute _ _ _)

end

/-! ## Ways through a batch -/

/-- The fault that the last one of some calls failed with. -/
def failure? (exchanges : List Exchange) : Option Fault :=
  exchanges.getLast?.bind fun exchange => exchange.reply.fault

/-- All calls for some requests succeeded, and each outcome is that of the reply to its
own request. -/
inductive Answered : List Statement → List Exchange → List Outcome → Prop where
  | nil : Answered [] [] []
  | cons {statement : Statement} {statements : List Statement} {sent exchanges : List Exchange}
      {reply : Reply} {outcomes : List Outcome} :
      Passes statement.marked sent → sent.getLast? = some ⟨statement, reply⟩ →
        Answered statements exchanges outcomes →
          Answered (statement :: statements) (sent ++ exchanges)
            (.ofResult statement.isInsertion reply.result :: outcomes)

/-- A call for one of some requests failed, which are numbered from a position on. -/
inductive Breaks : Nat → List Statement → List Exchange → Fault → Prop where
  | here {position : Nat} {statement : Statement} {statements : List Statement}
      {sent : List Exchange} {raised : Fault} :
      Fails statement.marked sent → failure? sent = some raised →
        Breaks position (statement :: statements) sent
          (if raised.isEngineError then .statementFailed position statement raised else raised)
  | later {position : Nat} {statement : Statement} {statements : List Statement}
      {sent exchanges : List Exchange} {fault : Fault} :
      Passes statement.marked sent → Breaks (position + 1) statements exchanges fault →
        Breaks position (statement :: statements) (sent ++ exchanges) fault

/-- A call between the beginning and the end of a transaction failed. -/
inductive Interrupted (database : String) (statements : List Statement) :
    List Exchange → Fault → Prop where
  | request {exchanges : List Exchange} {fault : Fault} :
      Breaks 0 statements exchanges fault → Interrupted database statements exchanges fault
  | commit {exchanges : List Exchange} {ended : Reply} {raised : Fault} :
      Passes (statements.flatMap Statement.marked) exchanges → ended.fault = some raised →
        Interrupted database statements (exchanges ++ [⟨.commit, ended⟩])
          (if raised.isEngineError then .transactionFailed database raised else raised)

/-- The calls that a batch makes on a connection, and what they come to; `flag` tells
whether the connection was in a transaction before. -/
inductive Course (database : String) (statements : List Statement) (flag : Bool) :
    List Exchange → Except Fault (List Outcome) → Prop where
  | refused {began : Reply} {raised : Fault} :
      began.fault = some raised →
        Course database statements flag [⟨.beginning, began⟩]
          (.error (if raised.isEngineError then .transactionFailed database raised else raised))
  | committed {began ended : Reply} {exchanges : List Exchange} {outcomes : List Outcome} :
      began.fault = none → Answered statements exchanges outcomes → ended.fault = none →
        Course database statements flag (⟨.beginning, began⟩ :: exchanges ++ [⟨.commit, ended⟩])
          (.ok outcomes)
  | givenUp {began : Reply} {exchanges : List Exchange} {fault : Fault} :
      began.fault = none → Interrupted database statements exchanges fault →
        flagAfterAll (⟨.beginning, began⟩ :: exchanges) flag = false →
          Course database statements flag (⟨.beginning, began⟩ :: exchanges) (.error fault)
  | rolledBack {began ended : Reply} {exchanges : List Exchange} {fault : Fault} :
      began.fault = none → Interrupted database statements exchanges fault →
        flagAfterAll (⟨.beginning, began⟩ :: exchanges) flag = true → ended.fault = none →
          Course database statements flag
            (⟨.beginning, began⟩ :: exchanges ++ [⟨.rollback, ended⟩]) (.error fault)
  /-- The rollback failed, and the first fault is lost. -/
  | stuck {began ended : Reply} {exchanges : List Exchange} {fault raised : Fault} :
      began.fault = none → Interrupted database statements exchanges fault →
        flagAfterAll (⟨.beginning, began⟩ :: exchanges) flag = true → ended.fault = some raised →
          Course database statements flag
            (⟨.beginning, began⟩ :: exchanges ++ [⟨.rollback, ended⟩])
            (.error (if raised.isEngineError then .transactionFailed database raised else raised))

/-! ## Which calls failed -/

section

variable {database : String} {statements : List Statement} {exchanges : List Exchange}
  {flag : Bool} {fault : Fault}

theorem Answered.passes {outcomes : List Outcome} (h : Answered statements exchanges outcomes) :
    Passes (statements.flatMap Statement.marked) exchanges := by
  induction h with
  | nil => exact .nil
  | cons hsent _ _ ih =>
      rw [List.flatMap_cons]
      exact hsent.append ih

theorem Answered.length_eq {outcomes : List Outcome} (h : Answered statements exchanges outcomes) :
    outcomes.length = statements.length := by
  induction h with
  | nil => rfl
  | cons _ _ _ ih => rw [List.length_cons, List.length_cons, ih]

theorem Breaks.fails {position : Nat} (h : Breaks position statements exchanges fault) :
    Fails (statements.flatMap Statement.marked) exchanges := by
  induction h with
  | here hfails _ =>
      rw [List.flatMap_cons]
      exact hfails.append_right _
  | later hsent _ ih =>
      rw [List.flatMap_cons]
      exact hsent.append_fails ih

theorem Interrupted.exists_fault (h : Interrupted database statements exchanges fault) :
    ∃ exchange ∈ exchanges, exchange.reply.fault.isSome := by
  cases h with
  | request hbreaks => exact hbreaks.fails.exists_fault
  | commit _ hended =>
      exact ⟨_, List.mem_append_right _ List.mem_cons_self, Option.isSome_of_eq_some hended⟩

theorem mem_ownStatements :
    .beginning ∈ ownStatements ∧ .rowMarker ∈ ownStatements ∧ .commit ∈ ownStatements ∧
      .rollback ∈ ownStatements := by
  simp [ownStatements]

theorem mem_of_mem_flatMap_marked {statement : Statement}
    (h : statement ∈ statements.flatMap Statement.marked) :
    statement ∈ ownStatements ∨ statement ∈ statements := by
  obtain ⟨request, hrequest, hmem⟩ := List.mem_flatMap.mp h
  unfold Statement.marked at hmem
  split at hmem
  · rcases List.mem_cons.mp hmem with rfl | hmem
    · exact .inl mem_ownStatements.2.1
    · exact .inr (List.mem_singleton.mp hmem ▸ hrequest)
  · exact .inr (List.mem_singleton.mp hmem ▸ hrequest)

theorem Interrupted.forall_statement_mem (h : Interrupted database statements exchanges fault) :
    ∀ exchange ∈ exchanges,
      exchange.statement ∈ ownStatements ∨ exchange.statement ∈ statements := by
  cases h with
  | request hbreaks =>
      exact fun exchange hmem =>
        mem_of_mem_flatMap_marked (hbreaks.fails.forall_statement_mem exchange hmem)
  | commit hpasses _ =>
      refine List.forall_mem_append.mpr ⟨fun exchange hmem => ?_,
        List.forall_mem_singleton.mpr (.inl mem_ownStatements.2.2.1)⟩
      exact mem_of_mem_flatMap_marked (hpasses.forall_statement_mem exchange hmem)

/-- A batch sends its own brackets and markers besides its statements. -/
theorem Course.forall_statement_mem {result : Except Fault (List Outcome)}
    (h : Course database statements flag exchanges result) :
    ∀ exchange ∈ exchanges,
      exchange.statement ∈ ownStatements ∨ exchange.statement ∈ statements := by
  obtain ⟨hbeginning, -, hcommit, hrollback⟩ := mem_ownStatements
  cases h with
  | refused _ => exact List.forall_mem_singleton.mpr (.inl hbeginning)
  | committed _ hanswered _ =>
      refine List.forall_mem_append.mpr ⟨List.forall_mem_cons.mpr ⟨.inl hbeginning, ?_⟩,
        List.forall_mem_singleton.mpr (.inl hcommit)⟩
      exact fun exchange hmem =>
        mem_of_mem_flatMap_marked (hanswered.passes.forall_statement_mem exchange hmem)
  | givenUp _ hinterrupted _ =>
      exact List.forall_mem_cons.mpr ⟨.inl hbeginning, hinterrupted.forall_statement_mem⟩
  | rolledBack _ hinterrupted _ _ | stuck _ hinterrupted _ _ =>
      exact List.forall_mem_append.mpr
        ⟨List.forall_mem_cons.mpr ⟨.inl hbeginning, hinterrupted.forall_statement_mem⟩,
          List.forall_mem_singleton.mpr (.inl hrollback)⟩

/-- A batch gives outcomes, one for each request, exactly if none of its calls failed. -/
theorem Course.ok_iff {result : Except Fault (List Outcome)}
    (h : Course database statements flag exchanges result) :
    (∃ outcomes, result = .ok outcomes ∧ outcomes.length = statements.length) ↔
      ∀ exchange ∈ exchanges, exchange.reply.fault = none := by
  -- apart from a batch that is committed, each has a call that failed
  have hfailed : ∀ {fault : Fault}, (∃ exchange ∈ exchanges, exchange.reply.fault.isSome) →
      ((∃ outcomes : List Outcome, (.error fault : Except Fault (List Outcome)) = .ok outcomes ∧
          outcomes.length = statements.length) ↔
        ∀ exchange ∈ exchanges, exchange.reply.fault = none) := by
    intro fault hexists
    obtain ⟨exchange, hmem, hfault⟩ := hexists
    apply iff_of_false
    · rintro ⟨_, ⟨⟩, -⟩
    · intro hnone
      rw [hnone exchange hmem] at hfault
      cases hfault
  cases h with
  | refused hbegan => exact hfailed ⟨_, List.mem_cons_self, Option.isSome_of_eq_some hbegan⟩
  | committed hbegan hanswered hended =>
      apply iff_of_true
      · exact ⟨_, rfl, hanswered.length_eq⟩
      · rw [List.cons_append, List.forall_mem_cons, List.forall_mem_append,
          List.forall_mem_singleton]
        exact ⟨hbegan, hanswered.passes.forall_fault_eq, hended⟩
  | givenUp _ hinterrupted _ =>
      obtain ⟨exchange, hmem, hfault⟩ := hinterrupted.exists_fault
      exact hfailed ⟨exchange, List.mem_cons_of_mem _ hmem, hfault⟩
  | rolledBack _ hinterrupted _ _ =>
      obtain ⟨exchange, hmem, hfault⟩ := hinterrupted.exists_fault
      exact hfailed ⟨exchange, List.mem_append_left _ (List.mem_cons_of_mem _ hmem), hfault⟩
  | stuck _ _ _ hended =>
      exact hfailed ⟨_, List.mem_append_right _ List.mem_cons_self, Option.isSome_of_eq_some hended⟩

end

/-! ## What is done for a request -/

section

variable {handle : Handle} {session : Session World} {exchanges : List Exchange}

theorem ends_execute (handle : Handle) (statement : Statement) (session : Session World) :
    Ends
      (fun result after => ∃ reply, reply.fault = none ∧ result = reply.result ∧
        Scripted handle session [⟨statement, reply⟩] after)
      (fun fault after => ∃ reply, reply.fault = some fault ∧
        Scripted handle session [⟨statement, reply⟩] after)
      (execute handle statement session) := by
  have hscripted := scripted_execute handle statement session
  apply ends_answer
  · intro hnone
    exact ⟨_, hnone, rfl, hscripted⟩
  · intro fault hfault
    exact ⟨_, hfault, hscripted⟩

theorem ends_runStatement (handle : Handle) (statement : Statement) (session : Session World) :
    Ends
      (fun outcome after => ∃ sent reply, Scripted handle session sent after ∧
        Passes statement.marked sent ∧ sent.getLast? = some ⟨statement, reply⟩ ∧
          outcome = .ofResult statement.isInsertion reply.result)
      (fun fault after => ∃ sent, Scripted handle session sent after ∧
        Fails statement.marked sent ∧ failure? sent = some fault)
      (runStatement handle statement session) := by
  unfold runStatement Statement.marked
  split
  · -- the marker goes first, and what fails is the one or the other
    refine ends_bind ((ends_execute handle .rowMarker session).mono (fun _ _ h => h) ?_) ?_
    · rintro fault after ⟨marked, hfault, hscripted⟩
      exact ⟨_, hscripted, .here (Option.isSome_of_eq_some hfault), hfault⟩
    · rintro _ between ⟨marked, hmarked, -, hbefore⟩
      refine ends_bind ((ends_execute handle statement between).mono (fun _ _ h => h) ?_) ?_
      · rintro fault after ⟨reply, hfault, hscripted⟩
        exact ⟨_, hbefore.trans hscripted,
          .later hmarked (.here (Option.isSome_of_eq_some hfault)), hfault⟩
      · rintro _ after ⟨reply, hnone, rfl, hscripted⟩
        exact ⟨_, reply, hbefore.trans hscripted, .cons hmarked (.cons hnone .nil), rfl, rfl⟩
  · refine ends_bind ((ends_execute handle statement session).mono (fun _ _ h => h) ?_) ?_
    · rintro fault after ⟨reply, hfault, hscripted⟩
      exact ⟨_, hscripted, .here (Option.isSome_of_eq_some hfault), hfault⟩
    · rintro _ after ⟨reply, hnone, rfl, hscripted⟩
      exact ⟨_, reply, hscripted, .cons hnone .nil, rfl, rfl⟩

theorem ends_runFrom (handle : Handle) (position : Nat) (statements : List Statement)
    (session : Session World) :
    Ends
      (fun outcomes after => ∃ exchanges, Scripted handle session exchanges after ∧
        Answered statements exchanges outcomes)
      (fun fault after => ∃ exchanges, Scripted handle session exchanges after ∧
        Breaks position statements exchanges fault)
      (runFrom handle position statements session) := by
  induction statements generalizing position session with
  | nil => exact ⟨[], .refl handle session, .nil⟩
  | cons statement statements ih =>
      refine ends_bind (ends_converting
        ((ends_runStatement handle statement session).mono (fun _ _ h => h) ?_)) ?_
      · rintro raised after ⟨sent, hscripted, hfails, hraised⟩
        exact ⟨sent, hscripted, .here hfails hraised⟩
      · rintro _ between ⟨sent, reply, hbefore, hpasses, hlast, rfl⟩
        refine ends_bind ((ih (position + 1) between).mono (fun _ _ h => h) ?_) ?_
        · rintro fault after ⟨exchanges, hscripted, hbreaks⟩
          exact ⟨_, hbefore.trans hscripted, .later hpasses hbreaks⟩
        · rintro outcomes after ⟨exchanges, hscripted, hanswered⟩
          exact ⟨_, hbefore.trans hscripted, .cons hpasses hlast hanswered⟩

/-! ## The bracket -/

/-- What is an error of the engine no more is passed on by the transaction. -/
theorem Breaks.transactionFault_eq {position : Nat} {statements : List Statement} {fault : Fault}
    (h : Breaks position statements exchanges fault) (database : String) :
    transactionFault database fault = fault := by
  induction h with
  | @here position statement _ _ raised _ _ =>
      cases hengine : raised.isEngineError with
      | true => rfl
      | false => simp [transactionFault, hengine]
  | later _ _ ih => exact ih

theorem ends_committed (database : String) (handle : Handle) (statements : List Statement)
    (session : Session World) :
    Ends
      (fun outcomes after => ∃ exchanges ended, ended.fault = none ∧
        Scripted handle session (exchanges ++ [⟨.commit, ended⟩]) after ∧
          Answered statements exchanges outcomes)
      (fun fault after => ∃ exchanges, Scripted handle session exchanges after ∧
        Interrupted database statements exchanges (transactionFault database fault))
      ((do
        let outcomes ← runFrom handle 0 statements
        let _ ← execute handle Statement.commit
        return outcomes : Action World (List Outcome)) session) := by
  refine ends_bind ((ends_runFrom handle 0 statements session).mono (fun _ _ h => h) ?_) ?_
  · rintro fault after ⟨exchanges, hscripted, hbreaks⟩
    refine ⟨exchanges, hscripted, .request ?_⟩
    rwa [hbreaks.transactionFault_eq]
  · rintro outcomes between ⟨exchanges, hbefore, hanswered⟩
    refine ends_bind ((ends_execute handle .commit between).mono (fun _ _ h => h) ?_) ?_
    · rintro raised after ⟨ended, hended, hscripted⟩
      exact ⟨_, hbefore.trans hscripted, .commit hanswered.passes hended⟩
    · rintro _ after ⟨ended, hnone, -, hscripted⟩
      exact ⟨exchanges, ended, hnone, hbefore.trans hscripted, hanswered⟩

/-- A batch on a connection took one of the ways from a session to another. -/
def Took (database : String) (statements : List Statement) (handle : Handle)
    (before : Session World) (result : Except Fault (List Outcome)) (after : Session World) :
    Prop :=
  ∃ exchanges, Scripted handle before exchanges after ∧
    Course database statements (Engine.inTransaction handle before.outside) exchanges result

/-- What has become of a batch when its connection is asked whether to roll back. -/
theorem ends_rollBack {database : String} {statements : List Statement} {began : Reply}
    {before : Session World} {fault : Fault} (hbegan : began.fault = none)
    (hinterrupted : Interrupted database statements exchanges (transactionFault database fault))
    (hscripted : Scripted handle before (⟨.beginning, began⟩ :: exchanges) session) :
    Ends
      (fun _ after =>
        Took database statements handle before (.error (transactionFault database fault)) after)
      (fun fault after =>
        Took database statements handle before (.error (transactionFault database fault)) after)
      (rollBack handle session) := by
  have hflag := hscripted.since.flag_eq
  rw [rollBack_apply]
  cases hactive : Engine.inTransaction handle session.outside with
  | false =>
      rw [hactive] at hflag
      exact ⟨_, hscripted, .givenUp hbegan hinterrupted hflag.symm⟩
  | true =>
      rw [hactive] at hflag
      refine ends_bind ((ends_execute handle .rollback session).mono (fun _ _ h => h) ?_) ?_
      · rintro raised after ⟨ended, hended, hthen⟩
        exact ⟨_, hscripted.trans hthen, .stuck hbegan hinterrupted hflag.symm hended⟩
      · rintro _ after ⟨ended, hnone, -, hthen⟩
        exact ⟨_, hscripted.trans hthen, .rolledBack hbegan hinterrupted hflag.symm hnone⟩

theorem ends_transaction (database : String) (handle : Handle) (statements : List Statement)
    (session : Session World) :
    Ends (fun outcomes after => Took database statements handle session (.ok outcomes) after)
      (fun fault after =>
        Took database statements handle session (.error (transactionFault database fault)) after)
      (transaction handle (runFrom handle 0 statements) session) := by
  refine ends_bind ((ends_execute handle .beginning session).mono (fun _ _ h => h) ?_) ?_
  · rintro raised after ⟨began, hbegan, hscripted⟩
    exact ⟨_, hscripted, .refused hbegan⟩
  · rintro _ between ⟨began, hbegan, -, hbegun⟩
    refine ends_cleaning ((ends_committed database handle statements between).mono ?_
      fun _ _ h => h) ?_
    · rintro outcomes after ⟨exchanges, ended, hended, hscripted, hanswered⟩
      exact ⟨_, hbegun.trans hscripted, .committed hbegan hanswered hended⟩
    · rintro fault failed ⟨exchanges, hscripted, hinterrupted⟩
      exact ends_rollBack hbegan hinterrupted (hbegun.trans hscripted)

/-- A batch on an open connection takes one of the five ways, and it gives outcomes
exactly if none of its calls fails. -/
theorem runBatch_course {database : String} {statements : List Statement}
    (hopen : session.registry.handle? database = some handle) (hne : statements ≠ []) :
    ∃ exchanges, Scripted handle session exchanges (runBatch database statements session).2 ∧
      Course database statements (Engine.inTransaction handle session.outside) exchanges
        (runBatch database statements session).1 ∧
      ((∃ outcomes, (runBatch database statements session).1 = .ok outcomes ∧
          outcomes.length = statements.length) ↔
        ∀ exchange ∈ exchanges, exchange.reply.fault = none) := by
  have hrun : runBatch database statements session =
      (transaction handle (runFrom handle 0 statements)).converting (transactionFault database)
        session := by
    unfold runBatch
    rw [if_neg (by simpa using hne), bind_apply, opened_of_handle hopen, after_ok]
  have htook : Took database statements handle session
      (runBatch database statements session).1 (runBatch database statements session).2 := by
    rw [hrun]
    exact @ends_result_iff _ _ (Took database statements handle session) _ |>.mp
      (ends_converting (ends_transaction database handle statements session))
  obtain ⟨exchanges, hscripted, hcourse⟩ := htook
  exact ⟨exchanges, hscripted, hcourse, hcourse.ok_iff⟩

/-- An open connection to `notes`, on an engine that refuses the second one of two
insertions. -/
def refusingSecond : Session World where
  registry := { connections := [{ name := "notes", path := "", handle := some ⟨1⟩ }] }
  outside :=
    { script :=
        { connected := 1
          replies :=
            .replicate 4 {} ++ [{ fault := some (.reported (.engine .integrity) "taken") }] } }

/-- The second one of two insertions fails, and is rolled back. -/
theorem runBatch_course_refusingSecond :
    let insertion : Statement := ⟨"INSERT INTO notes VALUES (?)", [.int 1]⟩
    let ending := runBatch "notes" [insertion, insertion] refusingSecond
    (∃ raised, ending.1 = .error (.statementFailed 1 insertion raised)) ∧
      ∃ exchanges, Scripted ⟨1⟩ refusingSecond exchanges ending.2 ∧
        Course "notes" [insertion, insertion] false exchanges ending.1 ∧
        ((∃ outcomes, ending.1 = .ok outcomes ∧ outcomes.length = 2) ↔
          ∀ exchange ∈ exchanges, exchange.reply.fault = none) := by
  refine ⟨⟨.reported (.engine .integrity) "taken", rfl⟩, ?_⟩
  exact runBatch_course (by decide) (List.cons_ne_nil _ _)

end

end SqlAccess.Workload
