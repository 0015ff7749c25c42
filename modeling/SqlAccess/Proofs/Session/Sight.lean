import SqlAccess.Database
import SqlAccess.Proofs.Action.Keeps
import SqlAccess.Proofs.Transaction.Atomicity
import SqlAccess.Proofs.Transaction.RowNumber

/-!
# What a session sees of a database

Between two batches a session sees the data of a database if the database is open and
its connection is idle (`Sees`).  A database that is not open yet shows its data if they
are seen once it is opened (`Shows`).  A batch that returns leaves the session with the
data that its statements arrive at, and one that fails leaves a connection, if there is
one by then, with the data as they were (`Untouched`), whether it was the batch that has
opened the database or not (`Shows.ends_runBatch`).
-/

namespace SqlAccess

open SqlAccess.Action

variable {ω δ : Type} [Engine ω] {database : String} {session : Session ω}

/-- A database that cannot be opened is not open. -/
theorem Action.ends_opened (database : String) (session : Session ω) :
    Ends (fun _ _ => True) (fun _ after => after.registry.handle? database = none)
      (opened database session) := by
  cases hhandle : session.registry.handle? database with
  | some handle =>
      rw [opened_of_handle hhandle]
      trivial
  | none =>
      have hrequest : ∀ {α : Type} (ask : ω → Except Fault α × ω),
          Keeps (fun after => after.registry.handle? database = none)
            (request ask : Action ω α) := fun _ _ h => h
      have hopenHandle : ∀ config path, Keeps
          (fun after => after.registry.handle? database = none)
          (openHandle config path : Action ω Handle) := fun config path =>
        keeps_openHandle path (hrequest _) (fun _ _ _ => hrequest _) fun _ => hrequest _
      have hregistered : (session.registry.register database).handle? database = none := by
        rwa [Registry.handle?_register]
      rw [opened_of_no_handle hhandle]
      exact ends_bind (ends_converting (((hopenHandle _ _).ends hregistered).mono
        (fun _ _ _ => trivial) fun _ _ h => h)) fun _ _ _ => trivial

namespace TransactionalEngine

/-- The database is open, and its connection is idle and sees the data. -/
def Sees (engine : TransactionalEngine ω δ) (database : String) (data : δ)
    (session : Session ω) : Prop :=
  ∃ handle, session.registry.handle? database = some handle ∧
    engine.state handle session.outside = .idle data

/-- If the database is open, its connection is idle and sees the data. -/
def Untouched (engine : TransactionalEngine ω δ) (database : String) (data : δ)
    (session : Session ω) : Prop :=
  ∀ handle, session.registry.handle? database = some handle →
    engine.state handle session.outside = .idle data

/-- The data are seen if the database is open, or can be opened. -/
def Shows (engine : TransactionalEngine ω δ) (database : String) (data : δ)
    (session : Session ω) : Prop :=
  Ends (fun handle after => after.registry.handle? database = some handle ∧
      engine.state handle after.outside = .idle data)
    (fun _ _ => True) (opened database session)

variable {engine : TransactionalEngine ω δ} {data : δ} {statements : List Statement}

theorem Sees.shows (h : engine.Sees database data session) :
    engine.Shows database data session := by
  obtain ⟨handle, hhandle, hstate⟩ := h
  rw [Shows, opened_of_handle hhandle]
  exact ⟨hhandle, hstate⟩

theorem Sees.untouched (h : engine.Sees database data session) :
    engine.Untouched database data session := by
  obtain ⟨handle, hhandle, hstate⟩ := h
  intro other hother
  obtain rfl : handle = other := Option.some.inj (hhandle.symm.trans hother)
  exact hstate

/-- A batch on a database that shows its data. -/
theorem Shows.ends_runBatch (h : engine.Shows database data session) (hne : statements ≠ [])
    (hplain : ∀ statement ∈ statements, ¬ engine.controls statement) :
    Ends (fun outcomes after => ∃ changed, engine.Composed statements outcomes data changed ∧
        engine.Sees database changed after)
      (fun _ after => engine.Untouched database data after)
      (runBatch database statements session) := by
  unfold runBatch
  rw [if_neg (by rwa [List.isEmpty_iff])]
  have hopened : Ends (fun handle after => after.registry.handle? database = some handle ∧
        engine.state handle after.outside = .idle data)
      (fun _ after => engine.Untouched database data after) (opened database session) := by
    refine (Ends.and h (ends_opened database session)).mono (fun _ _ h => h.1) ?_
    rintro fault after ⟨-, hclosed⟩ handle hhandle
    cases hclosed.symm.trans hhandle
  refine ends_bind hopened ?_
  rintro handle opened ⟨hhandle, hstate⟩
  -- the statements run on the connection, and the registry is not asked once more
  have hregistry : Ends (fun _ after => after.registry.handle? database = some handle)
      (fun _ after => after.registry.handle? database = some handle)
      (transaction handle (runFrom handle 0 statements) opened) := by
    refine ends_state_iff.mpr ?_
    rwa [registry_transaction handle statements opened]
  refine ends_converting (((ends_transaction hplain hstate).and hregistry).mono ?_ ?_)
  · rintro outcomes after ⟨⟨changed, hcomposed, hafter⟩, hopen⟩
    exact ⟨changed, hcomposed, handle, hopen, hafter⟩
  · rintro fault after ⟨hafter, hopen⟩
    exact Sees.untouched ⟨handle, hopen, hafter⟩

/-- A batch on an open database; it may have no statements. -/
theorem Sees.ends_runBatch (h : engine.Sees database data session)
    (hplain : ∀ statement ∈ statements, ¬ engine.controls statement) :
    Ends (fun outcomes after => ∃ changed, engine.Composed statements outcomes data changed ∧
        engine.Sees database changed after)
      (fun _ after => engine.Untouched database data after)
      (runBatch database statements session) := by
  cases statements with
  | nil => exact ⟨data, .nil data, h⟩
  | cons statement statements => exact h.shows.ends_runBatch (List.cons_ne_nil _ _) hplain

/-- The rows that a single statement gives. -/
theorem Shows.ends_rows {name : Database} (h : engine.Shows name.name data session)
    {statement : Statement} (hplain : ¬ engine.controls statement) :
    Ends (fun rows after => ∃ result changed, engine.effect statement data result changed ∧
        rows = Outcome.rowsOf result ∧ engine.Sees name.name changed after)
      (fun _ after => engine.Untouched name.name data after)
      (name.rows statement session) := by
  have hexecuted : Ends (fun outcome after => ∃ result changed,
        engine.effect statement data result changed ∧ outcome.rows = Outcome.rowsOf result ∧
          engine.Sees name.name changed after)
      (fun _ after => engine.Untouched name.name data after)
      (name.execute statement session) := by
    refine ends_bind (h.ends_runBatch (List.cons_ne_nil statement [])
      (List.forall_mem_singleton.mpr hplain)) ?_
    rintro outcomes after ⟨changed, hcomposed, hsees⟩
    cases hcomposed with
    | cons heffect hrest =>
        cases hrest
        exact ⟨_, changed, heffect, rfl, hsees⟩
  exact ends_bind hexecuted fun _ _ h => h

end TransactionalEngine

end SqlAccess
