import SqlAccess.Proofs.Engine.Shelf
import SqlAccess.Proofs.Registry.Handle

/-!
# Batches are atomic

On an engine with transactions, a batch either has all of its effects, in the
order of its statements, or it has none, and in both cases its connection is left
idle (`runBatch_atomic`).

The snapshot is what the proof carries along.  A statement that fails leaves the
transaction open with the snapshot or has it given up already
(`TransactionState.FailedFrom`); in the first case the rollback goes back to the
snapshot, in the second no rollback is sent, and the two meet in `ends_rollBack`.
-/

namespace SqlAccess

namespace Action

variable {ω δ : Type} [Engine ω] {engine : TransactionalEngine ω δ}
  {handle : Handle} {session : Session ω} {snapshot data : δ}

/-! ## Inside of a transaction -/

theorem ends_runStatement {statement : Statement}
    (hstate : engine.state handle session.outside = .active snapshot data)
    (hplain : ¬ engine.controls statement) :
    Ends (fun outcome after => ∃ result changed, engine.effect statement data result changed ∧
        outcome = .ofResult statement.isInsertion result ∧
        engine.state handle after.outside = .active snapshot changed)
      (fun _ after => (engine.state handle after.outside).FailedFrom snapshot data)
      (runStatement handle statement session) := by
  have hrun : ∀ begun : Session ω, engine.state handle begun.outside = .active snapshot data →
      Ends (fun outcome after => ∃ result changed, engine.effect statement data result changed ∧
          outcome = .ofResult statement.isInsertion result ∧
          engine.state handle after.outside = .active snapshot changed)
        (fun _ after => (engine.state handle after.outside).FailedFrom snapshot data)
        ((do
          let result ← execute handle statement
          return .ofResult statement.isInsertion result : Action ω Outcome) begun) := by
    intro begun hbegun
    refine ends_bind (ends_request (engine.runs hbegun hplain)) ?_
    rintro result after ⟨changed, heffect, hafter⟩
    exact ⟨result, changed, heffect, rfl, hafter⟩
  unfold runStatement
  split
  · -- the marker has no effect on the data, so the statement starts where it would start anyway
    refine ends_bind (ends_request (engine.runs hstate engine.not_controls_rowMarker)) ?_
    rintro result after ⟨changed, heffect, hafter⟩
    rw [engine.eq_of_effect_rowMarker heffect] at hafter
    exact hrun after hafter
  · exact hrun session hstate

/-- The statements of a batch have their effects one after the other.  When one of
them fails, those before it are not yet undone unless the engine has given the
transaction up. -/
theorem ends_runFrom {statements : List Statement}
    (hplain : ∀ statement ∈ statements, ¬ engine.controls statement) (position : Nat)
    (hstate : engine.state handle session.outside = .active snapshot data) :
    Ends (fun outcomes after => ∃ changed, engine.Composed statements outcomes data changed ∧
        engine.state handle after.outside = .active snapshot changed)
      (fun _ after => ∃ changed,
        (engine.state handle after.outside).FailedFrom snapshot changed)
      (runFrom handle position statements session) := by
  induction statements generalizing position session data with
  | nil => exact ⟨data, .nil data, hstate⟩
  | cons statement statements ih =>
      rw [List.forall_mem_cons] at hplain
      unfold runFrom
      refine ends_bind (ends_converting ((ends_runStatement hstate hplain.1).mono
        (fun _ _ h => h) fun _ _ h => ⟨data, h⟩)) ?_
      rintro outcome after ⟨result, changed, heffect, rfl, hafter⟩
      refine ends_bind (ih hplain.2 (position + 1) hafter) ?_
      rintro outcomes last ⟨final, hcomposed, hlast⟩
      exact ⟨final, .cons heffect hcomposed, hlast⟩

/-! ## The bracket -/

/-- After a failure the rollback leaves the data of the snapshot, whether or not
the engine has given the transaction up by itself. -/
theorem ends_rollBack
    (hstate : (engine.state handle session.outside).FailedFrom snapshot data) :
    Ends (fun _ after => engine.state handle after.outside = .idle snapshot) (fun _ _ => False)
      (rollBack handle session) := by
  rw [rollBack_apply, engine.inTransaction_eq]
  rcases hstate with hactive | hidle
  · rw [hactive]
    exact ends_bind (ends_request (engine.rollsBack hactive)) fun _ _ h => h
  · rw [hidle]
    exact hidle

theorem ends_transaction {statements : List Statement}
    (hplain : ∀ statement ∈ statements, ¬ engine.controls statement)
    (hstate : engine.state handle session.outside = .idle data) :
    Ends (fun outcomes after => ∃ changed, engine.Composed statements outcomes data changed ∧
        engine.state handle after.outside = .idle changed)
      (fun _ after => engine.state handle after.outside = .idle data)
      (transaction handle (runFrom handle 0 statements) session) := by
  -- the data at the start are the snapshot from here on
  refine ends_bind (ends_request (engine.begins hstate)) fun _ begun hbegun => ?_
  have hbody : Ends (fun outcomes after => ∃ changed,
        engine.Composed statements outcomes data changed ∧
          engine.state handle after.outside = .idle changed)
      (fun _ failed => ∃ changed, (engine.state handle failed.outside).FailedFrom data changed)
      ((do
        let outcomes ← runFrom handle 0 statements
        let _ ← execute handle Statement.commit
        return outcomes : Action ω (List Outcome)) begun) := by
    refine ends_bind (ends_runFrom hplain 0 hbegun) ?_
    rintro outcomes ended ⟨changed, hcomposed, hended⟩
    refine ends_bind ((ends_request (engine.commits hended)).mono (fun _ _ h => h)
      fun _ _ h => ⟨changed, h⟩) fun _ committed hcommitted => ?_
    exact ⟨changed, hcomposed, hcommitted⟩
  refine ends_cleaning hbody ?_
  rintro fault failed ⟨changed, hfailed⟩
  exact (ends_rollBack hfailed).mono (fun _ _ h => h) fun _ _ h => h.elim

/-! ## Batches -/

/-- A batch on an idle connection leaves it idle: with the effects of the
statements, or with the data that were there before. -/
theorem ends_runBatch {database : String} {statements : List Statement}
    (hplain : ∀ statement ∈ statements, ¬ engine.controls statement)
    (hopen : session.registry.handle? database = some handle)
    (hstate : engine.state handle session.outside = .idle data) :
    Ends (fun outcomes after => ∃ changed, engine.Composed statements outcomes data changed ∧
        engine.state handle after.outside = .idle changed)
      (fun _ after => engine.state handle after.outside = .idle data)
      (runBatch database statements session) := by
  unfold runBatch
  cases statements with
  | nil => exact ⟨data, .nil data, hstate⟩
  | cons statement statements =>
      have hopened : Ends (fun value after => value = handle ∧ after = session)
          (fun _ after => engine.state handle after.outside = .idle data)
          (opened database session) := by
        rw [opened_of_handle hopen]
        exact ⟨rfl, rfl⟩
      refine ends_bind hopened ?_
      rintro _ _ ⟨rfl, rfl⟩
      exact ends_converting (ends_transaction hplain hstate)

/-- A batch of statements that do not control transactions is atomic, whatever
fails in it: if it returns, the durable data are what the effects of all its
statements make of the data before, one after the other, and if it fails, they are
the data before.  The connection is not in a transaction afterwards. -/
theorem runBatch_atomic (engine : TransactionalEngine ω δ) {database : String} {handle : Handle}
    {session : Session ω} {data : δ} {statements : List Statement}
    (hopen : session.registry.handle? database = some handle)
    (hidle : engine.state handle session.outside = .idle data)
    (hplain : ∀ statement ∈ statements, ¬ engine.controls statement) :
    Ends (fun outcomes after => Engine.inTransaction handle after.outside = false ∧
        engine.Composed statements outcomes data (engine.durable handle after.outside))
      (fun _ after => Engine.inTransaction handle after.outside = false ∧
        engine.durable handle after.outside = data)
      (runBatch database statements session) := by
  refine (ends_runBatch hplain hopen hidle).mono ?_ ?_
  · rintro outcomes after ⟨changed, hcomposed, hafter⟩
    rw [engine.inTransaction_eq, TransactionalEngine.durable, hafter]
    exact ⟨rfl, hcomposed⟩
  · intro fault after hafter
    rw [engine.inTransaction_eq, TransactionalEngine.durable, hafter]
    exact ⟨rfl, rfl⟩

/-- A session on a shelf, with an open connection to `notes`. -/
def openNotes : Session Shelf where
  registry := { connections := [{ name := "notes", path := "notes", handle := some ⟨0⟩ }] }
  outside := { desks := [{ path := "notes" }] }

/-- Two batches of which one is carried out, while a statement of the other one is
refused and takes the statement before it along. -/
theorem runBatch_atomic_notes :
    let engine := (Shelf.versioned "notes").toTransactionalEngine
    let added : Statement := ⟨"INSERT INTO notes VALUES (1)", []⟩
    let returned := runBatch "notes" [added, added] openNotes
    let refused := runBatch "notes" [added, ⟨"", []⟩] openNotes
    returned.1.isOk = true ∧ refused.1.isOk = false ∧
      Ends (fun outcomes after => Engine.inTransaction ⟨0⟩ after.outside = false ∧
          engine.Composed [added, added] outcomes {} (engine.durable ⟨0⟩ after.outside))
        (fun _ after => Engine.inTransaction ⟨0⟩ after.outside = false ∧
          engine.durable ⟨0⟩ after.outside = {}) returned ∧
      Ends (fun outcomes after => Engine.inTransaction ⟨0⟩ after.outside = false ∧
          engine.Composed [added, ⟨"", []⟩] outcomes {} (engine.durable ⟨0⟩ after.outside))
        (fun _ after => Engine.inTransaction ⟨0⟩ after.outside = false ∧
          engine.durable ⟨0⟩ after.outside = {}) refused := by
  intro engine added returned refused
  have hreturned : ∀ statement ∈ [added, added], statement.IsPlain := by decide
  have hrefused : ∀ statement ∈ [added, ⟨"", []⟩], statement.IsPlain := by decide
  exact ⟨by decide +kernel, by decide +kernel, runBatch_atomic engine rfl rfl hreturned,
    runBatch_atomic engine rfl rfl hrefused⟩

end Action

end SqlAccess
