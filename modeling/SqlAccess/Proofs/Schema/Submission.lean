import SqlAccess.Proofs.Action.Keeps
import SqlAccess.Proofs.Engine.Schema
import SqlAccess.Proofs.Registry.Handle

/-!
# Alterations that are submitted

Of the statements that reach the engine only those that alter tables are looked at: the
brackets of a transaction, the row marker, the statements that set a connection up and
the questions of the catalog begin otherwise.  So if a batch has only alterations of a
certain kind, the engine is submitted only such (`submits_runBatch`), whatever fails.
-/

namespace SqlAccess

namespace SchemaEngine

open SqlAccess.Action

variable {ω δ : Type} [Engine ω] {engine : SchemaEngine ω δ} {allowed : Statement → Prop}
  {start session : Session ω} {statement : Statement}

/-- All alterations that were submitted since the start are allowed ones. -/
def Submits (engine : SchemaEngine ω δ) (allowed : Statement → Prop)
    (start session : Session ω) : Prop :=
  ∃ statements, engine.submitted session.outside = engine.submitted start.outside ++ statements ∧
    ∀ statement ∈ statements, statement.IsAlteration → allowed statement

theorem Submits.refl (engine : SchemaEngine ω δ) (allowed : Statement → Prop)
    (session : Session ω) : engine.Submits allowed session session :=
  ⟨[], (List.append_nil _).symm, nofun⟩

theorem submits_execute {handle : Handle} (h : statement.IsAlteration → allowed statement) :
    Keeps (engine.Submits allowed start) (execute handle statement) := by
  rintro session ⟨statements, hsubmitted, hallowed⟩
  refine ⟨statements ++ [statement], ?_, ?_⟩
  · calc engine.submitted (execute handle statement session).2.outside
        = engine.submitted session.outside ++ [statement] := engine.submitted_execute _ _ _
      _ = engine.submitted start.outside ++ (statements ++ [statement]) := by
        rw [hsubmitted, List.append_assoc]
  · exact List.forall_mem_append.mpr ⟨hallowed, by simpa using h⟩

theorem submits_connect (path : String) (timeout : Floating) :
    Keeps (engine.Submits allowed start) (connect path timeout : Action ω Handle) := by
  rintro session ⟨statements, hsubmitted, hallowed⟩
  exact ⟨statements, (engine.submitted_connect _ _ _).trans hsubmitted, hallowed⟩

theorem submits_close (handle : Handle) :
    Keeps (engine.Submits allowed start) (close handle : Action ω Unit) := by
  rintro session ⟨statements, hsubmitted, hallowed⟩
  exact ⟨statements, (engine.submitted_close _ _).trans hsubmitted, hallowed⟩

theorem submits_opened (database : String) :
    Keeps (engine.Submits allowed start) (opened database : Action ω Handle) := by
  have hopenHandle : ∀ config path, Keeps (engine.Submits allowed start)
      (openHandle config path : Action ω Handle) := fun config path =>
    keeps_openHandle path (submits_connect path config.timeout) (fun _ statement hsetup =>
      submits_execute fun halters => absurd halters (not_isAlteration_setup config _ hsetup))
      submits_close
  intro session h
  cases hhandle : session.registry.handle? database with
  | some handle =>
      rw [opened_of_handle hhandle]
      exact h
  | none =>
      -- registering the database and giving it the handle are done outside of the engine
      have hregistered : engine.Submits allowed start
          { session with registry := session.registry.register database } := h
      have hset : ∀ handle, Keeps (engine.Submits allowed start)
          (modifyRegistry fun registry => registry.setHandle database (some handle)) :=
        fun _ _ h => h
      rw [opened_of_no_handle hhandle]
      exact keeps_bind (keeps_converting (hopenHandle _ _)) (fun handle =>
        keeps_bind (hset handle) fun _ => keeps_pure handle) _ hregistered

/-- The alterations that a batch submits are its own. -/
theorem submits_runBatch {database : String} {statements : List Statement}
    (h : ∀ statement ∈ statements, statement.IsAlteration → allowed statement) :
    Keeps (engine.Submits allowed start)
      (runBatch database statements : Action ω (List Outcome)) := by
  have hown : ∀ statement ∈ ownStatements, ¬ statement.IsAlteration := by decide
  refine keeps_ite (keeps_pure []) (keeps_bind (submits_opened database) fun handle =>
    keeps_converting (keeps_transaction ?_ ?_))
  · exact fun statement hstatement =>
      submits_execute fun halters => absurd halters (hown statement hstatement)
  · exact fun statement hstatement => submits_execute (h statement hstatement)

/-! ## Questions -/

variable {database : Database}

theorem submits_rows (h : ¬ statement.IsAlteration) :
    Keeps (engine.Submits allowed start) (database.rows statement : Action ω (List Row)) := by
  have hallowed : ∀ asked ∈ [statement], asked.IsAlteration → allowed asked :=
    List.forall_mem_singleton.mpr fun halters => absurd halters h
  exact keeps_bind (keeps_bind (submits_runBatch hallowed) fun _ => keeps_pure _)
    fun _ => keeps_pure _

theorem submits_hasTable (table : String) :
    Keeps (engine.Submits allowed start) (database.hasTable table : Action ω Bool) := by
  refine keeps_bind (submits_rows (not_isAlteration_tableCount table)) fun rows => ?_
  cases rows with
  | nil => exact keeps_pure false
  | cons row rows => exact keeps_bind (keeps_lift _) fun _ => keeps_lift _

theorem submits_missingColumns (table : Table) :
    Keeps (engine.Submits allowed start)
      (database.missingColumns table : Action ω (List Column)) :=
  keeps_bind (keeps_bind (keeps_bind (submits_rows (not_isAlteration_columnQuestion table.name))
    fun _ => keeps_lift _) fun _ => keeps_pure _) fun _ => keeps_pure _

end SchemaEngine

end SqlAccess
