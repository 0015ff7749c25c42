import SqlAccess.Proofs.Action.Keeps
import SqlAccess.Proofs.Engine.Numbering
import SqlAccess.Proofs.Registry.Handle
import SqlAccess.Proofs.Statement.FirstWord
import SqlAccess.Transaction

/-!
# Numbers of inserted rows

The outcome of a statement tells the number of a row only if the statement itself
inserted this row (`NumberingEngine.TellsOwnRow`).  The engine would tell the number
of any earlier row as well; but before each insertion the row marker overwrites it, so
what an insertion leaves in place is the marked number, and this one is never told.

What was left behind before does not matter for this, so it holds of statements one
after the other (`NumberingEngine.Numbered`), and of batches one after the other
whatever fails among them (`runBatches_numbered`).
-/

namespace SqlAccess

variable {ω : Type} [Engine ω]

open SqlAccess.Action

/-- The world in which a statement of a batch is run: an insertion comes after the row
marker. -/
def prepared (handle : Handle) (statement : Statement) (world : ω) : ω :=
  if statement.isInsertion then (Engine.execute handle .rowMarker world).2 else world

namespace NumberingEngine

/-- A row is told exactly if the first word of the statement makes it an insertion, a
single row was changed, and the statement itself gave the row its number, which is not
the marked one. -/
def TellsOwnRow (engine : NumberingEngine ω) (handle : Handle) (statement : Statement)
    (world : ω) (result : ResultSet) (outcome : Outcome) : Prop :=
  ∀ row, outcome.insertId = some row ↔
    (statement.OpensWith "INSERT" ∨ statement.OpensWith "REPLACE") ∧ result.changes = 1 ∧
      engine.assigns handle statement world = some row ∧ row ≠ Statement.markedRow

/-- Statements that succeeded one after the other, with outcomes that tell their own
rows. -/
inductive Numbered (engine : NumberingEngine ω) (handle : Handle) :
    List Statement → List Outcome → ω → ω → Prop where
  | nil (world : ω) : Numbered engine handle [] [] world world
  | cons {statement : Statement} {statements : List Statement} {result : ResultSet}
      {outcome : Outcome} {outcomes : List Outcome} {world between after : ω} :
      Engine.execute handle statement (prepared handle statement world) = (.ok result, between) →
      engine.TellsOwnRow handle statement (prepared handle statement world) result outcome →
      Numbered engine handle statements outcomes between after →
      Numbered engine handle (statement :: statements) (outcome :: outcomes) world after

/-- A batch that returned: its statements were run between beginning and commit. -/
inductive Returned (engine : NumberingEngine ω) (handle : Handle) :
    List Statement → List Outcome → ω → ω → Prop where
  | nothing (world : ω) : Returned engine handle [] [] world world
  | committed {statements : List Statement} {outcomes : List Outcome} {world ended : ω} :
      engine.Numbered handle statements outcomes
        (Engine.execute handle .beginning world).2 ended →
      Returned engine handle statements outcomes world (Engine.execute handle .commit ended).2

/-- Batches one after the other, some of which returned and others failed. -/
inductive History (engine : NumberingEngine ω) (database : String) (handle : Handle) :
    List (List Statement) → List (Except Fault (List Outcome)) → Session ω → Session ω →
      Prop where
  | nil (session : Session ω) : History engine database handle [] [] session session
  | returned {statements : List Statement} {outcomes : List Outcome}
      {batches : List (List Statement)} {results : List (Except Fault (List Outcome))}
      {session between after : Session ω} :
      runBatch database statements session = (.ok outcomes, between) →
      engine.Returned handle statements outcomes session.outside between.outside →
      History engine database handle batches results between after →
      History engine database handle (statements :: batches) (.ok outcomes :: results) session
        after
  | failed {statements : List Statement} {fault : Fault} {batches : List (List Statement)}
      {results : List (Except Fault (List Outcome))} {session between after : Session ω} :
      runBatch database statements session = (.error fault, between) →
      History engine database handle batches results between after →
      History engine database handle (statements :: batches) (.error fault :: results) session
        after

end NumberingEngine

namespace Action

variable {engine : NumberingEngine ω} {handle : Handle} {database : String}
  {session : Session ω} {statement : Statement}

/-! ## One statement -/

theorem tellsOwnRow_of_not_insertion (h : statement.isInsertion = false) {world : ω}
    (result : ResultSet) :
    engine.TellsOwnRow handle statement world result (.ofResult statement.isInsertion result) := by
  intro row
  have hopens : ¬ (statement.OpensWith "INSERT" ∨ statement.OpensWith "REPLACE") := by
    rw [← Statement.isInsertion_iff, h]
    exact Bool.false_ne_true
  have hnone : (Outcome.ofResult statement.isInsertion result).insertId = none := by
    simp [Outcome.ofResult, Outcome.insertedRow, h]
  rw [hnone]
  exact iff_of_false nofun fun hrow => hopens hrow.1

/-- Behind the row marker, what is told is what the insertion gave or the marked
number. -/
theorem tellsOwnRow_of_marked (h : statement.isInsertion = true) {world : ω} {result : ResultSet}
    (hresult : result.lastRow =
      (engine.assigns handle statement world).or (some Statement.markedRow)) :
    engine.TellsOwnRow handle statement world result (.ofResult statement.isInsertion result) := by
  intro row
  have hopens := Statement.isInsertion_iff.mp h
  simp only [Outcome.ofResult, Outcome.insertedRow, h, true_and, hopens]
  cases hassigns : engine.assigns handle statement world with
  | none => simp [hresult, hassigns]
  | some given =>
      have hlast : result.lastRow = some given := by rw [hresult, hassigns, Option.some_or]
      rw [hlast, ite_eq_iff]
      constructor
      · rintro (⟨⟨hchanges, hne⟩, hrow⟩ | ⟨-, ⟨⟩⟩)
        obtain rfl := Option.some.inj hrow
        exact ⟨hchanges, rfl, fun hmarked => hne (congrArg some hmarked)⟩
      · rintro ⟨hchanges, hrow, hne⟩
        obtain rfl := Option.some.inj hrow
        exact .inl ⟨⟨hchanges, fun hmarked => hne (Option.some.inj hmarked)⟩, rfl⟩

theorem ends_rowMarker (engine : NumberingEngine ω) (handle : Handle) (session : Session ω) :
    Ends
      (fun _ marked => marked.outside = (Engine.execute handle .rowMarker session.outside).2 ∧
        engine.register handle marked.outside = some Statement.markedRow)
      (fun _ _ => True) (execute handle .rowMarker session) := by
  refine ends_request_of_eq (fun result outside hexecute => ?_) fun _ _ _ => trivial
  have hruns := engine.runs handle .rowMarker session.outside
  rw [hexecute, engine.marks] at hruns
  exact ⟨by rw [hexecute], hruns.2⟩

theorem ends_execute_told
    (htells : ∀ result outside,
      Engine.execute handle statement session.outside = (.ok result, outside) →
        engine.TellsOwnRow handle statement session.outside result
          (.ofResult statement.isInsertion result)) :
    Ends
      (fun outcome after => ∃ result,
        Engine.execute handle statement session.outside = (.ok result, after.outside) ∧
        engine.TellsOwnRow handle statement session.outside result outcome)
      (fun _ _ => True)
      ((do
        let result ← execute handle statement
        return .ofResult statement.isInsertion result : Action ω Outcome) session) := by
  refine ends_bind (ends_request_of_eq ?_ fun _ _ _ => trivial) fun _ _ h => h
  intro result outside hexecute
  exact ⟨result, hexecute, htells result outside hexecute⟩

/-- A statement that succeeds tells its own row, whatever was left behind before. -/
theorem ends_runStatement_numbered (engine : NumberingEngine ω) (handle : Handle)
    (statement : Statement) (session : Session ω) :
    Ends
      (fun outcome after => ∃ result,
        Engine.execute handle statement (prepared handle statement session.outside) =
          (.ok result, after.outside) ∧
        engine.TellsOwnRow handle statement (prepared handle statement session.outside) result
          outcome)
      (fun _ _ => True) (runStatement handle statement session) := by
  unfold runStatement prepared
  by_cases hinsertion : statement.isInsertion = true
  · rw [if_pos hinsertion, if_pos hinsertion]
    refine ends_bind (ends_rowMarker engine handle session) ?_
    rintro _ marked ⟨hmarked, hregister⟩
    -- from here on it does not matter what was in the register before the marker
    rw [← hmarked]
    refine ends_execute_told fun result outside hexecute => ?_
    have hruns := engine.runs handle statement marked.outside
    rw [hexecute, hregister] at hruns
    exact tellsOwnRow_of_marked hinsertion (hruns.1.trans hruns.2)
  · rw [if_neg hinsertion, if_neg hinsertion]
    refine ends_execute_told fun result _ _ => ?_
    exact tellsOwnRow_of_not_insertion (Bool.eq_false_iff.mpr hinsertion) result

/-! ## Batches -/

theorem ends_runFrom_numbered (engine : NumberingEngine ω) (handle : Handle)
    (statements : List Statement) (position : Nat) (session : Session ω) :
    Ends
      (fun outcomes after =>
        engine.Numbered handle statements outcomes session.outside after.outside)
      (fun _ _ => True) (runFrom handle position statements session) := by
  induction statements generalizing position session with
  | nil => exact .nil session.outside
  | cons statement statements ih =>
      refine ends_bind
        (ends_converting (ends_runStatement_numbered engine handle statement session)) ?_
      rintro outcome between ⟨result, hexecute, htells⟩
      refine ends_bind (ih (position + 1) between) ?_
      intro outcomes after hnumbered
      exact .cons hexecute htells hnumbered

theorem ends_transaction_numbered (engine : NumberingEngine ω) (handle : Handle)
    (statements : List Statement) (session : Session ω) :
    Ends
      (fun outcomes after =>
        engine.Returned handle statements outcomes session.outside after.outside)
      (fun _ _ => True) (transaction handle (runFrom handle 0 statements) session) := by
  have hasked : ∀ statement (world : Session ω),
      Ends (fun _ after => after.outside = (Engine.execute handle statement world.outside).2)
        (fun _ _ => True) (execute handle statement world) := by
    intro statement world
    refine ends_request_of_eq (fun result outside hexecute => ?_) fun _ _ _ => trivial
    rw [hexecute]
  refine ends_bind (hasked .beginning session) fun _ begun hbegun => ?_
  have hcommitted : Ends
      (fun outcomes after =>
        engine.Returned handle statements outcomes session.outside after.outside)
      (fun _ _ => True)
      ((do
        let outcomes ← runFrom handle 0 statements
        let _ ← execute handle Statement.commit
        return outcomes : Action ω (List Outcome)) begun) := by
    refine ends_bind (ends_runFrom_numbered engine handle statements 0 begun) ?_
    intro outcomes ended hnumbered
    refine ends_bind (hasked .commit ended) fun _ committed hcommitted => ?_
    rw [hbegun] at hnumbered
    rw [pure_apply, ends_ok, hcommitted]
    exact .committed hnumbered
  exact ends_cleaning hcommitted fun _ _ _ => ends_anyhow _

theorem registry_transaction (handle : Handle) (statements : List Statement)
    (session : Session ω) :
    (transaction handle (runFrom handle 0 statements) session).2.registry = session.registry := by
  have hexecute : ∀ statement, Keeps (fun after => after.registry = session.registry)
      (execute handle statement : Action ω ResultSet) := by
    intro statement before hbefore
    have hends := ends_request_registry before
      (ends_anyhow (Engine.execute handle statement before.outside))
    refine (ends_state_iff.mp (hends.mono (fun _ _ => And.left) fun _ _ => And.left)).trans hbefore
  exact keeps_transaction (fun statement _ => hexecute statement)
    (fun statement _ => hexecute statement) session rfl

/-- A batch on an open connection leaves it open. -/
theorem ends_runBatch_numbered (engine : NumberingEngine ω)
    (hopen : session.registry.handle? database = some handle) (statements : List Statement) :
    Ends
      (fun outcomes after => after.registry = session.registry ∧
        engine.Returned handle statements outcomes session.outside after.outside)
      (fun _ after => after.registry = session.registry)
      (runBatch database statements session) := by
  unfold runBatch
  cases statements with
  | nil => exact ⟨rfl, .nothing session.outside⟩
  | cons statement statements =>
      have hopened : Ends (fun value after => value = handle ∧ after = session)
          (fun _ after => after.registry = session.registry) (opened database session) := by
        rw [opened_of_handle hopen]
        exact ⟨rfl, rfl⟩
      have hregistry : Ends (fun _ after => after.registry = session.registry)
          (fun _ after => after.registry = session.registry)
          (transaction handle (runFrom handle 0 (statement :: statements)) session) :=
        ends_state_iff.mpr (registry_transaction handle (statement :: statements) session)
      have hreturned := ends_transaction_numbered engine handle (statement :: statements) session
      refine ends_bind hopened ?_
      rintro _ _ ⟨rfl, rfl⟩
      exact ends_converting ((hregistry.and hreturned).mono (fun _ _ h => h) fun _ _ => And.left)

/-- Batches one after the other, whatever becomes of them. -/
def runBatches (database : String) :
    List (List Statement) → Action ω (List (Except Fault (List Outcome)))
  | [] => pure []
  | statements :: batches => do
    let result ← (runBatch database statements).attempt
    let results ← runBatches database batches
    return result :: results

theorem exists_history (engine : NumberingEngine ω)
    (hopen : session.registry.handle? database = some handle) (batches : List (List Statement)) :
    ∃ results after, runBatches database batches session = (.ok results, after) ∧
      engine.History database handle batches results session after := by
  induction batches generalizing session with
  | nil => exact ⟨[], session, rfl, .nil session⟩
  | cons statements batches ih =>
      have hbatch := ends_runBatch_numbered engine hopen statements
      rcases hresult : runBatch database statements session with ⟨result, between⟩
      rw [hresult] at hbatch
      have hrest : ∀ {results after}, runBatches database batches between = (.ok results, after) →
          runBatches database (statements :: batches) session =
            (.ok (result :: results), after) := by
        intro results after hresults
        simp only [runBatches, bind_apply, attempt, hresult, after_ok, hresults, pure_apply]
      cases result with
      | error fault =>
          have hregistry : between.registry = session.registry := hbatch
          obtain ⟨results, after, hresults, hhistory⟩ := ih (hregistry ▸ hopen)
          exact ⟨_, after, hrest hresults, .failed hresult hhistory⟩
      | ok outcomes =>
          obtain ⟨hregistry, hreturned⟩ := hbatch
          obtain ⟨results, after, hresults, hhistory⟩ := ih (hregistry ▸ hopen)
          exact ⟨_, after, hrest hresults, .returned hresult hreturned hhistory⟩

/-- A statement that succeeds tells the number of a row exactly if it is an insertion by
its first word, changed a single row and gave this row the number itself: in whatever
session it is run, and so for every outcome of batches one after the other, whatever
fails among them. -/
theorem runBatches_numbered (engine : NumberingEngine ω) {database : String} {handle : Handle}
    {session : Session ω} (hopen : session.registry.handle? database = some handle)
    (batches : List (List Statement)) :
    (∀ statement (before : Session ω), Ends
      (fun outcome after => ∃ result,
        Engine.execute handle statement (prepared handle statement before.outside) =
          (.ok result, after.outside) ∧
        engine.TellsOwnRow handle statement (prepared handle statement before.outside) result
          outcome)
      (fun _ _ => True) (runStatement handle statement before)) ∧
    ∃ results after, runBatches database batches session = (.ok results, after) ∧
      engine.History database handle batches results session after :=
  ⟨ends_runStatement_numbered engine handle, exists_history engine hopen batches⟩

/-- A session with an open connection to `pets`. -/
def openPets : Session Tally where
  registry := { connections := [{ name := "pets", path := "pets", handle := some ⟨0⟩ }] }
  outside := {}

/-- A cat and a dog that get the same number, with a batch that fails between them; then
a row without a number, and an update. -/
def petBatches : List (List Statement) :=
  [[⟨"INSERT INTO cats VALUES (1)", []⟩], [⟨"", []⟩],
    [⟨"\n insert into dogs VALUES (1)", []⟩, ⟨"REPLACE INTO tags VALUES (1)", []⟩,
      ⟨"UPDATE cats SET age = 1", []⟩]]

/-- The cat and the dog are told, the row and the update are not. -/
theorem runBatches_numbered_pets :
    openPets.registry.handle? "pets" = some ⟨0⟩ ∧
      ((runBatches "pets" petBatches openPets).1.toOption.getD []).map (fun result =>
        result.toOption.map fun outcomes => outcomes.map Outcome.insertId) =
        [some [some 1], none, some [some 1, none, none]] ∧
      ∃ results after, runBatches "pets" petBatches openPets = (.ok results, after) ∧
        Tally.numbering.History "pets" ⟨0⟩ petBatches results openPets after := by
  have hopen : openPets.registry.handle? "pets" = some ⟨0⟩ := by decide
  exact ⟨hopen, by decide +kernel, (runBatches_numbered Tally.numbering hopen petBatches).2⟩

end Action

end SqlAccess
