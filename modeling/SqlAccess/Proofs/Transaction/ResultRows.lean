import SqlAccess.Proofs.Row.Columns
import SqlAccess.Proofs.Schema.Telling

/-!
# The rows of a batch

A batch returns exactly if its database is opened and the engine answers every request of it:
the beginning, the row marker before each insertion, the statements and the commit
(`BatchReplies`, `runBatch_eq_ok_iff`).  The outcomes then have the rows of the replies, one
for one and in the order of the engine (`runBatch_rows`).

A reply without columns has no rows.  In the others each row names the columns in their order
and has under each name the cell of the first column that answers to it, which is the column's
own cell where no other column has the same name up to the case of letters.  Of two columns
`a` and `A` the second one is lost: both names have the cell of the first
(`runBatch_otherCase`).
-/

namespace SqlAccess

variable {ω : Type} [Engine ω]

/-! ## Rows of a reply -/

/-- A row for the cells of a reply. -/
structure IsRowOf (columns : List String) (cells : List Value) (row : Row) : Prop where
  reads : Row.Reads columns cells row
  eq_zip_iff : row = ⟨columns.zip cells⟩ ↔ ∀ (position : Nat) (name : String),
    columns[position]? = some name → cells[Row.found columns name]? = cells[position]?
  eq_zip : columns.Pairwise (fun first second => Row.answersTo first second = false) →
    row = ⟨columns.zip cells⟩

theorem isRowOf_ofCells {columns : List String} {cells : List Value} (h : columns.Nodup)
    (hlength : columns.length = cells.length) :
    IsRowOf columns cells (Row.ofCells columns cells) where
  reads := Row.reads_ofCells h hlength
  eq_zip_iff := (Row.reads_ofCells h hlength).eq_zip_iff h hlength
  eq_zip hanswers := Row.ofCells_eq_zip hanswers hlength

/-- The rows of an outcome are those of the reply, one for one and in the same order.  Nothing
is said of cells that have no column of their own. -/
structure Outcome.HasRowsOf (result : ResultSet) (outcome : Outcome) : Prop where
  forall₂_rows : result.columns ≠ [] → result.columns.Nodup →
    List.Forall₂ (fun cells row => result.columns.length = cells.length →
      IsRowOf result.columns cells row) result.rows outcome.rows
  rows_eq_nil : result.columns = [] → outcome.rows = []

theorem hasRowsOf_ofResult (isInsertion : Bool) (result : ResultSet) :
    (Outcome.ofResult isInsertion result).HasRowsOf result where
  forall₂_rows hcolumns h := by
    have hrows : Outcome.rowsOf result = result.rows.map (Row.ofCells result.columns) :=
      if_neg (List.isEmpty_iff.not.mpr hcolumns)
    change List.Forall₂ _ _ (Outcome.rowsOf result)
    rw [hrows, List.forall₂_map_right_iff]
    exact List.forall₂_same.mpr fun cells _ hlength => isRowOf_ofCells h hlength
  rows_eq_nil hcolumns := if_pos (List.isEmpty_iff.mpr hcolumns)

/-! ## Replies to a batch -/

/-- The world is ready for a statement: before an insertion the row marker was set. -/
def Readied (handle : Handle) (statement : Statement) (world ready : ω) : Prop :=
  if statement.isInsertion then
    ∃ marked, Engine.execute handle .rowMarker world = (.ok marked, ready)
  else ready = world

theorem readied_iff_of_insertion {handle : Handle} {statement : Statement} {world ready : ω}
    (h : statement.isInsertion = true) :
    Readied handle statement world ready ↔
      ∃ marked, Engine.execute handle .rowMarker world = (.ok marked, ready) := by
  rw [Readied, if_pos h]

theorem readied_iff_of_not_insertion {handle : Handle} {statement : Statement} {world ready : ω}
    (h : ¬ statement.isInsertion = true) :
    Readied handle statement world ready ↔ ready = world := by
  rw [Readied, if_neg h]

/-- The results with which statements were answered, one after the other. -/
inductive Replies (handle : Handle) : List Statement → List ResultSet → ω → ω → Prop where
  | nil (world : ω) : Replies handle [] [] world world
  | cons {statement : Statement} {statements : List Statement} {result : ResultSet}
      {results : List ResultSet} {world ready between after : ω} :
      Readied handle statement world ready →
      Engine.execute handle statement ready = (.ok result, between) →
      Replies handle statements results between after →
      Replies handle (statement :: statements) (result :: results) world after

/-- The results with which the statements of a batch were answered, within a transaction
that was begun and committed.  Without statements nothing is asked. -/
inductive BatchReplies (database : String) :
    List Statement → List ResultSet → Session ω → Session ω → Prop where
  | nothing (session : Session ω) : BatchReplies database [] [] session session
  | committed {statements : List Statement} {results : List ResultSet} {handle : Handle}
      {first second : ResultSet} {session opened : Session ω} {begun ended outside : ω} :
      statements ≠ [] → Action.opened database session = (.ok handle, opened) →
      Engine.execute handle .beginning opened.outside = (.ok first, begun) →
      Replies handle statements results begun ended →
      Engine.execute handle .commit ended = (.ok second, outside) →
      BatchReplies database statements results session { opened with outside }

/-- The outcomes of statements with the results that they had. -/
def outcomesOf : List Statement → List ResultSet → List Outcome :=
  List.zipWith fun statement result => .ofResult statement.isInsertion result

theorem Replies.forall₂_outcomesOf {handle : Handle} {statements : List Statement}
    {results : List ResultSet} {world after : ω}
    (h : Replies handle statements results world after) :
    List.Forall₂ Outcome.HasRowsOf results (outcomesOf statements results) := by
  induction h with
  | nil => exact .nil
  | cons _ _ _ ih => exact .cons (hasRowsOf_ofResult _ _) ih

theorem BatchReplies.forall₂_outcomesOf {database : String} {statements : List Statement}
    {results : List ResultSet} {session after : Session ω}
    (h : BatchReplies database statements results session after) :
    List.Forall₂ Outcome.HasRowsOf results (outcomesOf statements results) := by
  cases h with
  | nothing => exact .nil
  | committed _ _ _ hreplies _ => exact hreplies.forall₂_outcomesOf

namespace Action

variable {handle : Handle} {database : String} {statement : Statement}
  {statements : List Statement} {outcome : Outcome} {outcomes : List Outcome}
  {session after : Session ω}

/-! ## When a batch returns -/

theorem runStatement_eq_ok_iff :
    runStatement handle statement session = (.ok outcome, after) ↔
      ∃ ready result outside, Readied handle statement session.outside ready ∧
        Engine.execute handle statement ready = (.ok result, outside) ∧
        outcome = .ofResult statement.isInsertion result ∧ after = { session with outside } := by
  have hrun : ∀ readied : Session ω,
      (do
        let result ← execute handle statement
        return .ofResult statement.isInsertion result : Action ω Outcome) readied =
          (.ok outcome, after) ↔
        ∃ result outside, Engine.execute handle statement readied.outside = (.ok result, outside) ∧
          outcome = .ofResult statement.isInsertion result ∧
          after = { readied with outside } := by
    intro readied
    simp only [bind_eq_ok_iff, execute, request_eq_ok_iff, pure_apply, Prod.mk.injEq,
      Except.ok.injEq]
    constructor
    · rintro ⟨result, _, ⟨outside, hexecute, rfl⟩, rfl, rfl⟩
      exact ⟨result, outside, hexecute, rfl, rfl⟩
    · rintro ⟨result, outside, hexecute, rfl, rfl⟩
      exact ⟨result, _, ⟨outside, hexecute, rfl⟩, rfl, rfl⟩
  unfold runStatement
  by_cases hinsertion : statement.isInsertion = true
  · simp only [readied_iff_of_insertion hinsertion]
    rw [if_pos hinsertion, bind_eq_ok_iff]
    constructor
    · rintro ⟨marked, _, hmarker, hrest⟩
      obtain ⟨ready, hmarked, rfl⟩ := request_eq_ok_iff.mp hmarker
      obtain ⟨result, outside, hexecute, houtcome, hafter⟩ := (hrun _).mp hrest
      exact ⟨ready, result, outside, ⟨marked, hmarked⟩, hexecute, houtcome, hafter⟩
    · rintro ⟨ready, result, outside, ⟨marked, hmarked⟩, hexecute, houtcome, hafter⟩
      exact ⟨marked, _, request_eq_ok_iff.mpr ⟨ready, hmarked, rfl⟩,
        (hrun _).mpr ⟨result, outside, hexecute, houtcome, hafter⟩⟩
  · simp only [readied_iff_of_not_insertion hinsertion]
    rw [if_neg hinsertion]
    constructor
    · intro h
      obtain ⟨result, outside, hrest⟩ := (hrun session).mp h
      exact ⟨session.outside, result, outside, rfl, hrest⟩
    · rintro ⟨_, result, outside, rfl, hrest⟩
      exact (hrun session).mpr ⟨result, outside, hrest⟩

theorem runFrom_eq_ok_iff (position : Nat) :
    runFrom handle position statements session = (.ok outcomes, after) ↔
      ∃ results outside, Replies handle statements results session.outside outside ∧
        outcomes = outcomesOf statements results ∧ after = { session with outside } := by
  induction statements generalizing position session outcomes after with
  | nil =>
      constructor
      · rintro ⟨⟩
        exact ⟨[], _, .nil _, rfl, rfl⟩
      · rintro ⟨_, _, ⟨⟩, rfl, rfl⟩
        rfl
  | cons statement statements ih =>
      unfold runFrom
      simp only [bind_eq_ok_iff, converting_eq_ok_iff, runStatement_eq_ok_iff, ih, pure_apply,
        Prod.mk.injEq, Except.ok.injEq]
      constructor
      · rintro ⟨_, _, ⟨ready, result, between, hready, hexecute, rfl, rfl⟩, _, _,
          ⟨results, outside, hrest, rfl, rfl⟩, rfl, rfl⟩
        exact ⟨result :: results, outside, .cons hready hexecute hrest, rfl, rfl⟩
      · rintro ⟨_, outside, hreplies, rfl, rfl⟩
        cases hreplies with
        | cons hready hexecute hrest =>
            exact ⟨_, _, ⟨_, _, _, hready, hexecute, rfl, rfl⟩, _, _,
              ⟨_, outside, hrest, rfl, rfl⟩, rfl, rfl⟩

theorem transaction_eq_ok_iff {α : Type} {body : Action ω α} {value : α} :
    transaction handle body session = (.ok value, after) ↔
      ∃ first second begun ended outside,
        Engine.execute handle .beginning session.outside = (.ok first, begun) ∧
        body { session with outside := begun } = (.ok value, ended) ∧
        Engine.execute handle .commit ended.outside = (.ok second, outside) ∧
        after = { ended with outside } := by
  unfold transaction
  simp only [bind_eq_ok_iff, cleaning_eq_ok_iff, execute, request_eq_ok_iff, pure_apply,
    Prod.mk.injEq, Except.ok.injEq]
  constructor
  · rintro ⟨first, _, ⟨begun, hbegun, rfl⟩, _, ended, hbody, second, _,
      ⟨outside, hcommitted, rfl⟩, rfl, rfl⟩
    exact ⟨first, second, begun, ended, outside, hbegun, hbody, hcommitted, rfl⟩
  · rintro ⟨first, second, begun, ended, outside, hbegun, hbody, hcommitted, rfl⟩
    exact ⟨first, _, ⟨begun, hbegun, rfl⟩, value, ended, hbody, second, _,
      ⟨outside, hcommitted, rfl⟩, rfl, rfl⟩

/-- A batch returns exactly if everything that is asked of the engine for it succeeds. -/
theorem runBatch_eq_ok_iff :
    runBatch database statements session = (.ok outcomes, after) ↔
      ∃ results, BatchReplies database statements results session after ∧
        outcomes = outcomesOf statements results := by
  unfold runBatch
  by_cases hstatements : statements = []
  · subst hstatements
    constructor
    · rintro ⟨⟩
      exact ⟨[], .nothing _, rfl⟩
    · rintro ⟨results, hreplies, rfl⟩
      cases hreplies with
      | nothing => rfl
      | committed hne => exact absurd rfl hne
  · rw [if_neg (List.isEmpty_iff.not.mpr hstatements)]
    simp only [bind_eq_ok_iff, converting_eq_ok_iff, transaction_eq_ok_iff, runFrom_eq_ok_iff]
    constructor
    · rintro ⟨handle, opened, hopened, first, second, begun, _, outside, hbegun,
        ⟨results, ended, hreplies, rfl, rfl⟩, hcommitted, rfl⟩
      -- the batch ends in the session in which the database was opened, but for the world outside
      have hbatch : BatchReplies database statements results session { opened with outside } :=
        .committed hstatements hopened hbegun hreplies hcommitted
      exact ⟨results, hbatch, rfl⟩
    · rintro ⟨results, hreplies, rfl⟩
      cases hreplies with
      | nothing => exact absurd rfl hstatements
      | committed _ hopened hbegun hreplies hcommitted =>
          exact ⟨_, _, hopened, _, _, _, _, _, hbegun, ⟨_, _, hreplies, rfl, rfl⟩, hcommitted, rfl⟩

/-- The outcomes of a batch that returned have the rows with which the engine answered its
statements; and if the engine answers everything, the batch returns them. -/
theorem runBatch_rows (database : String) (statements : List Statement)
    (session after : Session ω) :
    (∀ outcomes, runBatch database statements session = (.ok outcomes, after) →
      ∃ results, BatchReplies database statements results session after ∧
        List.Forall₂ Outcome.HasRowsOf results outcomes) ∧
    ∀ results, BatchReplies database statements results session after →
      ∃ outcomes, runBatch database statements session = (.ok outcomes, after) ∧
        List.Forall₂ Outcome.HasRowsOf results outcomes := by
  constructor
  · intro outcomes h
    obtain ⟨results, hreplies, rfl⟩ := runBatch_eq_ok_iff.mp h
    exact ⟨results, hreplies, hreplies.forall₂_outcomesOf⟩
  · intro results hreplies
    exact ⟨_, runBatch_eq_ok_iff.mpr ⟨results, hreplies, rfl⟩,
      hreplies.forall₂_outcomesOf⟩

open Telling

/-- A question for two columns that differ in the case of a letter alone. -/
def caseQuestion : Statement := ⟨"SELECT a, A FROM t", []⟩

/-- Its reply. -/
def caseReply : ResultSet where
  columns := ["a", "A"]
  rows := [[.int 1, .int 2]]

theorem runBatch_caseQuestion :
    runBatch "app.db" [caseQuestion] (telling (answering caseReply) []) =
      (.ok [{ rows := [⟨[("a", .int 1), ("A", .int 1)]⟩] }],
        telling [] (asked caseQuestion caseReply)) := by
  have hsimple : caseQuestion.IsSimple := isSimple_of_word "SELECT" "a, A FROM t" [] (by decide)
  have htold := runBatch_telling hsimple caseReply [] []
  exact htold

/-- The reply is told, and the batch returns. -/
theorem runBatch_rows_caseQuestion :
    ∃ results, BatchReplies "app.db" [caseQuestion] results (telling (answering caseReply) [])
        (telling [] (asked caseQuestion caseReply)) ∧
      List.Forall₂ Outcome.HasRowsOf results [{ rows := [⟨[("a", .int 1), ("A", .int 1)]⟩] }] :=
  (runBatch_rows "app.db" [caseQuestion] _ _).1 _ runBatch_caseQuestion

/-- Column names that are distinct, and a cell for each of them: yet the second column does
not have its own cell. -/
theorem runBatch_otherCase :
    caseReply.columns.Nodup ∧
      (∀ cells ∈ caseReply.rows, caseReply.columns.length = cells.length) ∧
      ∃ outcome after,
        runBatch "app.db" [caseQuestion] (telling (answering caseReply) []) =
          (.ok [outcome], after) ∧
        outcome.rows ≠ caseReply.rows.map fun cells => ⟨caseReply.columns.zip cells⟩ := by
  refine ⟨by decide, by decide, _, _, runBatch_caseQuestion, ?_⟩
  intro h
  cases h

end Action

end SqlAccess
