import SqlAccess.Cursor
import SqlAccess.Proofs.Action.Mirrors
import SqlAccess.Proofs.Engine.Window

/-!
# Slices of an answer

A slice of a list are some items behind some others.  Where the answer to one statement is
a slice of the answer to another one (`GivesSlice`), this carries over from the rows of the
engine to those of the outcome, from there through the transaction to the rows that the
database gives, and to what is made of them (`mirrors_get_slice`).
-/

namespace SqlAccess

variable {ω α : Type}

open SqlAccess.Action

/-- Some items behind some others, as far as there are any. -/
def slice (skipped count : Nat) (items : List α) : List α :=
  (items.drop skipped).take count

@[simp] theorem slice_nil (skipped count : Nat) : slice skipped count ([] : List α) = [] := by
  simp [slice]

theorem slice_map {β : Type} (f : α → β) (skipped count : Nat) (items : List α) :
    slice skipped count (items.map f) = (slice skipped count items).map f := by
  unfold slice
  rw [List.map_take, List.map_drop]

/-- The outcome with a slice of its rows. -/
def Outcome.slice (skipped count : Nat) (outcome : Outcome) : Outcome :=
  { outcome with rows := SqlAccess.slice skipped count outcome.rows }

theorem rowsOf_window (skipped count : Nat) (result : ResultSet) :
    Outcome.rowsOf (result.window (some count) skipped) =
      slice skipped count (Outcome.rowsOf result) := by
  unfold Outcome.rowsOf
  by_cases hcolumns : result.columns.isEmpty = true
  · rw [if_pos hcolumns, slice_nil]
    exact if_pos hcolumns
  · rw [if_neg hcolumns, slice_map]
    exact if_neg hcolumns

theorem ofResult_window (isInsertion : Bool) (skipped count : Nat) (result : ResultSet) :
    Outcome.ofResult isInsertion (result.window (some count) skipped) =
      (Outcome.ofResult isInsertion result).slice skipped count := by
  unfold Outcome.slice Outcome.ofResult
  rw [rowsOf_window]
  rfl

theorem isInsertion_of_select {table : String} {query : Query} {statement : Statement}
    (h : Statement.select table query = .ok statement) : statement.isInsertion = false := by
  obtain ⟨clauses, -, h⟩ := exists_of_bind_eq_ok h
  obtain rfl := Except.ok.inj h
  have hselect : Text.wordsOf "SELECT".toList = ["SELECT".toList] := by decide +kernel
  unfold Statement.isInsertion Text.words
  simp only [Query.parts, List.cons_append, List.nil_append, Text.wordsOf_intercalate,
    List.flatMap_cons, hselect, List.map_cons]
  decide +kernel

/-! ## From the engine to the database -/

variable [Engine ω]

/-- The answer to a statement is a slice of the answer to another one. -/
def GivesSlice (ω : Type) [Engine ω] (skipped count : Nat) (statement part : Statement) : Prop :=
  ∀ handle (world : ω), Engine.execute handle part world =
    ((Engine.execute handle statement world).1.map (ResultSet.window (some count) skipped),
      (Engine.execute handle statement world).2)

section

variable {statement part : Statement} {skipped count : Nat}

theorem mirrors_execute (h : GivesSlice ω skipped count statement part) (handle : Handle) :
    Mirrors (ResultSet.window (some count) skipped)
      (execute handle statement : Action ω ResultSet) (execute handle part) := by
  intro session result after hresult
  unfold execute request at hresult ⊢
  rw [h]
  rcases hrun : Engine.execute handle statement session.outside with ⟨fault | found, outside⟩
  · rw [hrun] at hresult
    cases hresult
  · rw [hrun] at hresult
    cases hresult
    rfl

theorem mirrors_runStatement (h : GivesSlice ω skipped count statement part)
    (hstatement : statement.isInsertion = false) (hpart : part.isInsertion = false)
    (handle : Handle) :
    Mirrors (Outcome.slice skipped count) (runStatement handle statement : Action ω Outcome)
      (runStatement handle part) := by
  unfold runStatement
  rw [hstatement, hpart]
  refine mirrors_bind (mirrors_execute h handle) fun result => ?_
  rw [ofResult_window]
  exact mirrors_pure _

theorem mirrors_runBatch (h : GivesSlice ω skipped count statement part)
    (hstatement : statement.isInsertion = false) (hpart : part.isInsertion = false)
    (database : String) :
    Mirrors (List.map (Outcome.slice skipped count))
      (runBatch database [statement] : Action ω (List Outcome)) (runBatch database [part]) := by
  have hrunFrom : ∀ handle, Mirrors (List.map (Outcome.slice skipped count))
      (runFrom handle 0 [statement] : Action ω (List Outcome)) (runFrom handle 0 [part]) := by
    intro handle
    refine mirrors_bind (mirrors_converting (mirrors_runStatement h hstatement hpart handle))
      fun outcome => ?_
    exact mirrors_pure [outcome]
  refine mirrors_bind (mirrors_refl (opened database)) fun handle => mirrors_converting ?_
  refine mirrors_bind (mirrors_refl (execute handle .beginning)) fun _ => mirrors_cleaning ?_
  refine mirrors_bind (hrunFrom handle) fun outcomes => ?_
  exact mirrors_bind (mirrors_refl (execute handle .commit)) fun _ => mirrors_pure outcomes

theorem mirrors_rows (h : GivesSlice ω skipped count statement part)
    (hstatement : statement.isInsertion = false) (hpart : part.isInsertion = false)
    (database : Database) :
    Mirrors (slice skipped count) (database.rows statement : Action ω (List Row))
      (database.rows part) := by
  have hexecute : Mirrors (Outcome.slice skipped count)
      (database.execute statement : Action ω Outcome) (database.execute part) := by
    refine mirrors_bind (mirrors_runBatch h hstatement hpart database.name) fun outcomes => ?_
    have hhead : (outcomes.map (Outcome.slice skipped count)).headD {} =
        (outcomes.headD {}).slice skipped count := by
      cases outcomes with
      | nil => simp [Outcome.slice]
      | cons outcome outcomes => rfl
    rw [hhead]
    exact mirrors_pure _
  exact mirrors_bind hexecute fun outcome => mirrors_pure outcome.rows

end

/-! ## The rows of a cursor -/

namespace Cursor

variable {cursor : Cursor α}

theorem forms_slice {skipped count : Nat} {rows : List Row} {values : List α}
    (h : cursor.forms rows = .ok values) :
    cursor.forms (slice skipped count rows) = .ok (slice skipped count values) := by
  have hform := mapM_eq_ok_iff.mp h
  exact mapM_eq_ok_iff.mpr (List.forall₂_take _ (List.forall₂_drop _ hform))

/-- What is left to do once the statement is there. -/
theorem get_of_statement {statement : Statement} (h : cursor.statement = .ok statement) :
    (cursor.get : Action ω (List α)) =
      (do cursor.forms (← cursor.database.rows statement)) := by
  unfold get
  rw [h]
  rfl

/-- Of two cursors that differ in the query, the one gives a slice of what the other one
gives if its statement does. -/
theorem mirrors_get_slice {query query' : Query} {statement part : Statement}
    {skipped count : Nat} (hstatement : Statement.select cursor.table query = .ok statement)
    (hpart : Statement.select cursor.table query' = .ok part)
    (h : GivesSlice ω skipped count statement part) :
    Mirrors (slice skipped count) ({ cursor with query } : Cursor α).get
      (({ cursor with query := query' } : Cursor α).get : Action ω (List α)) := by
  have hstatementOf : ({ cursor with query } : Cursor α).statement = .ok statement := hstatement
  have hpartOf : ({ cursor with query := query' } : Cursor α).statement = .ok part := hpart
  rw [get_of_statement hstatementOf, get_of_statement hpartOf]
  refine mirrors_bind (mirrors_rows h (isInsertion_of_select hstatement)
    (isInsertion_of_select hpart) cursor.database) fun rows => ?_
  exact mirrors_lift fun values hvalues => forms_slice hvalues

end Cursor

end SqlAccess
