import SqlAccess.Proofs.Cursor.Slice

/-!
# The first row

The statement for the first row of a cursor is that of the cursor with a limit of one.
Where the engine evaluates the query, its answer is one row of the answer to the
statement of the cursor itself (`givesRowBehind_of_evaluates`), and like every slice this
carries over to the rows and to what is made of them (`mirrors_get`).

Which row it is depends on the page.  It is the head of the rows if the cursor has a
limit or no page.  A page without a limit is no part of the cursor's own statement, but
beside the limit of one it is: then the first row is the one whose number is that of
the page (`first_of_get`).
-/

namespace SqlAccess

variable {ω : Type} [Engine ω]

open SqlAccess.Action

/-! ## One row of an answer -/

/-- One row behind some others, if there is one. -/
def oneBehind {α : Type} (skipped : Nat) (items : List α) : List α :=
  (items.drop skipped).take 1

/-- The answer to a statement is one row of the answer to another one. -/
def GivesRowBehind (ω : Type) [Engine ω] (skipped : Nat) (statement part : Statement) : Prop :=
  ∀ handle (world : ω), Engine.execute handle part world =
    ((Engine.execute handle statement world).1.map (ResultSet.window (some 1) skipped),
      (Engine.execute handle statement world).2)

/-! ## The statement for the first row -/

/-- The query with pages of one row. -/
def Query.single (query : Query) : Query :=
  { query with limit := some ⟨1, Nat.one_pos⟩ }

/-- The rows before the page of one row. -/
def Query.skipped (query : Query) : Nat :=
  query.single.offset.getD 0

section

variable {table : String} {query : Query} {statement part : Statement}

theorem skipped_eq (query : Query) :
    query.skipped = (query.page.map fun page => page.val - 1).getD 0 := by
  unfold Query.skipped Query.single Query.offset
  cases query.page with
  | none => rfl
  | some page => simp

theorem skipped_eq_zero (hpage : query.page = none) : query.skipped = 0 := by
  rw [skipped_eq, hpage]
  rfl

theorem limit_eq_none_or_skipped_eq_zero (h : query.offset = none) :
    query.limit = none ∨ query.skipped = 0 := by
  rcases hlimit : query.limit with - | limit
  · exact .inl rfl
  · rcases hpage : query.page with - | page
    · exact .inr (skipped_eq_zero hpage)
    · simp [Query.offset, hlimit, hpage] at h

theorem mapM_numeral_single (query : Query) :
    query.single.limit.mapM (fun limit => Query.numeral limit.val) = .ok (some "1") := by
  change (fun text => some text) <$> Query.numeral 1 = _
  rw [Query.numeral_one]
  rfl

theorem exists_select_single (hwritable : Number.isWritable query.skipped = true) :
    ∃ part, Statement.select table query.single = .ok part := by
  have hoffset : ∃ text, query.single.offset.mapM Query.numeral = .ok text := by
    unfold Query.skipped at hwritable
    cases hsingle : query.single.offset with
    | none => exact ⟨none, rfl⟩
    | some offset =>
        rw [hsingle] at hwritable
        have hnumeral : Query.numeral offset = .ok (toString offset) :=
          Query.numeral_eq_ok hwritable
        exact ⟨some (toString offset), by rw [Option.mapM_some, hnumeral]; rfl⟩
  obtain ⟨text, htext⟩ := hoffset
  unfold Statement.select Query.pageClauses
  rw [mapM_numeral_single, htext]
  exact ⟨_, rfl⟩

theorem givesRowBehind_of_evaluates {find : Handle → ω → Except Fault ResultSet × ω}
    (h : Evaluates table query find) (hoffset : query.offset = none)
    (hstatement : Statement.select table query = .ok statement)
    (hpart : Statement.select table query.single = .ok part) :
    GivesRowBehind ω query.skipped statement part := by
  intro handle world
  rw [h handle world _ _ part hpart, h handle world query.limit query.page statement hstatement,
    hoffset]
  cases (find handle world).1 with
  | error fault => rfl
  | ok result =>
      have hwindow := window_window (limit_eq_none_or_skipped_eq_zero hoffset) result
      exact congrArg (fun found => (Except.ok found, (find handle world).2)) hwindow.symm

end

namespace Cursor

/-! ## The rows of a cursor -/

section

variable {α : Type} {cursor : Cursor α}
  {find : Handle → ω → Except Fault ResultSet × ω} {session after : Session ω}
  {values : List α}

theorem mirrors_get (h : Evaluates cursor.table cursor.query find)
    (hoffset : cursor.query.offset = none)
    (hwritable : Number.isWritable cursor.query.skipped = true) :
    Mirrors (oneBehind cursor.query.skipped) (cursor.get : Action ω (List α))
      cursor.forFirst.get := by
  have hforFirst : cursor.forFirst = { cursor with query := cursor.query.single } := by
    unfold forFirst
    rw [hoffset]
    rfl
  obtain ⟨part, hpart⟩ : ∃ part, Statement.select cursor.table cursor.query.single = .ok part :=
    exists_select_single hwritable
  rw [hforFirst]
  cases hstatement : Statement.select cursor.table cursor.query with
  | error fault =>
      -- there are no rows to begin with
      intro session values after hvalues
      unfold get statement at hvalues
      rw [hstatement] at hvalues
      cases hvalues
  | ok statement =>
      exact mirrors_get_slice hstatement hpart
        (givesRowBehind_of_evaluates h hoffset hstatement hpart)

theorem first_of_offset_eq_none (h : Evaluates cursor.table cursor.query find)
    (hoffset : cursor.query.offset = none)
    (hwritable : Number.isWritable cursor.query.skipped = true)
    (hget : cursor.get session = (.ok values, after)) :
    cursor.first session = (.ok values[cursor.query.skipped]?, after) := by
  have hforFirst := mirrors_get h hoffset hwritable session values after hget
  have hhead : (oneBehind cursor.query.skipped values).head? = values[cursor.query.skipped]? := by
    simp [oneBehind, List.head?_take, List.head?_drop]
  unfold first
  rw [bind_apply, hforFirst, after_ok, pure_apply, hhead]

theorem first_of_offset_ne_none (hoffset : cursor.query.offset ≠ none)
    (hget : cursor.get session = (.ok values, after)) :
    cursor.first session = (.ok values.head?, after) := by
  -- with a limit and a page, the statement for the first row is that for all rows
  have hforFirst : cursor.forFirst = cursor := if_pos (Option.isSome_iff_ne_none.mpr hoffset)
  unfold first
  rw [hforFirst, bind_apply, hget, after_ok, pure_apply]

/-- Where the rows of a cursor can be read, so can its first row, and nothing else comes
of it.  If the cursor has a limit or no page, it is the head of the rows.  If it has a
page and no limit, it is the row with the number of the page. -/
theorem first_of_get (cursor : Cursor α) (h : Evaluates cursor.table cursor.query find)
    (hget : cursor.get session = (.ok values, after)) :
    (cursor.query.limit.isSome ∨ cursor.query.page = none →
      cursor.first session = (.ok values.head?, after)) ∧
    ∀ page, cursor.query.limit = none → cursor.query.page = some page →
      Number.isWritable (page.val - 1 : Nat) = true →
        cursor.first session = (.ok values[page.val - 1]?, after) := by
  constructor
  · intro hplain
    by_cases hoffset : cursor.query.offset = none
    · -- a limit comes without a page here, so there is none in either case
      have hskipped : cursor.query.skipped = 0 := by
        rcases limit_eq_none_or_skipped_eq_zero hoffset with hlimit | hskipped
        · exact skipped_eq_zero (hplain.resolve_left (by simp [hlimit]))
        · exact hskipped
      have hwritable : Number.isWritable cursor.query.skipped = true := by
        rw [hskipped]
        decide +kernel
      rw [first_of_offset_eq_none h hoffset hwritable hget, hskipped, List.head?_eq_getElem?]
    · exact first_of_offset_ne_none hoffset hget
  · intro page hlimit hpage hwritable
    have hoffset : cursor.query.offset = none := by
      unfold Query.offset
      rw [hlimit]
    have hskipped : cursor.query.skipped = page.val - 1 := by
      rw [skipped_eq, hpage]
      rfl
    rw [← hskipped] at hwritable ⊢
    exact first_of_offset_eq_none h hoffset hwritable hget

end

/-- A session with an open connection to a table of three names. -/
def staff : Session Roster where
  registry := { connections := [{ name := "staff", path := "staff", handle := some ⟨0⟩ }] }
  outside := ⟨["Ann", "Bob", "Cleo"]⟩

/-- The row of a name. -/
def nameRow (name : String) : Row :=
  ⟨[("name", .text name)]⟩

/-- The cursor for all rows of the table. -/
def everyone : Cursor Row :=
  Database.table ⟨"staff"⟩ "t"

/-- The cursor for the second page of the table, without a limit. -/
def secondPage : Cursor Row :=
  { everyone with query := { page := some ⟨2, by decide⟩ } }

/-- The first row of the second page is the second name, that of all rows the first. -/
theorem first_of_get_staff :
    secondPage.get staff = (.ok (["Ann", "Bob", "Cleo"].map nameRow), staff) ∧
      secondPage.first staff = (.ok (some (nameRow "Bob")), staff) ∧
      everyone.get staff = (.ok (["Ann", "Bob", "Cleo"].map nameRow), staff) ∧
      everyone.first staff = (.ok (some (nameRow "Ann")), staff) := by
  have hpage : secondPage.get staff = (.ok (["Ann", "Bob", "Cleo"].map nameRow), staff) := by rfl
  have hall : everyone.get staff = (.ok (["Ann", "Bob", "Cleo"].map nameRow), staff) := by rfl
  have hpageFirst := first_of_get secondPage (Roster.evaluates secondPage.query.page) hpage
  have hallFirst := first_of_get everyone (Roster.evaluates none) hall
  have hpageRow := hpageFirst.2 ⟨2, by decide⟩ rfl rfl (by decide +kernel)
  exact ⟨hpage, hpageRow, hall, hallFirst.1 (.inr rfl)⟩

/-- A page without a limit makes no difference to the rows, but it does to the first
row, which is not their head. -/
theorem first_ne_head :
    everyone.refineAll [.page (.int 2)] = .ok secondPage ∧
      Evaluates secondPage.table secondPage.query Roster.find ∧
      secondPage.get staff = everyone.get staff ∧
      secondPage.get staff = (.ok (["Ann", "Bob", "Cleo"].map nameRow), staff) ∧
      secondPage.first staff ≠ (.ok (["Ann", "Bob", "Cleo"].map nameRow).head?, staff) := by
  have hevaluates := Roster.evaluates secondPage.query.page
  have hget : secondPage.get staff = (.ok (["Ann", "Bob", "Cleo"].map nameRow), staff) := by rfl
  have hmirrors : Mirrors (oneBehind 1) (secondPage.get : Action Roster (List Row))
      secondPage.forFirst.get :=
    mirrors_get hevaluates rfl (by decide +kernel)
  have hfirst : secondPage.first staff = (.ok (some (nameRow "Bob")), staff) := by
    unfold first
    rw [bind_apply, hmirrors staff _ staff hget]
    rfl
  refine ⟨by rfl, hevaluates, by rfl, hget, fun h => ?_⟩
  have hrow := Option.some.inj (Except.ok.inj (Prod.mk.inj (hfirst.symm.trans h)).1)
  simp [nameRow] at hrow

end Cursor

end SqlAccess
