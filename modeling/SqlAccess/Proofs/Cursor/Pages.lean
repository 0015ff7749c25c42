import SqlAccess.Proofs.Cursor.First

/-!
# Pages

The statement for a page is that for all rows, with a limit and an offset behind it, as long
as both can be written (`select_onPage`).  Where the engine evaluates these two, a page is a
slice of all rows, and asking for it has the same effects as asking for all of them
(`mirrors_onPage`).

So if a cursor gives the same rows each time it is asked, its pages, asked for one after the
other, are the slices of these rows (`exists_pages`).  Put together they are all the rows,
those before a page with rows are full, and those behind the last row are empty
(`pages_partition`).

A page whose offset has too many digits is never asked for: there is no statement for it,
although a page that far behind the last row should be empty (`onPage_tooFar`).
-/

namespace SqlAccess

variable {ω α : Type} [Engine ω]

open SqlAccess.Action

/-! ## Slices of a list -/

theorem length_slice (skipped count : Nat) (items : List α) :
    (slice skipped count items).length = min count (items.length - skipped) := by
  rw [slice, List.length_take, List.length_drop]

/-- A slice and the one that begins where it ends make one slice. -/
theorem slice_append_slice (skipped count count' : Nat) (items : List α) :
    slice skipped count items ++ slice (skipped + count) count' items =
      slice skipped (count + count') items := by
  rw [slice, slice, slice, List.take_add, List.drop_drop]

/-- Slices of one size that follow each other; as many stand before them as is said. -/
def slices (size before count : Nat) (items : List α) : List (List α) :=
  (List.range' before count).map fun number => slice (size * number) size items

theorem slices_succ (size before count : Nat) (items : List α) :
    slices size before (count + 1) items =
      slice (size * before) size items :: slices size (before + 1) count items := rfl

theorem flatten_slices (size before count : Nat) (items : List α) :
    (slices size before count items).flatten = slice (size * before) (size * count) items := by
  induction count generalizing before with
  | zero => simp [slices, slice]
  | succ count ih =>
      rw [slices_succ, List.flatten_cons, ih, Nat.mul_add, Nat.mul_one, slice_append_slice,
        Nat.mul_add, Nat.mul_one, Nat.add_comm size]

theorem getElem?_slices {size count number : Nat} (h : number < count) (items : List α) :
    (slices size 0 count items)[number]? = some (slice (size * number) size items) := by
  simp [slices, h]

/-! ## The statement for a page -/

/-- The query for all rows. -/
def Query.whole (query : Query) : Query :=
  { query with limit := none, page := none }

/-- The query for the page that stands behind so many others. -/
def Query.onPage (query : Query) (limit : Positive) (before : Nat) : Query :=
  { query with limit := some limit, page := some ⟨before + 1, Nat.succ_pos before⟩ }

/-- The limit and the offset of a page can be written. -/
structure IsWritten (limit : Positive) (before : Nat) : Prop where
  size : Number.isWritable limit.val = true
  offset : Number.isWritable (limit.val * before : Nat) = true

/-- The statement with a limit and an offset behind it. -/
def Statement.within (statement : Statement) (limit offset : Nat) : Statement :=
  { statement with sql := s!"{statement.sql} LIMIT {limit} OFFSET {offset}" }

/-- The engine evaluates limits and offsets behind a statement: of the rows of its answer it
drops as many as the offset says, and of the others it keeps at most as many as the limit
says. -/
def EvaluatesWindows (ω : Type) [Engine ω] (statement : Statement) : Prop :=
  ∀ limit offset, GivesSlice ω offset limit statement (statement.within limit offset)

section

variable {table : String} {query : Query} {limit : Positive} {before : Nat}
  {statement : Statement}

theorem within_intercalate {parts : List String} (h : parts ≠ []) (params : List Value)
    (limit offset : Nat) :
    (⟨" ".intercalate parts, params⟩ : Statement).within limit offset =
      ⟨" ".intercalate (parts ++ [s!"LIMIT {limit}", s!"OFFSET {offset}"]), params⟩ := by
  rw [String.intercalate_append_of_ne_nil h (List.cons_ne_nil _ _),
    String.intercalate_cons_cons, String.intercalate_singleton]
  simp [Statement.within, ← String.toList_inj, toString]

theorem select_whole (table : String) (query : Query) :
    Statement.select table query.whole =
      .ok ⟨" ".intercalate (query.parts table), query.params⟩ := by
  have hpage : query.whole.pageClauses = .ok [] := rfl
  unfold Statement.select
  rw [hpage]
  change Except.ok (⟨" ".intercalate (query.parts table ++ []), query.params⟩ : Statement) = _
  rw [List.append_nil]

theorem pageClauses_onPage (query : Query) (limit : Positive) (before : Nat) :
    (query.onPage limit before).pageClauses = (do
      let size ← Query.numeral limit.val
      let offset ← Query.numeral (limit.val * before)
      return [s!"LIMIT {size}", s!"OFFSET {offset}"]) := by
  have hlimit : (query.onPage limit before).limit = some limit := rfl
  have hoffset : (query.onPage limit before).offset = some (limit.val * before) := rfl
  unfold Query.pageClauses
  rw [hlimit, hoffset, Option.mapM_some, Option.mapM_some]
  rcases Query.numeral limit.val with fault | size
  · rfl
  · rcases Query.numeral (limit.val * before) with fault | offset <;> rfl

/-- The statement for a page is that for all rows, with its limit and its offset. -/
theorem select_onPage (hwhole : Statement.select table query.whole = .ok statement)
    (h : IsWritten limit before) :
    Statement.select table (query.onPage limit before) =
      .ok (statement.within limit.val (limit.val * before)) := by
  rw [select_whole] at hwhole
  obtain rfl := Except.ok.inj hwhole
  have hparts : query.parts table ≠ [] := by simp [Query.parts]
  unfold Statement.select
  rw [pageClauses_onPage, Query.numeral_eq_ok h.size, Query.numeral_eq_ok h.offset, within_intercalate hparts]
  rfl

/-- A page with a number of too many digits has no statement. -/
theorem select_onPage_of_not_isWritten (h : ¬ IsWritten limit before) :
    Statement.select table (query.onPage limit before) = .error (.misfit .longInteger) := by
  unfold Statement.select
  rw [pageClauses_onPage]
  cases hsize : Number.isWritable limit.val with
  | true =>
      have hoffset : Number.isWritable (limit.val * before : Nat) = false :=
        Bool.eq_false_iff.mpr fun hoffset => h ⟨hsize, hoffset⟩
      rw [Query.numeral_eq_ok hsize, Query.numeral_eq_error hoffset]
      rfl
  | false =>
      rw [Query.numeral_eq_error hsize]
      rfl

end

/-! ## Pages of a cursor -/

namespace Cursor

/-- The cursor for all rows. -/
def whole (cursor : Cursor α) : Cursor α :=
  { cursor with query := cursor.query.whole }

/-- The cursor for the page that stands behind so many others. -/
def onPage (cursor : Cursor α) (limit : Positive) (before : Nat) : Cursor α :=
  { cursor with query := cursor.query.onPage limit before }

/-- Asks for pages one after the other; as many stand before them as is said. -/
def pages (cursor : Cursor α) (limit : Positive) (before : Nat) : Nat → Action ω (List (List α))
  | 0 => pure []
  | count + 1 => do
    let page ← (cursor.onPage limit before).get
    let others ← cursor.pages limit (before + 1) count
    return page :: others

variable {cursor : Cursor α} {limit : Positive} {before : Nat} {statement : Statement}

/-- A page is a slice of all rows, and asking for it leaves the same session. -/
theorem mirrors_onPage (hwhole : cursor.whole.statement = .ok statement)
    (hevaluates : EvaluatesWindows ω statement) (h : IsWritten limit before) :
    Mirrors (slice (limit.val * before) limit.val) (cursor.whole.get : Action ω (List α))
      (cursor.onPage limit before).get :=
  mirrors_get_slice hwhole (select_onPage hwhole h) (hevaluates limit.val (limit.val * before))

theorem get_of_not_isWritten (h : ¬ IsWritten limit before) (session : Session ω) :
    (cursor.onPage limit before).get session = (.error (.misfit .longInteger), session) := by
  have hstatement : (cursor.onPage limit before).statement = .error (.misfit .longInteger) :=
    select_onPage_of_not_isWritten h
  unfold get
  rw [hstatement]
  rfl

/-- The cursor gives these values as many times in a row. -/
def Gives (cursor : Cursor α) (values : List α) : Nat → Session ω → Prop
  | 0, _ => True
  | count + 1, session =>
    ∃ after, cursor.get session = (.ok values, after) ∧ Gives cursor values count after

/-- The pages of a cursor that gives the same values each time are slices of these. -/
theorem exists_pages {values : List α} {count : Nat} {session : Session ω}
    (hwhole : cursor.whole.statement = .ok statement)
    (hevaluates : EvaluatesWindows ω statement)
    (hwritten : ∀ number, before ≤ number → number < before + count → IsWritten limit number)
    (hgives : cursor.whole.Gives values count session) :
    ∃ after, cursor.pages limit before count session =
      (.ok (slices limit.val before count values), after) := by
  induction count generalizing before session with
  | zero => exact ⟨session, rfl⟩
  | succ count ih =>
      obtain ⟨between, hget, hothers⟩ := hgives
      have hpage := mirrors_onPage hwhole hevaluates
        (hwritten before (Nat.le_refl _) (by omega)) session values between hget
      obtain ⟨after, hpages⟩ := @ih (before + 1) between
        (fun number hle hlt => hwritten number (by omega) (by omega)) hothers
      exact ⟨after, bind_apply_of_ok hpage (bind_apply_of_ok hpages rfl)⟩

/-- A page is asked for by the statement for all rows with its limit and its offset, and not
at all if these cannot be written.  Where the engine evaluates limits and offsets, the pages of
a cursor that gives the same values each time, asked for one after the other, are these values
in order: put together they are all of them as soon as there are enough pages, a page before
one with values is full, and a page behind the last value is empty. -/
theorem pages_partition (cursor : Cursor α) (limit : Positive)
    (hwhole : cursor.whole.statement = .ok statement)
    (hevaluates : EvaluatesWindows ω statement) :
    (∀ before, IsWritten limit before → (cursor.onPage limit before).statement =
      .ok (statement.within limit.val (limit.val * before))) ∧
    (∀ before (session : Session ω), ¬ IsWritten limit before →
      (cursor.onPage limit before).get session = (.error (.misfit .longInteger), session)) ∧
    ∀ values count (session : Session ω), (∀ number < count, IsWritten limit number) →
      cursor.whole.Gives values count session →
      ∃ pages after, cursor.pages limit 0 count session = (.ok pages, after) ∧
        pages.length = count ∧
        (values.length ≤ count * limit.val → pages.flatten = values) ∧
        (∀ (first later : Nat) (page : List α), first < later → pages[later]? = some page →
          page ≠ [] → pages[first]?.map List.length = some limit.val) ∧
        ∀ number < count, values.length ≤ number * limit.val → pages[number]? = some [] := by
  refine ⟨fun before => select_onPage hwhole,
    fun before session => (get_of_not_isWritten · session), ?_⟩
  intro values count session hwritten hgives
  obtain ⟨after, hpages⟩ : ∃ after, cursor.pages limit 0 count session =
      (.ok (slices limit.val 0 count values), after) :=
    exists_pages hwhole hevaluates (fun number _ hlt => hwritten number (by omega)) hgives
  have hlength : (slices limit.val 0 count values).length = count := by simp [slices]
  refine ⟨slices limit.val 0 count values, after, hpages, hlength, ?_, ?_, ?_⟩
  · intro henough
    rw [flatten_slices, slice, Nat.mul_zero, List.drop_zero, Nat.mul_comm]
    exact List.take_of_length_le henough
  · intro first later page hlt hpage hne
    have hcount : later < count := hlength ▸ (List.getElem?_eq_some_iff.mp hpage).1
    rw [getElem?_slices hcount] at hpage
    -- the later page has a value, so there are values enough for all of the former one
    have hrest : 0 < values.length - limit.val * later := by
      have hpos := List.length_pos_iff.mpr (Option.some.inj hpage ▸ hne)
      rw [length_slice] at hpos
      omega
    have hbefore : limit.val * first + limit.val ≤ limit.val * later := by
      rw [← Nat.mul_succ]
      exact Nat.mul_le_mul_left _ hlt
    rw [getElem?_slices (hlt.trans hcount), Option.map_some, length_slice]
    exact congrArg some (Nat.min_eq_left (by omega))
  · intro number hnumber hbehind
    rw [getElem?_slices hnumber, slice, List.drop_eq_nil_of_le (by rwa [Nat.mul_comm]),
      List.take_nil]

/-! ## The pages of a table of names -/

/-- The statement for all names of the table. -/
def allNames : Statement :=
  ⟨"SELECT * FROM t", []⟩

theorem evaluatesWindows_roster : EvaluatesWindows Roster allNames := by
  intro limit offset handle roster
  have hsql : "SELECT * FROM t" = " ".intercalate (({} : Query).parts "t") := by decide +kernel
  have hwithin : allNames.within limit offset = ⟨" ".intercalate
      (({} : Query).parts "t" ++ [s!"LIMIT {limit}", s!"OFFSET {offset}"]), []⟩ := by
    rw [allNames, hsql]
    exact within_intercalate (List.cons_ne_nil _ _) [] limit offset
  rw [hwithin]
  change ((Roster.find handle roster).1.map (Roster.windowOf ((Text.wordsOf (" ".intercalate
    (({} : Query).parts "t" ++ [s!"LIMIT {limit}", s!"OFFSET {offset}"])).toList).drop 4)),
      roster) = _
  rw [Roster.drop_wordsOf, Roster.windowOf_limit_offset]
  rfl

theorem gives_everyone (count : Nat) :
    everyone.whole.Gives (["Ann", "Bob", "Cleo"].map nameRow) count staff := by
  induction count with
  | zero => trivial
  | succ count ih => exact ⟨staff, rfl, ih⟩

/-- Three names on pages of two: a full page, the rest, and a page behind the last name. -/
theorem pages_partition_everyone :
    everyone.whole.statement = .ok allNames ∧ EvaluatesWindows Roster allNames ∧
      (∀ number < 3, IsWritten ⟨2, by decide⟩ number) ∧
      everyone.whole.Gives (["Ann", "Bob", "Cleo"].map nameRow) 3 staff ∧
      ∃ pages after, everyone.pages ⟨2, by decide⟩ 0 3 staff = (.ok pages, after) ∧
        pages = [["Ann", "Bob"].map nameRow, ["Cleo"].map nameRow, []] ∧
        pages.flatten = ["Ann", "Bob", "Cleo"].map nameRow ∧
        pages[0]?.map List.length = some 2 ∧ pages[2]? = some [] := by
  have hwhole : everyone.whole.statement = .ok allNames := by rfl
  have hoffset : ∀ number < 3, Number.isWritable (2 * number : Nat) = true := by decide +kernel
  have hwritten : ∀ number < 3, IsWritten ⟨2, by decide⟩ number := fun number hnumber =>
    ⟨by decide +kernel, hoffset number hnumber⟩
  have hslices : slices 2 0 3 (["Ann", "Bob", "Cleo"].map nameRow) =
      [["Ann", "Bob"].map nameRow, ["Cleo"].map nameRow, []] := by rfl
  obtain ⟨between, hpages⟩ := exists_pages hwhole evaluatesWindows_roster
    (fun number _ hlt => hwritten number (by omega)) (gives_everyone 3)
  obtain ⟨pages, after, hrun, -, hall, hfull, hempty⟩ :=
    (pages_partition everyone ⟨2, by decide⟩ hwhole evaluatesWindows_roster).2.2 _ 3 staff hwritten
      (gives_everyone 3)
  obtain ⟨hsame, -⟩ := Prod.mk.inj (hpages.symm.trans hrun)
  obtain rfl := Except.ok.inj hsame
  exact ⟨hwhole, evaluatesWindows_roster, hwritten, gives_everyone 3, _, after, hrun, hslices,
    hall (by decide), hfull 0 1 _ (by decide) rfl (List.cons_ne_nil _ _),
    hempty 2 (by decide) (by decide)⟩

/-- A page that far behind the last name that its offset has too many digits is not empty:
there is no statement for it, and asking for it fails. -/
theorem onPage_tooFar :
    let limit : Positive := ⟨Number.tenTo 2200, Number.tenTo_pos 2200⟩
    let names := ["Ann", "Bob", "Cleo"].map nameRow
    everyone.whole.statement = .ok allNames ∧ EvaluatesWindows Roster allNames ∧
      (∀ count, everyone.whole.Gives names count staff) ∧
      names.length ≤ Number.tenTo 2200 * limit.val ∧
      (everyone.onPage limit (Number.tenTo 2200)).get staff =
        (.error (.misfit .longInteger), staff) ∧
      ∀ after, (everyone.onPage limit (Number.tenTo 2200)).get staff ≠ (.ok [], after) := by
  have hunwritten : ¬ IsWritten ⟨Number.tenTo 2200, Number.tenTo_pos 2200⟩
      (Number.tenTo 2200) := by
    rintro ⟨-, hoffset⟩
    revert hoffset
    decide +kernel
  have hget : (everyone.onPage ⟨Number.tenTo 2200, Number.tenTo_pos 2200⟩
      (Number.tenTo 2200)).get staff = (.error (.misfit .longInteger), staff) :=
    get_of_not_isWritten hunwritten staff
  refine ⟨rfl, evaluatesWindows_roster, gives_everyone, by decide +kernel, hget, fun after h => ?_⟩
  rw [hget] at h
  cases (Prod.mk.inj h).1

end Cursor

end SqlAccess
