import SqlAccess.Proofs.Engine.Schema

/-!
# An engine for one declared table

An archive keeps tables in memory.  Of the statements it knows those about one declared
table, by their texts: the two questions, the creation, and the additions of the declared
columns.  Every other text is carried out by doing nothing.

If no two columns with different names have the same addition, these texts cannot be
taken for each other, and the archive understands the table (`Archive.understands`).
-/

namespace SqlAccess

/-- Tables in memory, with an engine that knows the statements about a table. -/
structure Archive (table : Table) where
  live : LiveSchema
  /-- What the transaction has made of the tables, if there is one. -/
  draft : Option LiveSchema := none
  submitted : List Statement := []

namespace Archive

variable {table : Table} {archive : Archive table} {live snapshot changed : LiveSchema}
  {result : ResultSet} {statement : Statement} {sql : String}

/-- Why a statement is refused. -/
def refusal : Fault := .reported (.engine .operational) "no such table or duplicate column name"

/-- The first declared column that a text adds. -/
def added? (table : Table) (sql : String) : Option Column :=
  table.columns.find? fun column => (column.addition table.name).toOption == some sql

/-- Carries a text out. -/
def carryOut (table : Table) (sql : String) (live : LiveSchema) :
    Option (ResultSet × LiveSchema) :=
  if sql = (Database.tableCount table.name).sql then
    some ({ columns := ["_count_"], rows := [[.int (live.count table.name)]] }, live)
  else if sql = (Database.columnQuestion table.name).sql then
    some ({ columns := ColumnInfo.fieldNames,
            rows := (live.columns table.name).map fun column =>
              [.int 0, .text column, .text "", .int 0, .null, .int 0] }, live)
  else if table.creation.toOption = some sql then
    some ({}, live.create ⟨table.name, table.columnNames⟩)
  else
    match added? table sql with
    | some column => (live.add table.name column.name).map fun changed => ({}, changed)
    | none => some ({}, live)

/-- Runs a statement in a transaction. -/
def runInside (draft : LiveSchema) (statement : Statement) (archive : Archive table) :
    Except Fault ResultSet × Archive table :=
  if statement.sql = Statement.commit.sql then
    (.ok {}, { archive with live := draft, draft := none })
  else if statement.sql = Statement.rollback.sql then (.ok {}, { archive with draft := none })
  else
    match carryOut table statement.sql draft with
    | some (result, changed) => (.ok result, { archive with draft := some changed })
    | none => (.error refusal, archive)

/-- Runs a statement outside of a transaction; only a beginning means anything there. -/
def runOutside (statement : Statement) (archive : Archive table) :
    Except Fault ResultSet × Archive table :=
  if statement.sql = Statement.beginning.sql then
    (.ok {}, { archive with draft := some archive.live })
  else (.ok {}, archive)

/-- Remembers a statement. -/
def note (archive : Archive table) (statement : Statement) : Archive table :=
  { archive with submitted := archive.submitted ++ [statement] }

instance : Engine (Archive table) where
  connect _ _ archive := (.ok ⟨0⟩, archive)
  execute _ statement archive :=
    match archive.draft with
    | some draft => (archive.note statement).runInside draft statement
    | none => (archive.note statement).runOutside statement
  close _ archive := (.ok (), archive)
  inTransaction _ archive := archive.draft.isSome

/-! ## The laws of transactions -/

/-- What a connection sees. -/
def state (archive : Archive table) : TransactionState LiveSchema :=
  match archive.draft with
  | some draft => .active archive.live draft
  | none => .idle archive.live

theorem of_state_eq_active (h : archive.state = .active snapshot live) :
    archive.live = snapshot ∧ archive.draft = some live := by
  unfold state at h
  split at h
  · rename_i draft hdraft
    cases h
    exact ⟨rfl, hdraft⟩
  · cases h

theorem of_state_eq_idle (h : archive.state = .idle live) :
    archive.live = live ∧ archive.draft = none := by
  unfold state at h
  split at h
  · cases h
  · rename_i hdraft
    cases h
    exact ⟨rfl, hdraft⟩

theorem execute_of_active {handle : Handle} (h : archive.state = .active snapshot live) :
    Engine.execute handle statement archive =
      (archive.note statement).runInside live statement := by
  simp only [Engine.execute, (of_state_eq_active h).2]

theorem execute_of_idle {handle : Handle} (h : archive.state = .idle live) :
    Engine.execute handle statement archive = (archive.note statement).runOutside statement := by
  simp only [Engine.execute, (of_state_eq_idle h).2]

theorem runs {handle : Handle} (h : archive.state = .active snapshot live)
    (hplain : statement.IsPlain) :
    Ends (fun result after => ∃ changed,
        carryOut table statement.sql live = some (result, changed) ∧
        after.state = .active snapshot changed)
      (fun _ after => after.state.FailedFrom snapshot live)
      (Engine.execute handle statement archive) := by
  obtain ⟨-, hcommit, hrollback⟩ := Statement.isPlain_iff.mp hplain
  obtain ⟨rfl, hdraft⟩ := of_state_eq_active h
  rw [execute_of_active h, runInside, if_neg hcommit, if_neg hrollback]
  split
  · rename_i result changed hcarried
    exact ⟨changed, hcarried, rfl⟩
  · refine .inl ?_
    simp only [state, note, hdraft]

theorem submitted_runInside (draft : LiveSchema) (statement : Statement)
    (archive : Archive table) :
    (archive.runInside draft statement).2.submitted = archive.submitted := by
  unfold runInside
  split
  · rfl
  · split
    · rfl
    · split <;> rfl

theorem submitted_execute (handle : Handle) (statement : Statement) (archive : Archive table) :
    (Engine.execute handle statement archive).2.submitted =
      archive.submitted ++ [statement] := by
  simp only [Engine.execute]
  cases archive.draft with
  | some draft => exact submitted_runInside draft statement _
  | none =>
      dsimp only [runOutside]
      split <;> rfl

/-! ## What texts are taken for -/

/-- What the texts that an archive knows begin with. -/
def knownStarts : List String :=
  ["SELECT COUNT(*) AS _count_ FROM ", Database.columnQuestionStart, Table.creationStart,
    Statement.alterationStart]

theorem startsWith_tableCount (name : String) :
    StartsWith "SELECT COUNT(*) AS _count_ FROM " (Database.tableCount name).sql :=
  show StartsWith _ (Database.tableCount "").sql by decide

theorem eq_ok_of_toOption {text : Except Fault String} (h : text.toOption = some sql) :
    text = .ok sql := by
  cases text with
  | error fault => cases h
  | ok found => exact congrArg Except.ok (Option.some.inj h)

theorem addition_of_added? {column : Column} (h : added? table sql = some column) :
    column ∈ table.columns ∧ column.addition table.name = .ok sql := by
  have hfound := List.find?_some h
  exact ⟨List.mem_of_find?_eq_some h, eq_ok_of_toOption (by simpa using hfound)⟩

/-- A text that begins like none of those is carried out by doing nothing. -/
theorem carryOut_of_start {start : String} (h : StartsWith start sql)
    (hdiffers : ∀ known ∈ knownStarts, ¬ StartsWith start known ∧ ¬ StartsWith known start) :
    carryOut table sql live = some ({}, live) := by
  simp only [knownStarts, List.forall_mem_cons, List.not_mem_nil, false_implies, implies_true,
    and_true] at hdiffers
  obtain ⟨hcount, hquestion, hcreation, haddition⟩ := hdiffers
  unfold carryOut
  rw [if_neg (h.ne (startsWith_tableCount _) hcount.1 hcount.2),
    if_neg (h.ne (startsWith_columnQuestion _) hquestion.1 hquestion.2), if_neg ?_]
  · split
    · rename_i column hcolumn
      exact absurd (Column.startsWith_addition (addition_of_added? hcolumn).2)
        (h.excludes haddition.1 haddition.2)
    · rfl
  · intro hcreated
    exact h.excludes hcreation.1 hcreation.2
      (Table.startsWith_creation (eq_ok_of_toOption hcreated))

theorem carryOut_tableCount :
    carryOut table (Database.tableCount table.name).sql live =
      some ({ columns := ["_count_"], rows := [[.int (live.count table.name)]] }, live) := by
  rw [carryOut, if_pos rfl]

theorem carryOut_columnQuestion :
    carryOut table (Database.columnQuestion table.name).sql live =
      some ({ columns := ColumnInfo.fieldNames,
              rows := (live.columns table.name).map fun column =>
                [.int 0, .text column, .text "", .int 0, .null, .int 0] }, live) := by
  have hcount := (startsWith_columnQuestion table.name).ne (startsWith_tableCount table.name)
    (by decide) (by decide)
  rw [carryOut, if_neg hcount, if_pos rfl]

theorem carryOut_creation (h : table.creation = .ok sql) :
    carryOut table sql live = some ({}, live.create ⟨table.name, table.columnNames⟩) := by
  have hstart := Table.startsWith_creation h
  have hcreated : table.creation.toOption = some sql := by
    rw [h]
    rfl
  rw [carryOut, if_neg (hstart.ne (startsWith_tableCount _) (by decide) (by decide)),
    if_neg (hstart.ne (startsWith_columnQuestion _) (by decide) (by decide)), if_pos hcreated]

/-- Where columns with the same addition have the same name, it is the name that is added. -/
theorem carryOut_addition {column : Column} (hcolumn : column ∈ table.columns)
    (h : column.addition table.name = .ok sql)
    (hnames : ∀ other ∈ table.columns, other.addition table.name = .ok sql →
      other.name = column.name) :
    carryOut table sql live =
      (live.add table.name column.name).map fun changed => ({}, changed) := by
  have hstart := Column.startsWith_addition h
  have hadded : ∃ other, added? table sql = some other := by
    refine Option.isSome_iff_exists.mp (List.find?_isSome.mpr ⟨column, hcolumn, ?_⟩)
    rw [h]
    exact beq_self_eq_true _
  obtain ⟨other, hother⟩ := hadded
  obtain ⟨hmem, haddition⟩ := addition_of_added? hother
  have hcreation : ¬ table.creation.toOption = some sql := fun hcreated =>
    hstart.excludes (by decide) (by decide)
      (Table.startsWith_creation (eq_ok_of_toOption hcreated))
  rw [carryOut, if_neg (hstart.ne (startsWith_tableCount _) (by decide) (by decide)),
    if_neg (hstart.ne (startsWith_columnQuestion _) (by decide) (by decide)),
    if_neg hcreation, hother, ← hnames other hmem haddition]

/-! ## The laws of the schema -/

/-- An archive is an engine with a schema. -/
def schema (table : Table) : SchemaEngine (Archive table) LiveSchema where
  state _ := state
  controls := Statement.Controls
  effect statement live result changed := carryOut table statement.sql live = some (result, changed)
  inTransaction_eq _ archive := by
    simp only [Engine.inTransaction, state]
    cases archive.draft <;> rfl
  begins {_ archive _} h := by
    rw [execute_of_idle h, runOutside, if_pos rfl, ← (of_state_eq_idle h).1]
    rfl
  runs := runs
  commits h := by
    rw [execute_of_active h, runInside, if_pos rfl]
    rfl
  rollsBack h := by
    rw [execute_of_active h, runInside, if_neg (by decide), if_pos rfl,
      ← (of_state_eq_active h).1]
    rfl
  not_controls_rowMarker := isPlain_rowMarker
  eq_of_effect_rowMarker h := by
    have hstart : StartsWith "REPLACE INTO " Statement.rowMarker.sql := by decide +kernel
    rw [carryOut_of_start hstart (by decide)] at h
    cases h
    rfl
  live := id
  submitted := Archive.submitted
  submitted_execute := submitted_execute
  submitted_connect _ _ _ := rfl
  submitted_close _ _ := rfl
  not_controls_of_opens := isPlain_of_opens

theorem understands (hnames : ∀ first ∈ table.columns, ∀ second ∈ table.columns,
      (first.addition table.name).toOption = (second.addition table.name).toOption →
        first.name = second.name) :
    (schema table).Understands table where
  counts {live result changed} h := by
    change carryOut table (Database.tableCount table.name).sql live = some (result, changed) at h
    rw [carryOut_tableCount] at h
    cases h
    exact ⟨rfl, rfl, rfl⟩
  lists {live result changed} h := by
    change carryOut table (Database.columnQuestion table.name).sql live =
      some (result, changed) at h
    rw [carryOut_columnQuestion] at h
    cases h
    refine ⟨rfl, rfl, List.forall₂_map_right_iff.mpr (List.forall₂_same.mpr fun column _ => ?_)⟩
    exact .intro 0 "" 0 none 0
  creates {sql live result changed} hcreation h := by
    change carryOut table sql live = some (result, changed) at h
    rw [carryOut_creation hcreation] at h
    cases h
    rfl
  adds {column sql live result changed} hcolumn haddition h := by
    change carryOut table sql live = some (result, changed) at h
    rw [carryOut_addition hcolumn haddition fun other hother hsame =>
      hnames other hother column hcolumn (by rw [hsame, haddition])] at h
    obtain ⟨added, hadded, h⟩ := Option.map_eq_some_iff.mp h
    cases h
    exact hadded
  indexes {sql live result changed} hindex h := by
    change carryOut table sql live = some (result, changed) at h
    obtain ⟨start, hmem, hstart⟩ := hindex.exists_start
    have hdiffers : ∀ start ∈ Index.starts, ∀ known ∈ knownStarts,
        ¬ StartsWith start known ∧ ¬ StartsWith known start := by decide
    rw [carryOut_of_start hstart (hdiffers start hmem)] at h
    cases h
    rfl

end Archive

end SqlAccess
