import SqlAccess.Proofs.Action.Ends
import SqlAccess.Proofs.Row.Lookup
import SqlAccess.Proofs.Schema.Rendering
import SqlAccess.Proofs.Text.Segment

/-!
# What a copy is made from

The structure of a table is copied from what the engine tells of it: its columns, the
columns of its foreign keys, and its indexes.  Each row of an answer tells of one of them
(`ColumnInfo.IsToldBy`, `ForeignKeyInfo.IsToldBy`), and is read as just this one.

A survey is all that was told of a table, one question after the other
(`Database.Surveys`), and a copy is made from it (`Database.duplicate_eq`).  It is created by
one batch, and the first statement of this batch creates the table with the definitions of the
survey.  Only an index without columns is in the way of this, and then nothing is submitted
(`copies_of_surveys`).
-/

namespace SqlAccess

open SqlAccess.Text (listing)

/-! ## Rows that tell of parts -/

/-- The value that tells of a text that may be absent. -/
def Value.ofText? (text : Option String) : Value :=
  (text.map .text).getD .null

/-- A row tells of a column.  Its type is absent if it has none. -/
structure ColumnInfo.IsToldBy (column : ColumnInfo) (row : Row) : Prop where
  name : row.get? "name" = some (.text column.name)
  type : row.get? "type" = some (.text column.type) ∨
    row.get? "type" = some .null ∧ column.type = ""
  nullable : ∃ notNull, row.get? "notnull" = some notNull ∧ column.nullable = !notNull.truth
  default : row.get? "dflt_value" = some (.ofText? column.default)
  keyPosition : row.get? "pk" = some (.int column.keyPosition)

theorem ColumnInfo.IsToldBy.ofRow_eq {column : ColumnInfo} {row : Row} (h : column.IsToldBy row) :
    ofRow row = .ok column := by
  obtain ⟨name, type, nullable, default, keyPosition⟩ := column
  obtain ⟨hname, htype, ⟨notNull, hnotNull, rfl⟩, hdefault, hkey⟩ := h
  have hsome : ∃ told, row.get? "type" = some told ∧
      (if told.truth then told else .text "") = .text type := by
    rcases htype with htext | ⟨hnull, rfl⟩
    · refine ⟨_, htext, ?_⟩
      by_cases hempty : type = "" <;> simp [Value.truth, hempty]
    · exact ⟨_, hnull, rfl⟩
  obtain ⟨told, htold, hread⟩ := hsome
  unfold ofRow
  rw [Row.lookup_of_get? hname, Row.lookup_of_get? htold, Row.lookup_of_get? hnotNull,
    Row.lookup_of_get? hdefault, Row.lookup_of_get? hkey]
  change (reader (.object [("name", .text name), ("type", if told.truth then told else .text ""),
    ("nullable", .bool !notNull.truth), ("default", .ofText? default),
    ("primary_key", .int keyPosition)])).toExcept = _
  rw [hread]
  cases default <;> rfl

theorem ColumnInfo.ofRows_eq {columns : List ColumnInfo} {rows : List Row}
    (h : List.Forall₂ IsToldBy columns rows) : ofRows rows = .ok columns :=
  mapM_eq_ok_iff.mpr (h.flip.imp fun _ _ htold => htold.ofRow_eq)

/-- A row tells of a column of a foreign key. -/
structure ForeignKeyInfo.IsToldBy (part : ForeignKeyInfo) (row : Row) : Prop where
  id : row.get? "id" = some (.int part.id)
  position : row.get? "seq" = some (.int part.position)
  table : row.get? "table" = some (.text part.table)
  fromColumn : row.get? "from" = some (.text part.fromColumn)
  toColumn : row.get? "to" = some (.ofText? part.toColumn)
  onUpdate : row.get? "on_update" = some (.text part.onUpdate)
  onDelete : row.get? "on_delete" = some (.text part.onDelete)

theorem ForeignKeyInfo.IsToldBy.ofRow_eq {part : ForeignKeyInfo} {row : Row}
    (h : part.IsToldBy row) : ofRow row = .ok part := by
  obtain ⟨id, position, table, fromColumn, toColumn, onUpdate, onDelete⟩ := part
  unfold ofRow
  rw [Row.lookup_of_get? h.id, Row.lookup_of_get? h.position, Row.lookup_of_get? h.table,
    Row.lookup_of_get? h.fromColumn, Row.lookup_of_get? h.toColumn, Row.lookup_of_get? h.onUpdate,
    Row.lookup_of_get? h.onDelete]
  cases toColumn <;> rfl

theorem ForeignKeyInfo.ofRows_eq {parts : List ForeignKeyInfo} {rows : List Row}
    (h : List.Forall₂ IsToldBy parts rows) : ofRows rows = .ok parts :=
  mapM_eq_ok_iff.mpr (h.flip.imp fun _ _ htold => htold.ofRow_eq)

/-! ## Surveys -/

/-- What is told of a table. -/
structure Survey where
  columns : List ColumnInfo
  foreignKeys : List ForeignKeyInfo
  indexes : List IndexInfo

/-- The definitions of a copy. -/
def Survey.definitions (survey : Survey) : List String :=
  ColumnInfo.copyDefinitions survey.columns ++ ForeignKeyInfo.copyDefinitions survey.foreignKeys

/-- The statement that creates a copy with some definitions. -/
def copyCreation (target : String) (definitions : List String) : Statement :=
  ⟨s!"CREATE TABLE IF NOT EXISTS {target} ({listing definitions})", []⟩

theorem Index.columns_eq_nil_of_creation {index : Index} {fault : Fault}
    (h : index.creation = .error fault) :
    index.columns = [] ∧ fault = .indexWithoutColumns index.name index.table := by
  unfold creation at h
  split at h
  · rename_i hempty
    exact ⟨List.isEmpty_iff.mp hempty, (Except.error.inj h).symm⟩
  · cases h

/-- The first statement of a copy creates the table, and the others its indexes. -/
theorem exists_copyStatements_eq {target : String} {survey : Survey} {statements : List Statement}
    (h : copyStatements target survey.columns survey.foreignKeys survey.indexes =
      .ok statements) :
    ∃ copies, statements = copyCreation target survey.definitions :: copies := by
  obtain ⟨creations, -, hstatements⟩ := exists_of_bind_eq_ok h
  exact ⟨creations.map fun sql => ⟨sql, []⟩, (Except.ok.inj hstatements).symm⟩

theorem exists_of_copyStatements_eq_error {target : String} {survey : Survey} {fault : Fault}
    (h : copyStatements target survey.columns survey.foreignKeys survey.indexes =
      .error fault) :
    ∃ index ∈ survey.indexes, index.origin = "c" ∧ index.columns = [] ∧
      fault = .indexWithoutColumns s!"{index.name}_{target}" target := by
  unfold copyStatements at h
  dsimp only at h
  cases hcreations : ((survey.indexes.filter fun index => index.origin = "c").map
      (IndexInfo.copy target)).mapM Index.creation with
  | ok creations =>
      rw [hcreations] at h
      cases h
  | error other =>
      rw [hcreations] at h
      obtain rfl := Except.error.inj h
      obtain ⟨copy, hcopy, hcreation⟩ := exists_of_mapM_eq_error hcreations
      obtain ⟨index, hindex, rfl⟩ := List.mem_map.mp hcopy
      obtain ⟨hmem, horigin⟩ := List.mem_filter.mp hindex
      obtain ⟨hnone, hfault⟩ := Index.columns_eq_nil_of_creation hcreation
      exact ⟨index, hmem, of_decide_eq_true horigin, hnone, hfault⟩

namespace Database

variable {ω : Type} [Engine ω] {database : Database} {source target : String}
  {session last : Session ω} {survey : Survey}

/-- The question for the foreign keys of a table. -/
def foreignKeyQuestion (table : String) : Statement :=
  ⟨s!"PRAGMA foreign_key_list({table})", []⟩

/-- Asks the engine for all that it tells of a table. -/
def readSurvey (database : Database) (table : String) : Action ω Survey := do
  if !(← database.hasTable table) then throw (.noSource table)
  let columns ← database.columnInfos table
  let foreignKeys ← database.foreignKeyInfos table
  let indexes ← database.indexInfos table
  return { columns, foreignKeys, indexes }

/-- The engine tells of a table that exists, one question after the other. -/
inductive Surveys (database : Database) (table : String) (session : Session ω) (survey : Survey)
    (last : Session ω) : Prop where
  | intro {found first second : Session ω} {columnRows keyRows : List Row} :
      database.hasTable table session = (.ok true, found) →
      database.rows (columnQuestion table) found = (.ok columnRows, first) →
      List.Forall₂ ColumnInfo.IsToldBy survey.columns columnRows →
      database.rows (foreignKeyQuestion table) first = (.ok keyRows, second) →
      List.Forall₂ ForeignKeyInfo.IsToldBy survey.foreignKeys keyRows →
      database.indexInfos table second = (.ok survey.indexes, last) →
      Surveys database table session survey last

/-- What becomes of a copy with some definitions.  It is created by one batch, which begins
with the creation of the table.  If an index that would be copied has no column, nothing is
submitted at all. -/
inductive Copies (database : Database) (source target : String) (session : Session ω)
    (indexes : List IndexInfo) (definitions : List String) (last : Session ω) : Prop where
  | created {copies : List Statement} :
      (∀ index ∈ indexes, index.origin = "c" → index.columns ≠ []) →
      database.duplicate source target session =
        Action.after (Action.runBatch database.name
          (copyCreation target definitions :: copies) last) (fun _ => pure ()) →
        Copies database source target session indexes definitions last
  | refused {index : IndexInfo} :
      index ∈ indexes → index.origin = "c" → index.columns = [] →
      database.duplicate source target session =
        (.error (.indexWithoutColumns s!"{index.name}_{target}" target), last) →
        Copies database source target session indexes definitions last

/-- What is told of a table is all that a copy is made from. -/
theorem duplicate_eq (database : Database) (source target : String) :
    (database.duplicate source target : Action ω Unit) = (do
      let survey ← database.readSurvey source
      let statements ← copyStatements target survey.columns survey.foreignKeys survey.indexes
      let _ ← database.executeAll statements) := by
  unfold duplicate readSurvey
  rw [bind_assoc]
  refine bind_congr fun isThere => ?_
  cases isThere with
  | false => rfl
  | true => simp only [Bool.not_true, Bool.false_eq_true, if_false, bind_assoc, pure_bind]

theorem duplicate_of_readSurvey_error {fault : Fault} (target : String)
    (h : database.readSurvey source session = (.error fault, last)) :
    database.duplicate source target session = (.error fault, last) := by
  rw [duplicate_eq, Action.bind_apply, h]
  rfl

theorem duplicate_of_readSurvey_ok (target : String)
    (h : database.readSurvey source session = (.ok survey, last)) :
    database.duplicate source target session =
      (do
        let statements ← copyStatements target survey.columns survey.foreignKeys survey.indexes
        let _ ← database.executeAll statements : Action ω Unit) last := by
  rw [duplicate_eq]
  exact Action.bind_apply_of_ok h rfl

theorem Surveys.readSurvey_eq (h : database.Surveys source session survey last) :
    database.readSurvey source session = (.ok survey, last) := by
  obtain ⟨hthere, hcolumnRows, hcolumns, hkeyRows, hkeys, hindexes⟩ := h
  unfold readSurvey columnInfos foreignKeyInfos
  simp only [bind_assoc]
  refine Action.bind_apply_of_ok hthere (Action.bind_apply_of_ok hcolumnRows ?_)
  rw [ColumnInfo.ofRows_eq hcolumns, Action.lift_ok_bind]
  refine Action.bind_apply_of_ok hkeyRows ?_
  rw [ForeignKeyInfo.ofRows_eq hkeys, Action.lift_ok_bind]
  exact Action.bind_apply_of_ok hindexes rfl

theorem duplicate_of_surveys (h : database.Surveys source session survey last) :
    database.duplicate source target session =
      (do
        let statements ← copyStatements target survey.columns survey.foreignKeys survey.indexes
        let _ ← database.executeAll statements : Action ω Unit) last :=
  duplicate_of_readSurvey_ok target h.readSurvey_eq

theorem copies_of_surveys (h : database.Surveys source session survey last) :
    database.Copies source target session survey.indexes survey.definitions last := by
  cases hstatements : copyStatements target survey.columns survey.foreignKeys survey.indexes with
  | ok statements =>
      obtain ⟨copies, rfl⟩ := exists_copyStatements_eq hstatements
      have hcreated : database.duplicate source target session =
          Action.after (Action.runBatch database.name
            (copyCreation target survey.definitions :: copies) last) fun _ => pure () := by
        rw [duplicate_of_surveys h, hstatements]
        rfl
      exact .created (exists_copyStatements_iff.mp ⟨_, hstatements⟩) hcreated
  | error fault =>
      obtain ⟨index, hmem, horigin, hnone, rfl⟩ := exists_of_copyStatements_eq_error hstatements
      refine .refused hmem horigin hnone ?_
      rw [duplicate_of_surveys h, hstatements]
      rfl

end Database

end SqlAccess
