import SqlAccess.Schema.Copy
import SqlAccess.Proofs.Schema.Statements
import SqlAccess.Proofs.Table.Definition

/-!
# Which changes can be written down

The texts of a change to the schema are all made before the first one is sent.  Making
them fails if there is no text for one of the parts: a default that is not a finite
number or that cannot be written, a foreign key that lacks its columns or what they
refer to, or an index without columns.  Nothing else is in the way
(`Table.exists_creationStatements_iff`, `Table.exists_alterationStatements_iff`,
`exists_copyStatements_iff`).

The statements of a change write (`Statement.IsWrite`), and the questions that are put to
the catalog before do not (`Database.IsQuestion`).
-/

namespace SqlAccess

/-! ## Parts that have a text -/

theorem Value.exists_defaultLiteral_iff {value : Value} :
    (∃ literal, value.defaultLiteral = .ok literal) ↔ value.hasLiteral = true := by
  refine ⟨?_, fun h => (exists_defaultLiteral h).imp fun _ => And.left⟩
  rintro ⟨literal, hliteral⟩
  have hwritable : value.isWritable = true := by
    by_contra hnot
    cases (defaultLiteral_eq_error (Bool.eq_false_iff.mpr hnot)).symm.trans hliteral
  refine Bool.and_eq_true_iff.mpr ⟨?_, hwritable⟩
  cases value with
  | real number =>
      by_contra hinfinite
      have hnone : (real number).defaultLiteral = .error (.noLiteral number) := if_neg hinfinite
      cases hnone.symm.trans hliteral
  | _ => rfl

theorem Column.exists_defaultParts_iff {column : Column} :
    (∃ parts, column.defaultParts = .ok parts) ↔ column.default.hasLiteral = true := by
  unfold defaultParts
  cases hnull : column.default.isNull with
  | true =>
      refine iff_of_true ⟨[], rfl⟩ ?_
      cases hvalue : column.default with
      | null => rfl
      | _ => cases hvalue ▸ hnull
  | false =>
      rw [if_neg Bool.false_ne_true]
      simp only [exists_bind_iff, exists_pure, and_true, Value.exists_defaultLiteral_iff]

theorem Column.exists_definition_iff {column : Column} :
    (∃ text, column.definition = .ok text) ↔ column.default.hasLiteral = true := by
  unfold definition
  simp only [exists_bind_iff, exists_pure, and_true, exists_defaultParts_iff]

theorem Column.exists_addition_iff {column : Column} {table : String} :
    (∃ text, column.addition table = .ok text) ↔ column.default.hasLiteral = true := by
  unfold addition
  simp only [exists_bind_iff, exists_pure, and_true, exists_definition_iff]

theorem ForeignKey.exists_definition_iff {key : ForeignKey} :
    (∃ text, key.definition = .ok text) ↔ key.isComplete = true := by
  unfold definition isComplete
  cases key.table with
  | none => simp
  | some table =>
      cases key.columns.isEmpty <;> cases key.references.isEmpty <;> simp

theorem Index.exists_creation_iff {index : Index} :
    (∃ text, index.creation = .ok text) ↔ index.columns ≠ [] := by
  unfold creation
  cases index.columns <;> simp

theorem Index.exists_recreation_iff {index : Index} :
    (∃ texts, index.recreation = .ok texts) ↔ index.columns ≠ [] := by
  unfold recreation
  simp only [exists_bind_iff, exists_pure, and_true, exists_creation_iff]

/-! ## Changes that have a text -/

namespace Table

variable {table : Table}

theorem exists_creation_iff :
    (∃ text, table.creation = .ok text) ↔
      table.columns ≠ [] ∧ (∀ column ∈ table.columns, column.default.hasLiteral = true) ∧
        ∀ key ∈ table.foreignKeys, key.isComplete = true := by
  unfold creation
  cases hempty : table.columns.isEmpty with
  | true =>
      refine iff_of_false ?_ fun h => h.1 (List.isEmpty_iff.mp hempty)
      rintro ⟨_, ⟨⟩⟩
  | false =>
      have hne : table.columns ≠ [] := List.isEmpty_eq_false_iff.mp hempty
      rw [if_neg Bool.false_ne_true, and_iff_right hne]
      simp only [exists_bind_iff, exists_pure, and_true, exists_and_right, exists_mapM_iff,
        Column.exists_definition_iff, ForeignKey.exists_definition_iff]

/-- The statements that create a table are there exactly if the table has everything that
they need. -/
theorem exists_creationStatements_iff :
    (∃ statements, table.creationStatements = .ok statements) ↔ table.IsComplete := by
  unfold creationStatements
  simp only [exists_bind_iff, exists_pure, and_true, exists_and_right, exists_mapM_iff,
    exists_creation_iff, Index.exists_creation_iff]
  constructor
  · rintro ⟨⟨hcolumns, hdefaults, hforeignKeys⟩, hindexes⟩
    exact ⟨hcolumns, hforeignKeys, hindexes, hdefaults⟩
  · intro h
    exact ⟨⟨h.columns, h.defaults, h.foreignKeys⟩, h.indexes⟩

/-- Neither the foreign keys of a table nor the columns that it has are needed to alter
it. -/
theorem exists_alterationStatements_iff {missing : List Column} :
    (∃ statements, table.alterationStatements missing = .ok statements) ↔
      (∀ column ∈ missing, column.default.hasLiteral = true) ∧
        ∀ index ∈ table.indexes, index.columns ≠ [] := by
  unfold alterationStatements
  simp only [exists_bind_iff, exists_pure, and_true, exists_and_right, exists_mapM_iff,
    Column.exists_addition_iff, Index.exists_recreation_iff]

end Table

/-- Only the indexes that are copied are in the way of a copy. -/
theorem exists_copyStatements_iff {target : String} {columns : List ColumnInfo}
    {foreignKeys : List ForeignKeyInfo} {indexes : List IndexInfo} :
    (∃ statements, copyStatements target columns foreignKeys indexes = .ok statements) ↔
      ∀ index ∈ indexes, index.origin = "c" → index.columns ≠ [] := by
  unfold copyStatements
  simp only [exists_bind_iff, exists_pure, and_true, exists_mapM_iff, Index.exists_creation_iff,
    List.forall_mem_map, List.mem_filter, decide_eq_true_eq, and_imp, IndexInfo.copy]

/-! ## Statements that write -/

namespace Statement

/-- What the statements begin with that change the schema or insert rows. -/
def writeStarts : List String :=
  ["CREATE ", "ALTER ", "DROP ", "INSERT "]

/-- Whether a statement changes the schema or inserts rows. -/
def IsWrite (statement : Statement) : Prop :=
  ∃ start ∈ writeStarts, StartsWith start statement.sql

instance : DecidablePred IsWrite := fun statement =>
  inferInstanceAs (Decidable (∃ start ∈ writeStarts, StartsWith start statement.sql))

theorem isWrite_of_startsWith {statement : Statement} {start : String}
    (h : StartsWith start statement.sql) (hstart : IsWrite ⟨start, []⟩) : statement.IsWrite := by
  obtain ⟨first, hfirst, hbegins⟩ := hstart
  exact ⟨first, hfirst, List.IsPrefix.trans hbegins h⟩

end Statement

open Statement (IsWrite isWrite_of_startsWith)

theorem Index.isWrite_of_start {sql : String} (h : ∃ start ∈ Index.starts, StartsWith start sql) :
    IsWrite ⟨sql, []⟩ := by
  obtain ⟨start, hmem, hstart⟩ := h
  have hwrites : ∀ start ∈ Index.starts, IsWrite ⟨start, []⟩ := by decide
  exact isWrite_of_startsWith hstart (hwrites start hmem)

theorem isWrite_creationStatements {table : Table} {statements : List Statement}
    (h : table.creationStatements = .ok statements) :
    ∀ statement ∈ statements, statement.IsWrite := by
  obtain ⟨creation, indexes, hcreation, hindexes, rfl⟩ := Table.of_creationStatements h
  refine List.forall_mem_map.mpr (List.forall_mem_cons.mpr
    ⟨?_, fun sql hsql => Index.isWrite_of_start (hindexes sql hsql).exists_start⟩)
  exact isWrite_of_startsWith (Table.startsWith_creation hcreation) (by decide)

theorem isWrite_alterationStatements {table : Table} {missing : List Column}
    {statements : List Statement} (h : table.alterationStatements missing = .ok statements) :
    ∀ statement ∈ statements, statement.IsWrite := by
  obtain ⟨additions, indexes, hadditions, hindexes, rfl⟩ := Table.of_alterationStatements h
  refine List.forall_mem_map.mpr (List.forall_mem_append.mpr
    ⟨?_, fun sql hsql => Index.isWrite_of_start (hindexes sql hsql).exists_start⟩)
  refine forall_right_of_forall₂ (fun column sql hsql => ?_) hadditions
  exact isWrite_of_startsWith (Column.startsWith_addition hsql) (by decide)

theorem isWrite_removal (table : String) : IsWrite ⟨Table.removal table, []⟩ :=
  isWrite_of_startsWith ((StartsWith.refl "DROP TABLE IF EXISTS ").append _) (by decide)

theorem isWrite_copyStatements {target : String} {columns : List ColumnInfo}
    {foreignKeys : List ForeignKeyInfo} {indexes : List IndexInfo} {statements : List Statement}
    (h : copyStatements target columns foreignKeys indexes = .ok statements) :
    ∀ statement ∈ statements, statement.IsWrite := by
  obtain ⟨creations, hcreations, h⟩ := exists_of_bind_eq_ok h
  cases h
  refine List.forall_mem_map.mpr (List.forall_mem_cons.mpr ⟨?_, ?_⟩)
  · exact isWrite_of_startsWith (((((StartsWith.refl Table.creationStart).append _).append
      _).append _).append _) (by decide)
  · exact forall_of_mapM_eq_ok (fun index _ sql hsql =>
      Index.isWrite_of_start (Index.exists_start_of_creation hsql)) hcreations

theorem isWrite_copyRows (source target : String) (columns : List String) :
    (Statement.copyRows source target columns).IsWrite :=
  isWrite_of_startsWith ((((((((StartsWith.refl "INSERT INTO ").append _).append _).append
    _).append _).append _).append _).append _) (by decide)

/-! ## Questions -/

namespace Database

/-- What the engine is asked about the tables of a database. -/
inductive IsQuestion : Statement → Prop where
  | tableCount (table : String) : IsQuestion (tableCount table)
  | columns (table : String) : IsQuestion (columnQuestion table)
  | foreignKeys (table : String) : IsQuestion ⟨s!"PRAGMA foreign_key_list({table})", []⟩
  | indexes (table : String) : IsQuestion ⟨s!"PRAGMA index_list({table})", []⟩
  | index (name : String) : IsQuestion ⟨s!"PRAGMA index_info({name})", []⟩

theorem not_isWrite_pragma {start : String} (hstart : StartsWith "PRAGMA " start) (name : String) :
    ¬ IsWrite ⟨start ++ name ++ ")", []⟩ := by
  rintro ⟨first, hfirst, hbegins⟩
  have hdiffers : ∀ first ∈ Statement.writeStarts,
      ¬ StartsWith "PRAGMA " first ∧ ¬ StartsWith first "PRAGMA " := by decide
  exact ((hstart.append name).append ")").excludes (hdiffers first hfirst).1
    (hdiffers first hfirst).2 hbegins

theorem IsQuestion.not_isWrite {question : Statement} (h : IsQuestion question) :
    ¬ question.IsWrite := by
  cases h with
  | tableCount table => exact show ¬ (Database.tableCount "").IsWrite by decide
  | columns table => exact not_isWrite_pragma (by decide) table
  | foreignKeys table => exact not_isWrite_pragma (by decide) table
  | indexes table => exact not_isWrite_pragma (by decide) table
  | index name => exact not_isWrite_pragma (by decide) name

end Database

end SqlAccess
