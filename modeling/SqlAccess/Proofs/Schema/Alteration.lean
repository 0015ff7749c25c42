import SqlAccess.Proofs.Schema.Convergence
import SqlAccess.Proofs.Schema.Rendering

/-!
# What an alteration does

An alteration asks for the columns of a table, and what it does then is one batch: it adds
each declared column that was not told, and drops and creates each declared index
(`Database.AltersBy`).

The columns that are added stand behind those that were there.  So after an alteration that
succeeded there is no column left to add, and the next one only drops and creates the
indexes once more (`alter_adds_missing`).

How names are spelled does not matter here: an addition of a column that is there in another
spelling fails, and then the alteration has not succeeded.
-/

namespace SqlAccess

open SqlAccess.Action

/-! ## The statements of an alteration -/

/-- A statement adds a column to a table. -/
def Column.IsAddedBy (table : String) (column : Column) (statement : Statement) : Prop :=
  ∃ definition, column.definition = .ok definition ∧
    statement = ⟨"ALTER TABLE " ++ table ++ " ADD COLUMN " ++ definition, []⟩

/-- Two statements drop an index and create it anew. -/
def Index.IsRecreatedBy (index : Index) (statements : List Statement) : Prop :=
  ∃ creation, index.creation = .ok creation ∧
    statements = [⟨"DROP INDEX IF EXISTS " ++ index.name, []⟩, ⟨creation, []⟩]

/-- Every part of a table that an alteration may need has a text. -/
structure Table.Compiles (table : Table) : Prop where
  columns : ∀ column ∈ table.columns, ∃ text, column.definition = .ok text
  indexes : ∀ index ∈ table.indexes, ∃ text, index.creation = .ok text

/-- The declared columns that are not among the given ones. -/
def Table.lacking (table : Table) (existing : List String) : List Column :=
  table.columns.filter fun column => !existing.contains column.name

section

variable {table : Table} {existing : List String}

theorem Table.mem_lacking {column : Column} :
    column ∈ table.lacking existing ↔ column ∈ table.columns ∧ column.name ∉ existing := by
  simp [lacking]

/-- Once the columns that were lacking are there, none is. -/
theorem Table.lacking_append_lacking :
    table.lacking (existing ++ (table.lacking existing).map Column.name) = [] := by
  refine List.filter_eq_nil_iff.mpr fun column hcolumn => ?_
  by_cases hthere : column.name ∈ existing
  · simp [hthere]
  · have hadded : column.name ∈ (table.lacking existing).map Column.name :=
      List.mem_map_of_mem (Table.mem_lacking.mpr ⟨hcolumn, hthere⟩)
    simp [hadded]

theorem Column.isAddedBy_of_addition {column : Column} {name sql : String}
    (h : column.addition name = .ok sql) : column.IsAddedBy name ⟨sql, []⟩ := by
  obtain ⟨definition, hdefinition, h⟩ := exists_of_bind_eq_ok h
  cases h
  exact ⟨definition, hdefinition, rfl⟩

theorem Index.isRecreatedBy_of_recreation {index : Index} {texts : List String}
    (h : index.recreation = .ok texts) : index.IsRecreatedBy (texts.map fun sql => ⟨sql, []⟩) := by
  obtain ⟨creation, hcreation, h⟩ := exists_of_bind_eq_ok h
  cases h
  exact ⟨creation, hcreation, rfl⟩

/-- The indexes are created anew by the same statements, whichever columns are there. -/
theorem Table.Compiles.exists_recreations (h : table.Compiles) :
    ∃ recreations : List (List Statement),
      List.Forall₂ Index.IsRecreatedBy table.indexes recreations ∧
      (∀ statement ∈ recreations.flatten, ¬ statement.IsAlteration) ∧
      ∀ existing, ∃ additions,
        List.Forall₂ (Column.IsAddedBy table.name) (table.lacking existing) additions ∧
        table.alterationStatements (table.lacking existing) =
          .ok (additions ++ recreations.flatten) := by
  obtain ⟨texts, htexts⟩ : ∃ texts, table.indexes.mapM Index.recreation = .ok texts :=
    exists_mapM_iff.mpr fun index hindex =>
      Index.exists_recreation_iff.mpr (Index.exists_creation_iff.mp (h.indexes index hindex))
  let recreations := texts.map (List.map fun sql => (⟨sql, []⟩ : Statement))
  have hflatten : recreations.flatten = texts.flatten.map fun sql => ⟨sql, []⟩ :=
    List.map_flatten.symm
  refine ⟨recreations, ?_, ?_, fun existing => ?_⟩
  · exact List.forall₂_map_right_iff.mpr
      ((mapM_eq_ok_iff.mp htexts).imp fun _ _ => Index.isRecreatedBy_of_recreation)
  · rw [hflatten]
    exact List.forall_mem_map.mpr fun sql hsql =>
      (hasIndexText_of_recreations htexts sql hsql).not_isAlteration
  · obtain ⟨sqls, hsqls⟩ :
        ∃ sqls, (table.lacking existing).mapM (Column.addition table.name) = .ok sqls :=
      exists_mapM_iff.mpr fun column hcolumn => Column.exists_addition_iff.mpr
        (Column.exists_definition_iff.mp (h.columns column (mem_lacking.mp hcolumn).1))
    refine ⟨sqls.map fun sql => ⟨sql, []⟩, ?_, ?_⟩
    · exact List.forall₂_map_right_iff.mpr
        ((mapM_eq_ok_iff.mp hsqls).imp fun _ _ => Column.isAddedBy_of_addition)
    · rw [alterationStatements, hsqls, hflatten, ← List.map_append]
      change (table.indexes.mapM Index.recreation >>= _) = _
      rw [htexts]
      rfl

end

namespace Database

variable {ω : Type} [Engine ω] {database : Database} {table : Table} {session : Session ω}
  {statements : List Statement}

/-- An alteration asks for the columns of the table, and then runs statements as one batch.
If there are no statements, there is no batch. -/
def AltersBy (database : Database) (table : Table) (session : Session ω)
    (statements : List Statement) : Prop :=
  Ends (fun _ asked =>
      database.alter table session =
          after (runBatch database.name statements asked) (fun _ => pure table) ∧
        (statements = [] → database.alter table session = (.ok table, asked)))
    (fun fault asked => database.alter table session = (.error fault, asked))
    (database.rows (columnQuestion table.name) session)

theorem alter_of_told {rows : List Row} {infos : List ColumnInfo} {asked : Session ω}
    (hrows : database.rows (columnQuestion table.name) session = (.ok rows, asked))
    (hinfos : ColumnInfo.ofRows rows = .ok infos)
    (hstatements : table.alterationStatements (table.lacking (infos.map ColumnInfo.name)) =
      .ok statements) :
    database.alter table session =
      after (runBatch database.name statements asked) (fun _ => pure table) := by
  unfold alter missingColumns columnNames columnInfos
  simp only [bind_assoc, pure_bind]
  refine bind_apply_of_ok hrows ?_
  rw [hinfos, lift_ok_bind]
  exact lift_bind_apply_of_ok hstatements rfl

theorem alter_of_fault {fault : Fault} {asked : Session ω}
    (hrows : database.rows (columnQuestion table.name) session = (.error fault, asked)) :
    database.alter table session = (.error fault, asked) := by
  unfold alter missingColumns columnNames columnInfos
  simp only [bind_assoc]
  rw [bind_apply]
  change after (database.rows (columnQuestion table.name) session) _ = _
  rw [hrows]
  rfl

end Database

namespace SchemaEngine

variable {ω δ : Type} [Engine ω] {engine : SchemaEngine ω δ} {database : Database} {table : Table}
  {data changed : δ} {session : Session ω} {outcomes : List Outcome}

/-- Columns that are added one after the other stand in this order behind those that the
table had. -/
theorem columns_of_additions (hunderstands : engine.Understands table) {columns : List Column}
    {texts : List String} (hcolumns : ∀ column ∈ columns, column ∈ table.columns)
    (htexts : List.Forall₂ (fun column sql => column.addition table.name = .ok sql) columns texts)
    (h : engine.Composed (texts.map fun sql => ⟨sql, []⟩) outcomes data changed) :
    (engine.live changed).columns table.name =
      (engine.live data).columns table.name ++ columns.map Column.name := by
  induction htexts generalizing data outcomes with
  | nil =>
      cases h
      rw [List.map_nil, List.append_nil]
  | @cons column sql columns texts hsql _ ih =>
      rw [List.forall_mem_cons] at hcolumns
      cases h with
      | cons heffect hrest =>
          have hadded := hunderstands.adds hcolumns.1 hsql heffect
          rw [ih hcolumns.2 hrest, LiveSchema.columns_of_add_eq_some hadded, List.append_assoc]
          rfl

theorem columns_of_alteration (hunderstands : engine.Understands table) {missing : List Column}
    (hmissing : ∀ column ∈ missing, column ∈ table.columns) {statements : List Statement}
    (hstatements : table.alterationStatements missing = .ok statements)
    (h : engine.Composed statements outcomes data changed) :
    (engine.live changed).columns table.name =
      (engine.live data).columns table.name ++ missing.map Column.name := by
  obtain ⟨additions, indexes, hadditions, hindexes, rfl⟩ :=
    Table.of_alterationStatements hstatements
  rw [List.map_append] at h
  obtain ⟨_, _, between, hfirst, hsecond⟩ := h.of_append
  rw [live_of_indexes hunderstands hindexes hsecond]
  exact columns_of_additions hunderstands hmissing hadditions hfirst

theorem altersBy (hunderstands : engine.Understands table)
    (hshows : engine.Shows database.name data session) {statements : List Statement}
    (hstatements : table.alterationStatements
      (table.lacking ((engine.live data).columns table.name)) = .ok statements) :
    database.AltersBy table session statements := by
  have hasked := ends_columnRows hunderstands hshows
  unfold Database.AltersBy
  rcases hrows : database.rows (Database.columnQuestion table.name) session with
    ⟨fault | rows, asked⟩
  · exact Database.alter_of_fault hrows
  · rw [hrows] at hasked
    obtain ⟨⟨infos, hinfos, hnames⟩, -⟩ := hasked
    rw [← hnames] at hstatements
    have halter := Database.alter_of_told hrows hinfos hstatements
    refine ⟨halter, fun hnone => ?_⟩
    rw [halter, hnone]
    rfl

/-- After an alteration that has returned, its columns stand behind those that were there. -/
theorem columns_of_alter (hunderstands : engine.Understands table)
    (hshows : engine.Shows database.name data session) {statements : List Statement}
    (hstatements : table.alterationStatements
      (table.lacking ((engine.live data).columns table.name)) = .ok statements)
    {value : Table} {last : Session ω} (h : database.alter table session = (.ok value, last)) :
    value = table ∧ ∃ changed, engine.Sees database.name changed last ∧
      (engine.live changed).columns table.name = (engine.live data).columns table.name ++
        (table.lacking ((engine.live data).columns table.name)).map Column.name := by
  have hopens := opens_alterationStatements hstatements
  have hasked := ends_columnRows hunderstands hshows
  rcases hrows : database.rows (Database.columnQuestion table.name) session with
    ⟨fault | rows, asked⟩
  · cases (Database.alter_of_fault hrows).symm.trans h
  · rw [hrows] at hasked
    obtain ⟨⟨infos, hinfos, hnames⟩, hsees⟩ := hasked
    -- the columns that were told are those that are there when the batch begins
    rw [← hnames] at hstatements
    rw [Database.alter_of_told hrows hinfos hstatements] at h
    have hbatch := hsees.ends_runBatch fun statement hmem =>
      engine.not_controls_of_opens (hopens statement hmem)
    rcases hrun : runBatch database.name statements asked with ⟨fault | outcomes, after⟩
    · rw [hrun] at h
      cases h
    · rw [hrun] at h hbatch
      obtain ⟨changed, hcomposed, hlast⟩ := hbatch
      cases h
      rw [hnames] at hstatements
      exact ⟨rfl, changed, hlast, columns_of_alteration hunderstands
        (fun column hcolumn => (Table.mem_lacking.mp hcolumn).1) hstatements hcomposed⟩

/-- An alteration adds the declared columns that the table does not have, in their order, and
then drops and creates each index; all of this is one batch.  If it returns, the table has the
columns that it had and behind them those that were added, so every declared column is there,
and another alteration only drops and creates the indexes. -/
theorem alter_adds_missing (engine : SchemaEngine ω δ) (database : Database) {table : Table}
    {data : δ} {session : Session ω} (hunderstands : engine.Understands table)
    (hshows : engine.Shows database.name data session) (hcompiles : table.Compiles) :
    ∃ (additions : List Statement) (recreations : List (List Statement)),
      List.Forall₂ (Column.IsAddedBy table.name)
        (table.lacking ((engine.live data).columns table.name)) additions ∧
      List.Forall₂ Index.IsRecreatedBy table.indexes recreations ∧
      (∀ statement ∈ recreations.flatten, ¬ statement.IsAlteration) ∧
      database.AltersBy table session (additions ++ recreations.flatten) ∧
      ∀ {value : Table} {last : Session ω}, database.alter table session = (.ok value, last) →
        value = table ∧ ∃ changed, engine.Sees database.name changed last ∧
          (engine.live changed).columns table.name = (engine.live data).columns table.name ++
            (table.lacking ((engine.live data).columns table.name)).map Column.name ∧
          (∀ column ∈ table.columns, column.name ∈ (engine.live changed).columns table.name) ∧
          ∀ {later : Session ω}, engine.Shows database.name changed later →
            database.AltersBy table later recreations.flatten := by
  obtain ⟨recreations, hrecreations, hplain, hstatements⟩ := hcompiles.exists_recreations
  obtain ⟨additions, hadditions, halters⟩ := hstatements ((engine.live data).columns table.name)
  refine ⟨additions, recreations, hadditions, hrecreations, hplain,
    altersBy hunderstands hshows halters, fun h => ?_⟩
  obtain ⟨hvalue, changed, hsees, hcolumns⟩ := columns_of_alter hunderstands hshows halters h
  refine ⟨hvalue, changed, hsees, hcolumns, fun column hcolumn => ?_, fun hlater => ?_⟩
  · rw [hcolumns]
    by_cases hthere : column.name ∈ (engine.live data).columns table.name
    · exact List.mem_append_left _ hthere
    · exact List.mem_append_right _ (List.mem_map_of_mem (Table.mem_lacking.mpr ⟨hcolumn, hthere⟩))
  · obtain ⟨others, hothers, hagain⟩ := hstatements ((engine.live changed).columns table.name)
    rw [hcolumns, Table.lacking_append_lacking] at hothers
    obtain rfl := List.forall₂_nil_left_iff.mp hothers
    exact altersBy hunderstands hlater hagain

theorem compiles_animals : animals.Compiles where
  columns column hcolumn :=
    have hliterals : ∀ column ∈ animals.columns, column.default.hasLiteral = true := by
      decide +kernel
    Column.exists_definition_iff.mpr (hliterals column hcolumn)
  indexes index hindex :=
    have hcolumns : ∀ index ∈ animals.indexes, index.columns ≠ [] := by decide
    Index.exists_creation_iff.mpr (hcolumns index hindex)

/-- One of the columns is there and the other one is added; then only the index is left. -/
theorem alter_adds_missing_animals :
    let found : LiveTable := ⟨"animals", ["name"]⟩
    let first := zoo.alter animals (keeping found)
    (Archive.schema animals).Understands animals ∧
      (Archive.schema animals).Shows zoo.name (LiveSchema.empty.put found) (keeping found) ∧
      animals.Compiles ∧
      (∃ (additions : List Statement) (recreations : List (List Statement)) (changed : LiveSchema),
        zoo.AltersBy animals (keeping found) (additions ++ recreations.flatten) ∧
        first.1 = .ok animals ∧ (Archive.schema animals).Sees zoo.name changed first.2 ∧
        changed.columns "animals" = ["name", "legs"] ∧
        zoo.AltersBy animals first.2 recreations.flatten) ∧
      (zoo.alter animals first.2).2.outside.submitted.map Statement.sql =
        ["PRAGMA foreign_keys = ON",
          "CREATE TEMP TABLE IF NOT EXISTS _sqlitemanager_rowid_mark (mark INTEGER)",
          "BEGIN IMMEDIATE", "PRAGMA table_info(animals)", "COMMIT",
          "BEGIN IMMEDIATE", "ALTER TABLE animals ADD COLUMN legs INTEGER NOT NULL DEFAULT 4",
          "DROP INDEX IF EXISTS animals_name",
          "CREATE INDEX IF NOT EXISTS animals_name ON animals (name)", "COMMIT",
          "BEGIN IMMEDIATE", "PRAGMA table_info(animals)", "COMMIT",
          "BEGIN IMMEDIATE", "DROP INDEX IF EXISTS animals_name",
          "CREATE INDEX IF NOT EXISTS animals_name ON animals (name)", "COMMIT"] := by
  intro found first
  have hok : first.1.isOk = true := by decide +kernel
  obtain ⟨additions, recreations, -, -, -, halters, hreturned⟩ := alter_adds_missing
    (Archive.schema animals) zoo understands_animals (shows_keeping found) compiles_animals
  have hadded : ((Archive.schema animals).live (LiveSchema.empty.put found)).columns "animals" ++
      (animals.lacking (((Archive.schema animals).live
        (LiveSchema.empty.put found)).columns "animals")).map Column.name = ["name", "legs"] := by
    decide +kernel
  refine ⟨understands_animals, shows_keeping found, compiles_animals,
    ⟨additions, recreations, ?_⟩, by decide +kernel⟩
  rcases hrun : first with ⟨fault | value, last⟩
  · rw [hrun] at hok
    cases hok
  · obtain ⟨rfl, changed, hsees, hcolumns, -, hagain⟩ := hreturned hrun
    exact ⟨changed, halters, rfl, hsees, hcolumns.trans hadded, hagain hsees.shows⟩

end SchemaEngine

end SqlAccess
