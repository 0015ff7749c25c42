import SqlAccess.Proofs.Engine.Archive
import SqlAccess.Proofs.Schema.Submission
import SqlAccess.Proofs.Session.Sight
import SqlAccess.Proofs.Value.Integers

/-!
# A declared table is established

What becomes of the tables of a database when a declared table is created or, if it
exists, altered.  The engine is asked whether the table exists and which columns it has;
both answers tell names as they are spelled, and the declaration is compared with them as
it is spelled.

If the names that are live are spelled like those that are declared, nothing more is
needed: the columns that are missing are added, and only these are submitted.  If a
column is live in another spelling only, its addition is submitted and fails, and
nothing changes; if the table is, the creation does nothing, and neither does anything
else (`Table.Converges`, `Table.Supplements`).

The proof follows the two paths.  The creation batch comes down to its first statement
(`live_of_creation`); the alteration batch adds the missing columns one by one, by an
induction that carries along the table as it is by then (`live_of_additions`).
-/

namespace SqlAccess

open SqlAccess.Action

variable {ω δ : Type} [Engine ω]

/-! ## What is to be shown -/

/-- An alteration adds a declared column that the table does not have.  Names are taken as
they are spelled. -/
def Table.Supplements (table : Table) (live : LiveSchema) (statement : Statement) : Prop :=
  ∃ found, live.table? table.name = some found ∧ found.name = table.name ∧
    ∃ column ∈ table.columns, column.name ∉ found.columns ∧
      column.addition table.name = .ok statement.sql

/-- What has become of the tables when a declared table is established. -/
structure Table.Converges (table : Table) (before after : LiveSchema) : Prop where
  live_eq : after = before.establish table.name table.columnNames
  /-- No column is lost, of whatever table. -/
  kept : ∀ name column, before.Has name column → after.Has name column
  /-- Every declared column is there, unless the table was there in another spelling. -/
  declared : (∀ found, before.table? table.name = some found → found.name = table.name) →
    ∀ column ∈ table.columns, after.Has table.name column.name
  /-- If the table was there in another spelling, nothing has been done about it. -/
  overlooked : ∀ found, before.table? table.name = some found → found.name ≠ table.name →
    after = before
  /-- A declared column that was there was there in the same spelling. -/
  spelled : ∀ found, before.table? table.name = some found → found.name = table.name →
    ∀ column ∈ table.columns, found.Has column.name → column.name ∈ found.columns

/-! ## Statements one after the other -/

namespace TransactionalEngine

variable {engine : TransactionalEngine ω δ} {first second : List Statement}
  {outcomes : List Outcome} {data last : δ}

theorem Composed.of_append (h : engine.Composed (first ++ second) outcomes data last) :
    ∃ earlier later changed, engine.Composed first earlier data changed ∧
      engine.Composed second later changed last := by
  induction first generalizing outcomes data with
  | nil => exact ⟨[], outcomes, data, .nil data, h⟩
  | cons statement first ih =>
      cases h with
      | cons heffect hrest =>
          obtain ⟨earlier, later, changed, hearlier, hlater⟩ := ih hrest
          exact ⟨_, later, changed, .cons heffect hearlier, hlater⟩

end TransactionalEngine

namespace SchemaEngine

variable {engine : SchemaEngine ω δ} {table : Table} {outcomes : List Outcome} {data changed : δ}

/-- Texts for indexes leave the tables alone, also one after the other. -/
theorem live_of_indexes (hunderstands : engine.Understands table) {texts : List String}
    (htexts : ∀ sql ∈ texts, table.HasIndexText sql)
    (h : engine.Composed (texts.map fun sql => ⟨sql, []⟩) outcomes data changed) :
    engine.live changed = engine.live data := by
  induction texts generalizing outcomes data with
  | nil =>
      cases h
      rfl
  | cons sql texts ih =>
      rw [List.forall_mem_cons] at htexts
      cases h with
      | cons heffect hrest =>
          exact (ih htexts.2 hrest).trans (hunderstands.indexes htexts.1 heffect)

/-- A creation batch creates the table, and nothing else. -/
theorem live_of_creation (hunderstands : engine.Understands table) {statements : List Statement}
    (hstatements : table.creationStatements = .ok statements)
    (h : engine.Composed statements outcomes data changed) :
    engine.live changed = (engine.live data).create ⟨table.name, table.columnNames⟩ := by
  obtain ⟨creation, indexes, hcreation, hindexes, rfl⟩ := Table.of_creationStatements hstatements
  cases h with
  | cons heffect hrest =>
      exact (live_of_indexes hunderstands hindexes hrest).trans
        (hunderstands.creates hcreation heffect)

/-- Columns that are added one after the other stand in this order behind those that the
table had, and it had none of them. -/
theorem live_of_additions (hunderstands : engine.Understands table) {columns : List Column}
    {texts : List String} (hcolumns : ∀ column ∈ columns, column ∈ table.columns)
    (htexts : List.Forall₂ (fun column sql => column.addition table.name = .ok sql) columns texts)
    {found : LiveTable} (hfound : (engine.live data).table? table.name = some found)
    (h : engine.Composed (texts.map fun sql => ⟨sql, []⟩) outcomes data changed) :
    engine.live changed = (engine.live data).put
        { found with columns := found.columns ++ columns.map Column.name } ∧
      ∀ column ∈ columns, ¬ found.Has column.name := by
  induction htexts generalizing data found outcomes with
  | nil =>
      cases h
      rw [List.map_nil, List.append_nil]
      exact ⟨(LiveSchema.put_of_table? hfound).symm, nofun⟩
  | @cons column sql columns texts hsql _ ih =>
      rw [List.forall_mem_cons] at hcolumns
      cases h with
      | @cons _ _ _ result _ next _ heffect hrest =>
          have hadded := hunderstands.adds hcolumns.1 hsql heffect
          obtain ⟨hnew, hput⟩ := LiveSchema.of_add_eq_some hfound hadded
          -- the table as the other columns are added to it
          have hnext : (engine.live next).table? table.name =
              some { found with columns := found.columns ++ [column.name] } := by
            rw [hput]
            exact LiveSchema.table?_put_of_sameName ((engine.live data).small_name hfound).symm
          obtain ⟨hlive, hothers⟩ := ih hcolumns.2 hnext hrest
          refine ⟨?_, List.forall_mem_cons.mpr ⟨hnew, fun other hother hhas => ?_⟩⟩
          · have hbehind : found.columns ++ (column :: columns).map Column.name =
                found.columns ++ [column.name] ++ columns.map Column.name := by simp
            rw [hlive, hput, hbehind]
            exact LiveSchema.put_put rfl
          · obtain ⟨former, hformer, hspelling⟩ := hhas
            exact hothers other hother ⟨former, List.mem_append_left _ hformer, hspelling⟩

/-- An alteration batch adds the columns that it was given, which the table did not have. -/
theorem live_of_alteration (hunderstands : engine.Understands table) {missing : List Column}
    (hmissing : ∀ column ∈ missing, column ∈ table.columns) {statements : List Statement}
    (hstatements : table.alterationStatements missing = .ok statements) {found : LiveTable}
    (hfound : (engine.live data).table? table.name = some found)
    (h : engine.Composed statements outcomes data changed) :
    engine.live changed = (engine.live data).put
        { found with columns := found.columns ++ missing.map Column.name } ∧
      ∀ column ∈ missing, ¬ found.Has column.name := by
  obtain ⟨additions, indexes, hadditions, hindexes, rfl⟩ :=
    Table.of_alterationStatements hstatements
  rw [List.map_append] at h
  obtain ⟨_, _, between, hfirst, hsecond⟩ := h.of_append
  rw [live_of_indexes hunderstands hindexes hsecond]
  exact live_of_additions hunderstands hmissing hadditions hfound hfirst

/-! ## The questions -/

variable {database : Database} {session : Session ω}

/-- The question whether a table exists compares its name as it is spelled. -/
theorem ends_hasTable (hunderstands : engine.Understands table)
    (h : engine.Shows database.name data session) :
    Ends (fun isThere after => (isThere = true ↔ 0 < (engine.live data).count table.name) ∧
        engine.Sees database.name data after)
      (fun _ after => engine.Untouched database.name data after)
      (database.hasTable table.name session) := by
  have hquestion : Opens (Database.tableCount table.name).sql :=
    show Opens (Database.tableCount "").sql by decide +kernel
  refine ends_bind (h.ends_rows (engine.not_controls_of_opens hquestion)) ?_
  rintro rows after ⟨result, changed, heffect, rfl, hsees⟩
  obtain ⟨rfl, hcolumns, hrows⟩ := hunderstands.counts heffect
  have hrow : Outcome.rowsOf result =
      [Row.ofCells ["_count_"] [.int ((engine.live changed).count table.name)]] := by
    simp [Outcome.rowsOf, hcolumns, hrows]
  rw [hrow]
  have hlookup : (Row.ofCells ["_count_"]
      [.int ((engine.live changed).count table.name)]).lookup "_count_" =
      .ok (.int ((engine.live changed).count table.name)) := rfl
  refine ends_bind_lift (fun fault hfault => ?_) fun value hvalue => ?_
  · cases hlookup.symm.trans hfault
  · obtain rfl := Except.ok.inj (hlookup.symm.trans hvalue)
    rw [Value.greaterThan_int]
    exact ⟨by simp, hsees⟩

/-- The question for the columns of a table is answered by rows that tell of them. -/
theorem ends_columnRows (hunderstands : engine.Understands table)
    (h : engine.Shows database.name data session) :
    Ends (fun rows after => (∃ infos, ColumnInfo.ofRows rows = .ok infos ∧
          infos.map ColumnInfo.name = (engine.live data).columns table.name) ∧
        engine.Sees database.name data after)
      (fun _ after => engine.Untouched database.name data after)
      (database.rows (Database.columnQuestion table.name) session) := by
  have hquestion : Opens (Database.columnQuestion table.name).sql :=
    ((show Opens "PRAGMA table_info(" by decide).append _).append _
  refine (h.ends_rows (engine.not_controls_of_opens hquestion)).mono ?_ fun _ _ h => h
  rintro rows after ⟨result, changed, heffect, rfl, hsees⟩
  obtain ⟨rfl, hcolumns, hrows⟩ := hunderstands.lists heffect
  have hrowsOf : Outcome.rowsOf result =
      result.rows.map (Row.ofCells ColumnInfo.fieldNames) := by
    rw [Outcome.rowsOf, hcolumns]
    rfl
  rw [hrowsOf]
  exact ⟨ColumnInfo.exists_ofRows hrows, hsees⟩

/-- The question for the columns of a table gives their names as they are spelled. -/
theorem ends_columnNames (hunderstands : engine.Understands table)
    (h : engine.Sees database.name data session) :
    Ends (fun names after => names = (engine.live data).columns table.name ∧
        engine.Sees database.name data after)
      (fun _ after => engine.Untouched database.name data after)
      (database.columnNames table.name session) := by
  have hinfos : Ends (fun infos after =>
        infos.map ColumnInfo.name = (engine.live data).columns table.name ∧
        engine.Sees database.name data after)
      (fun _ after => engine.Untouched database.name data after)
      (database.columnInfos table.name session) := by
    refine ends_bind (ends_columnRows hunderstands h.shows) ?_
    rintro rows after ⟨⟨infos, hread, hnames⟩, hsees⟩
    rw [hread]
    exact ⟨hnames, hsees⟩
  exact ends_bind hinfos fun _ _ h => h

/-- The declared columns that are missing are those that are not there as they are
spelled. -/
theorem ends_missingColumns (hunderstands : engine.Understands table)
    (h : engine.Sees database.name data session) :
    Ends (fun missing after => missing = (table.columns.filter fun column =>
          !((engine.live data).columns table.name).contains column.name) ∧
        engine.Sees database.name data after)
      (fun _ after => engine.Untouched database.name data after)
      (database.missingColumns table session) := by
  refine ends_bind (ends_columnNames hunderstands h) ?_
  rintro names after ⟨rfl, hsees⟩
  exact ⟨rfl, hsees⟩

/-! ## The two paths -/

/-- What is known of a call that establishes a table, however it ends. -/
structure Establishes (engine : SchemaEngine ω δ) (database : String) (table : Table) (data : δ)
    (start : Session ω) (ending : Except Fault Table × Session ω) : Prop where
  /-- A call that returns gives the table back and has established it. -/
  returned : ∀ value, ending.1 = .ok value → value = table ∧
    ∃ changed, engine.Sees database changed ending.2 ∧
      table.Converges (engine.live data) (engine.live changed)
  /-- A call that fails has changed nothing. -/
  failed : ∀ fault, ending.1 = .error fault → engine.Untouched database data ending.2
  /-- Only columns that are missing in their spelling are added, also if the call fails. -/
  submits : engine.Submits (table.Supplements (engine.live data)) start ending.2

variable {start : Session ω}

theorem establishes_iff_ends {ending : Except Fault Table × Session ω} :
    engine.Establishes database.name table data start ending ↔
      Ends
        (fun value after => (value = table ∧
          ∃ changed, engine.Sees database.name changed after ∧
            table.Converges (engine.live data) (engine.live changed)) ∧
          engine.Submits (table.Supplements (engine.live data)) start after)
        (fun _ after => engine.Untouched database.name data after ∧
          engine.Submits (table.Supplements (engine.live data)) start after) ending := by
  obtain ⟨fault | value, after⟩ := ending
  · constructor
    · exact fun h => ⟨h.failed fault rfl, h.submits⟩
    · exact fun ⟨huntouched, hsubmits⟩ => ⟨nofun, fun _ _ => huntouched, hsubmits⟩
  · constructor
    · exact fun h => ⟨h.returned value rfl, h.submits⟩
    · rintro ⟨hreturned, hsubmits⟩
      refine ⟨fun other hother => ?_, nofun, hsubmits⟩
      rwa [← Except.ok.inj hother]

theorem converges_establish {live : LiveSchema}
    (hspelled : ∀ found, live.table? table.name = some found → found.name = table.name →
      ∀ column ∈ table.columns, found.Has column.name → column.name ∈ found.columns) :
    table.Converges live (live.establish table.name table.columnNames) where
  live_eq := rfl
  kept _ _ := LiveSchema.has_establish_of_has
  declared hspelling _ hcolumn :=
    LiveSchema.has_establish hspelling (List.mem_map_of_mem hcolumn)
  overlooked _ hfound hname := LiveSchema.establish_of_ne hfound hname
  spelled := hspelled

theorem establishes_create (hunderstands : engine.Understands table)
    (hsees : engine.Sees database.name data session)
    (hsubmits : engine.Submits (table.Supplements (engine.live data)) start session)
    (hcount : ¬ 0 < (engine.live data).count table.name) :
    engine.Establishes database.name table data start (database.create table session) := by
  refine establishes_iff_ends.mpr (ends_bind_lift (fun fault _ => ⟨hsees.untouched, hsubmits⟩)
    fun statements hstatements => ?_)
  have hopens := opens_creationStatements hstatements
  have hplain := not_isAlteration_creationStatements hstatements
  have hbatch := (hsees.ends_runBatch fun statement hmem =>
      engine.not_controls_of_opens (hopens statement hmem)).and
    ((submits_runBatch fun statement hmem halters =>
      absurd halters (hplain statement hmem)).ends hsubmits)
  refine ends_bind hbatch ?_
  rintro outcomes after ⟨⟨changed, hcomposed, hafter⟩, hsubmitted⟩
  refine ⟨⟨rfl, changed, hafter, ?_⟩, hsubmitted⟩
  rw [live_of_creation hunderstands hstatements hcomposed,
    LiveSchema.create_eq_establish hcount]
  refine converges_establish fun found hfound hname => ?_
  -- the count would have found a table in the declared spelling
  exact absurd (LiveSchema.count_pos_iff.mpr ⟨found, hfound, hname⟩) hcount

theorem establishes_alter (hunderstands : engine.Understands table)
    (hsees : engine.Sees database.name data session)
    (hsubmits : engine.Submits (table.Supplements (engine.live data)) start session)
    (hcount : 0 < (engine.live data).count table.name) :
    engine.Establishes database.name table data start (database.alter table session) := by
  obtain ⟨found, hfound, hname⟩ := LiveSchema.count_pos_iff.mp hcount
  have hcolumns : (engine.live data).columns table.name = found.columns := by
    rw [LiveSchema.columns, hfound]
    rfl
  have hasked := (ends_missingColumns hunderstands hsees).and
    ((submits_missingColumns table).ends hsubmits)
  rw [hcolumns] at hasked
  refine establishes_iff_ends.mpr (ends_bind hasked ?_)
  rintro missing asked ⟨⟨hmissing, hsees⟩, hsubmits⟩
  have hmem : ∀ column, column ∈ missing ↔
      column ∈ table.columns ∧ column.name ∉ found.columns := by
    intro column
    rw [hmissing, List.mem_filter]
    simp
  refine ends_bind_lift (fun fault _ => ⟨hsees.untouched, hsubmits⟩)
    fun statements hstatements => ?_
  have hopens := opens_alterationStatements hstatements
  -- the alterations of the batch are the additions, and those are of missing columns
  have hallowed : ∀ statement ∈ statements, statement.IsAlteration →
      table.Supplements (engine.live data) statement := by
    intro statement hstatement halters
    obtain ⟨column, hcolumn, haddition⟩ :=
      exists_missing_of_isAlteration hstatements statement hstatement halters
    exact ⟨found, hfound, hname, column, ((hmem column).mp hcolumn).1,
      ((hmem column).mp hcolumn).2, haddition⟩
  have hbatch := (hsees.ends_runBatch fun statement hmem =>
      engine.not_controls_of_opens (hopens statement hmem)).and
    ((submits_runBatch hallowed).ends hsubmits)
  refine ends_bind hbatch ?_
  rintro outcomes after ⟨⟨changed, hcomposed, hafter⟩, hsubmitted⟩
  refine ⟨⟨rfl, changed, hafter, ?_⟩, hsubmitted⟩
  obtain ⟨hlive, hnew⟩ := live_of_alteration hunderstands
    (fun column hcolumn => ((hmem column).mp hcolumn).1) hstatements hfound hcomposed
  have hnames : missing.map Column.name =
      table.columnNames.filter fun column => !found.columns.contains column := by
    rw [hmissing, Table.columnNames, List.filter_map]
    rfl
  rw [hlive, hnames, ← LiveSchema.establish_of_some hfound hname]
  refine converges_establish fun other hother _ column hcolumn hhas => ?_
  obtain rfl : found = other := Option.some.inj (hfound.symm.trans hother)
  -- a column that was added was not there
  by_contra hspelling
  exact hnew column ((hmem column).mpr ⟨hcolumn, hspelling⟩) hhas

/-- Whatever tables there are, a declared table is created or altered so that it is
established as far as names are spelled in the same way, or the call fails and has
changed nothing.  It submits additions only of columns that are not there in the declared
spelling, also if it fails. -/
theorem createOrAlter_converges (engine : SchemaEngine ω δ) (database : Database)
    {table : Table} {data : δ} {session : Session ω} (hunderstands : engine.Understands table)
    (hshows : engine.Shows database.name data session) :
    engine.Establishes database.name table data session
      (database.createOrAlter table session) := by
  have hasked := (ends_hasTable hunderstands hshows).and
    ((submits_hasTable table.name).ends
      (Submits.refl engine (table.Supplements (engine.live data)) session))
  refine establishes_iff_ends.mpr (ends_bind hasked ?_)
  rintro isThere asked ⟨⟨hcount, hsees⟩, hsubmits⟩
  cases isThere with
  | false =>
      have habsent : ¬ 0 < (engine.live data).count table.name := by simpa using hcount
      exact establishes_iff_ends.mp (establishes_create hunderstands hsees hsubmits habsent)
  | true =>
      exact establishes_iff_ends.mp
        (establishes_alter hunderstands hsees hsubmits (hcount.mp rfl))

/-- A declared table with an index. -/
def animals : Table where
  name := "animals"
  columns := [{ name := "name", type := "TEXT", nullable := true },
    { name := "legs", type := "INTEGER", default := .int 4 }]
  indexes := [{ name := "animals_name", table := "animals", columns := ["name"] }]

/-- The database that it is declared for. -/
def zoo : Database := ⟨"zoo"⟩

/-- A session in which nothing is open yet, with a single table in memory. -/
def keeping (table : LiveTable) : Session (Archive animals) where
  outside := { live := LiveSchema.empty.put table }

theorem shows_keeping (table : LiveTable) :
    (Archive.schema animals).Shows zoo.name (LiveSchema.empty.put table) (keeping table) :=
  ⟨rfl, rfl⟩

theorem understands_animals : (Archive.schema animals).Understands animals :=
  Archive.understands (by decide +kernel)

/-- One of the columns is there, and the other one is added. -/
theorem createOrAlter_converges_animals :
    let found : LiveTable := ⟨"animals", ["name"]⟩
    (Archive.schema animals).Understands animals ∧
      (Archive.schema animals).Shows zoo.name (LiveSchema.empty.put found) (keeping found) ∧
      (zoo.createOrAlter animals (keeping found)).1.isOk = true ∧
      (Archive.schema animals).Establishes zoo.name animals (LiveSchema.empty.put found)
        (keeping found) (zoo.createOrAlter animals (keeping found)) := by
  intro found
  exact ⟨understands_animals, shows_keeping found, by decide +kernel,
    createOrAlter_converges (Archive.schema animals) zoo understands_animals
      (shows_keeping found)⟩

/-- The addition of a column that is live in another spelling is submitted, and a table
that is live in another spelling is taken for established without the declared columns. -/
theorem createOrAlter_otherSpelling :
    let capital : LiveTable := ⟨"animals", ["Name", "legs"]⟩
    let overlooked : LiveTable := ⟨"Animals", ["name"]⟩
    (Archive.schema animals).Understands animals ∧
      animals.columnNames.Pairwise (fun first second => ¬ SameName first second) ∧
      ((Archive.schema animals).Shows zoo.name (LiveSchema.empty.put capital) (keeping capital) ∧
        (LiveSchema.empty.put capital).Has "animals" "name" ∧
        "ALTER TABLE animals ADD COLUMN name TEXT NULL" ∈
          (zoo.createOrAlter animals (keeping capital)).2.outside.submitted.map
            Statement.sql) ∧
      (Archive.schema animals).Shows zoo.name (LiveSchema.empty.put overlooked)
        (keeping overlooked) ∧
      (zoo.createOrAlter animals (keeping overlooked)).1.isOk = true ∧
      ¬ (zoo.createOrAlter animals (keeping overlooked)).2.outside.live.Has "animals" "legs" := by
  intro capital overlooked
  exact ⟨understands_animals, by decide +kernel,
    ⟨shows_keeping capital, by decide +kernel, by decide +kernel⟩, shows_keeping overlooked,
    by decide +kernel, by decide +kernel⟩

end SchemaEngine

end SqlAccess
