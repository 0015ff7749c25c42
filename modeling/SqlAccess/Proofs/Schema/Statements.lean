import SqlAccess.Catalog
import SqlAccess.Schema
import SqlAccess.Proofs.Statement.Plain

/-!
# The statements about a declared table

What a creation batch and an alteration batch consist of, and how the texts of their
statements begin.  A text that begins in one way does not begin in another one
(`StartsWith.excludes`), so the statements that alter a table can be told from all the
others: those that create it or its indexes, the questions of the catalog, and those
that set a connection up.
-/

namespace SqlAccess

/-! ## How texts begin -/

/-- A text begins with another one. -/
def StartsWith (start text : String) : Prop :=
  start.toList <+: text.toList

instance (start text : String) : Decidable (StartsWith start text) :=
  inferInstanceAs (Decidable (_ <+: _))

theorem StartsWith.refl (text : String) : StartsWith text text :=
  List.prefix_refl _

theorem StartsWith.append {start text : String} (h : StartsWith start text) (rest : String) :
    StartsWith start (text ++ rest) := by
  rw [StartsWith, String.toList_append]
  exact List.IsPrefix.trans h (List.prefix_append _ _)

/-- A text does not begin in two ways, unless one of them begins with the other. -/
theorem StartsWith.excludes {start other text : String} (h : StartsWith start text)
    (hstart : ¬ StartsWith start other) (hother : ¬ StartsWith other start) :
    ¬ StartsWith other text := by
  intro hbegins
  rcases List.prefix_or_prefix_of_prefix h hbegins with hbefore | hbehind
  · exact hstart hbefore
  · exact hother hbehind

theorem StartsWith.ne {start other first second : String} (h : StartsWith start first)
    (hsecond : StartsWith other second) (hstart : ¬ StartsWith start other)
    (hother : ¬ StartsWith other start) : first ≠ second := by
  rintro rfl
  exact h.excludes hstart hother hsecond

/-- What the statements that alter a table begin with. -/
def Statement.alterationStart : String := "ALTER TABLE "

/-- Whether a statement alters a table. -/
def Statement.IsAlteration (statement : Statement) : Prop :=
  StartsWith alterationStart statement.sql

instance : DecidablePred Statement.IsAlteration := fun statement =>
  inferInstanceAs (Decidable (StartsWith _ statement.sql))

/-! ## Statements besides those of a declaration -/

theorem not_isAlteration_setup (config : Config) :
    ∀ statement ∈ config.setup, ¬ statement.IsAlteration := by
  refine forall_mem_setup ?_ config
  rintro (_ | _) (_ | (_ | _ | _ | _ | _ | _)) <;> decide

/-- The question for the columns of a table. -/
def Database.columnQuestion (table : String) : Statement :=
  ⟨s!"PRAGMA table_info({table})", []⟩

/-- What the question for the columns begins with. -/
def Database.columnQuestionStart : String := "PRAGMA table_info("

theorem startsWith_columnQuestion (table : String) :
    StartsWith Database.columnQuestionStart (Database.columnQuestion table).sql :=
  ((StartsWith.refl Database.columnQuestionStart).append _).append _

theorem not_isAlteration_columnQuestion (table : String) :
    ¬ (Database.columnQuestion table).IsAlteration :=
  (startsWith_columnQuestion table).excludes (by decide) (by decide)

theorem not_isAlteration_tableCount (table : String) :
    ¬ (Database.tableCount table).IsAlteration :=
  show ¬ (Database.tableCount "").IsAlteration by decide

/-! ## Batches -/

/-- A text drops or creates an index of a table. -/
def Table.HasIndexText (table : Table) (sql : String) : Prop :=
  ∃ index ∈ table.indexes, ∃ texts, index.recreation = .ok texts ∧ sql ∈ texts

namespace Table

variable {table : Table} {missing : List Column} {statements : List Statement}

/-- A creation batch creates the table first. -/
theorem of_creationStatements (h : table.creationStatements = .ok statements) :
    ∃ creation indexes, table.creation = .ok creation ∧ (∀ sql ∈ indexes, table.HasIndexText sql) ∧
      statements = (creation :: indexes).map fun sql => ⟨sql, []⟩ := by
  obtain ⟨creation, hcreation, h⟩ := exists_of_bind_eq_ok h
  obtain ⟨indexes, hindexes, h⟩ := exists_of_bind_eq_ok h
  cases h
  refine ⟨creation, indexes, hcreation, ?_, rfl⟩
  refine forall_of_mapM_eq_ok (fun index hindex sql hsql => ?_) hindexes
  refine ⟨index, hindex, [Index.removal index.name, sql], ?_, by simp⟩
  rw [Index.recreation, hsql]
  rfl

theorem hasIndexText_of_recreations {texts : List (List String)}
    (h : table.indexes.mapM Index.recreation = .ok texts) :
    ∀ sql ∈ texts.flatten, table.HasIndexText sql := by
  intro sql hsql
  obtain ⟨recreation, hrecreation, hmem⟩ := List.mem_flatten.mp hsql
  have hfrom : ∀ texts' ∈ texts, ∃ index ∈ table.indexes, index.recreation = .ok texts' :=
    forall_of_mapM_eq_ok (fun index hindex texts' hready => ⟨index, hindex, hready⟩) h
  obtain ⟨index, hindex, hready⟩ := hfrom recreation hrecreation
  exact ⟨index, hindex, recreation, hready, hmem⟩

/-- An alteration batch adds the columns first, in their order. -/
theorem of_alterationStatements (h : table.alterationStatements missing = .ok statements) :
    ∃ additions indexes,
      List.Forall₂ (fun column sql => column.addition table.name = .ok sql) missing additions ∧
      (∀ sql ∈ indexes, table.HasIndexText sql) ∧
      statements = (additions ++ indexes).map fun sql => ⟨sql, []⟩ := by
  obtain ⟨additions, hadditions, h⟩ := exists_of_bind_eq_ok h
  obtain ⟨indexes, hindexes, h⟩ := exists_of_bind_eq_ok h
  cases h
  exact ⟨additions, indexes.flatten, mapM_eq_ok_iff.mp hadditions,
    hasIndexText_of_recreations hindexes, rfl⟩

end Table

/-! ## Which of them alter the table -/

/-- What the texts for indexes begin with. -/
def Index.starts : List String :=
  ["DROP INDEX IF EXISTS ", "CREATE INDEX IF NOT EXISTS ", "CREATE UNIQUE INDEX IF NOT EXISTS "]

theorem Index.exists_start_of_creation {index : Index} {sql : String}
    (h : index.creation = .ok sql) : ∃ start ∈ starts, StartsWith start sql := by
  unfold Index.creation at h
  split at h
  · cases h
  · cases h
    cases index.unique with
    | false =>
        refine ⟨"CREATE " ++ "" ++ "INDEX IF NOT EXISTS ", by decide, ?_⟩
        exact ((((((StartsWith.refl _).append _).append _).append _).append _).append _).append _
    | true =>
        refine ⟨"CREATE " ++ "UNIQUE " ++ "INDEX IF NOT EXISTS ", by decide, ?_⟩
        exact ((((((StartsWith.refl _).append _).append _).append _).append _).append _).append _

theorem Table.HasIndexText.exists_start {table : Table} {sql : String}
    (h : table.HasIndexText sql) : ∃ start ∈ Index.starts, StartsWith start sql := by
  obtain ⟨index, -, texts, htexts, hsql⟩ := h
  obtain ⟨creation, hcreation, htexts⟩ := exists_of_bind_eq_ok htexts
  cases htexts
  rcases List.mem_cons.mp hsql with rfl | hsql
  · exact ⟨"DROP INDEX IF EXISTS ", by decide, (StartsWith.refl _).append _⟩
  · rw [List.mem_singleton.mp hsql]
    exact Index.exists_start_of_creation hcreation

theorem Table.HasIndexText.not_isAlteration {table : Table} {sql : String}
    (h : table.HasIndexText sql) : ¬ Statement.IsAlteration ⟨sql, []⟩ := by
  obtain ⟨start, hmem, hstart⟩ := h.exists_start
  have hdiffers : ∀ start ∈ Index.starts, ¬ StartsWith start Statement.alterationStart ∧
      ¬ StartsWith Statement.alterationStart start := by decide
  exact hstart.excludes (hdiffers start hmem).1 (hdiffers start hmem).2

/-- What the texts that create a table begin with. -/
def Table.creationStart : String := "CREATE TABLE IF NOT EXISTS "

theorem Table.startsWith_creation {table : Table} {sql : String} (h : table.creation = .ok sql) :
    StartsWith creationStart sql := by
  unfold Table.creation at h
  split at h
  · cases h
  · obtain ⟨columns, -, h⟩ := exists_of_bind_eq_ok h
    obtain ⟨foreignKeys, -, h⟩ := exists_of_bind_eq_ok h
    cases h
    exact ((((StartsWith.refl creationStart).append _).append _).append _).append _

theorem Column.startsWith_addition {name : String} {column : Column} {sql : String}
    (h : column.addition name = .ok sql) : StartsWith Statement.alterationStart sql := by
  obtain ⟨definition, -, h⟩ := exists_of_bind_eq_ok h
  cases h
  exact (((StartsWith.refl Statement.alterationStart).append _).append _).append _

theorem not_isAlteration_creationStatements {table : Table} {statements : List Statement}
    (h : table.creationStatements = .ok statements) :
    ∀ statement ∈ statements, ¬ statement.IsAlteration := by
  obtain ⟨creation, indexes, hcreation, hindexes, rfl⟩ := Table.of_creationStatements h
  refine List.forall_mem_map.mpr (List.forall_mem_cons.mpr
    ⟨?_, fun sql hsql => (hindexes sql hsql).not_isAlteration⟩)
  exact (Table.startsWith_creation hcreation).excludes (by decide) (by decide)

/-- The alterations of an alteration batch add the missing columns. -/
theorem exists_missing_of_isAlteration {table : Table} {missing : List Column}
    {statements : List Statement} (h : table.alterationStatements missing = .ok statements) :
    ∀ statement ∈ statements, statement.IsAlteration →
      ∃ column ∈ missing, column.addition table.name = .ok statement.sql := by
  obtain ⟨additions, indexes, hadditions, hindexes, rfl⟩ := Table.of_alterationStatements h
  have hfrom : ∀ sql ∈ additions, ∃ column ∈ missing, column.addition table.name = .ok sql :=
    forall_of_mapM_eq_ok (fun column hcolumn sql hsql => ⟨column, hcolumn, hsql⟩)
      (mapM_eq_ok_iff.mpr hadditions)
  refine List.forall_mem_map.mpr (List.forall_mem_append.mpr ⟨fun sql hsql _ => ?_, ?_⟩)
  · exact hfrom sql hsql
  · exact fun sql hsql halters => absurd halters (hindexes sql hsql).not_isAlteration

end SqlAccess
