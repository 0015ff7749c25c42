import Mathlib.Data.List.Forall2
import SqlAccess.Catalog
import SqlAccess.Entity.Saving
import SqlAccess.Migration
import SqlAccess.Schema
import SqlAccess.Schema.Copy
import SqlAccess.Session.Opening

/-!
# Plain statements

A statement controls transactions if its text is one of those that bracket a
transaction, and is plain otherwise.  Each statement of this library that is not a
bracket is plain, since its text opens with a keyword that no bracket opens with
(`isPlain_of_opens`): whatever names and conditions are written into the text,
they come after the keyword.
-/

namespace SqlAccess

namespace Statement

/-- Whether the text of a statement is one of those that bracket a transaction. -/
def Controls (statement : Statement) : Prop :=
  statement.sql ∈ [beginning.sql, commit.sql, rollback.sql]

instance : DecidablePred Controls := fun _ => inferInstanceAs (Decidable (_ ∈ _))

/-- Whether a statement leaves the transactions to others. -/
def IsPlain (statement : Statement) : Prop :=
  ¬ statement.Controls

instance : DecidablePred IsPlain := fun _ => inferInstanceAs (Decidable (¬ _))

theorem isPlain_iff {statement : Statement} :
    statement.IsPlain ↔ statement.sql ≠ beginning.sql ∧ statement.sql ≠ commit.sql ∧
      statement.sql ≠ rollback.sql := by
  simp only [IsPlain, Controls, List.mem_cons, List.not_mem_nil, or_false, not_or, ne_eq]

end Statement

open Statement (IsPlain)

/-! ## Openers -/

/-- What the texts of this library open with, brackets apart. -/
def openers : List String :=
  ["SELECT", "INSERT INTO ", "REPLACE INTO ", "UPDATE ", "DELETE FROM ", "CREATE ", "ALTER TABLE ",
    "DROP ", "PRAGMA "]

/-- A text opens with one of the keywords. -/
def Opens (sql : String) : Prop :=
  ∃ opener ∈ openers, opener.toList <+: sql.toList

instance : DecidablePred Opens := fun _ => inferInstanceAs (Decidable (∃ _ ∈ openers, _))

theorem Opens.append {start : String} (h : Opens start) (rest : String) :
    Opens (start ++ rest) := by
  obtain ⟨opener, hopener, hstart⟩ := h
  refine ⟨opener, hopener, ?_⟩
  rw [String.toList_append]
  exact hstart.trans (List.prefix_append _ _)

theorem isPlain_of_opens {statement : Statement} (h : Opens statement.sql) :
    statement.IsPlain := by
  obtain ⟨opener, hopener, hstart⟩ := h
  -- neither of the two texts is the start of the other one
  have hbrackets : ∀ opener ∈ openers, ∀ bracket ∈
      [Statement.beginning.sql, Statement.commit.sql, Statement.rollback.sql],
      ¬ opener.toList <+: bracket.toList := by decide
  exact fun hcontrols => hbrackets opener hopener _ hcontrols hstart

/-! ## Results that are there -/

theorem exists_of_bind_eq_ok {ε α β : Type} {result : Except ε α} {next : α → Except ε β} {b : β}
    (h : (result >>= next) = .ok b) : ∃ a, result = .ok a ∧ next a = .ok b := by
  cases result with
  | error e => cases h
  | ok a => exact ⟨a, rfl, h⟩

theorem exists_bind_iff {ε α β : Type} {result : Except ε α} {next : α → Except ε β} :
    (∃ b, (result >>= next) = .ok b) ↔ ∃ a, result = .ok a ∧ ∃ b, next a = .ok b := by
  constructor
  · rintro ⟨b, h⟩
    obtain ⟨a, ha, hb⟩ := exists_of_bind_eq_ok h
    exact ⟨a, ha, b, hb⟩
  · rintro ⟨a, rfl, b, hb⟩
    exact ⟨b, hb⟩

theorem exists_pure {ε β : Type} (b : β) : ∃ value, (pure b : Except ε β) = .ok value :=
  ⟨b, rfl⟩

/-- A sequence of results is there if each of them is. -/
theorem mapM_eq_ok_iff {ε α β : Type} {f : α → Except ε β} {items : List α} {values : List β} :
    items.mapM f = .ok values ↔
      List.Forall₂ (fun item value => f item = .ok value) items values := by
  induction items generalizing values with
  | nil =>
      rw [List.mapM_nil, List.forall₂_nil_left_iff]
      exact ⟨fun h => (Except.ok.inj h).symm, fun h => h ▸ rfl⟩
  | cons item items ih =>
      rw [List.mapM_cons, List.forall₂_cons_left_iff]
      constructor
      · intro h
        obtain ⟨value, hvalue, h⟩ := exists_of_bind_eq_ok h
        obtain ⟨rest, hrest, h⟩ := exists_of_bind_eq_ok h
        exact ⟨value, rest, hvalue, ih.mp hrest, (Except.ok.inj h).symm⟩
      · rintro ⟨value, rest, hvalue, hrest, rfl⟩
        rw [hvalue, ih.mpr hrest]
        rfl

theorem exists_mapM_eq_ok {ε α β : Type} {f : α → Except ε β} {holds : α → β → Prop}
    {items : List α} (h : ∀ item ∈ items, ∃ value, f item = .ok value ∧ holds item value) :
    ∃ values, items.mapM f = .ok values ∧ List.Forall₂ holds items values := by
  induction items with
  | nil => exact ⟨[], rfl, .nil⟩
  | cons item items ih =>
      rw [List.forall_mem_cons] at h
      obtain ⟨⟨value, hvalue, hholds⟩, hrest⟩ := h
      obtain ⟨values, hvalues, hall⟩ := ih hrest
      exact ⟨value :: values, by rw [List.mapM_cons, hvalue, hvalues]; rfl, .cons hholds hall⟩

/-- What each result keeps of its item, all of them keep in order. -/
theorem map_eq_of_mapM_eq_ok {ε α β γ : Type} {f : α → Except ε β} {before : α → γ}
    {after : β → γ} (hsame : ∀ item value, f item = .ok value → before item = after value)
    {items : List α} {values : List β} (h : items.mapM f = .ok values) :
    items.map before = values.map after := by
  have hall : List.Forall₂ (· = ·) (items.map before) (values.map after) :=
    List.forall₂_map_left_iff.mpr
      (List.forall₂_map_right_iff.mpr ((mapM_eq_ok_iff.mp h).imp hsame))
  rwa [List.forall₂_eq_eq_eq] at hall

theorem exists_mem_of_mapM_eq_ok {ε α β : Type} {f : α → Except ε β} {items : List α}
    {values : List β} (h : items.mapM f = .ok values) {item : α} (hitem : item ∈ items) :
    ∃ value ∈ values, f item = .ok value := by
  have hall := mapM_eq_ok_iff.mp h
  induction hall with
  | nil => exact absurd hitem List.not_mem_nil
  | @cons first value others rest hvalue hrest ih =>
      rcases List.mem_cons.mp hitem with rfl | hother
      · exact ⟨value, List.mem_cons_self, hvalue⟩
      · obtain ⟨other, hmem, hfound⟩ := ih (mapM_eq_ok_iff.mpr hrest) hother
        exact ⟨other, List.mem_cons_of_mem _ hmem, hfound⟩

theorem exists_mapM_iff {ε α β : Type} {f : α → Except ε β} {items : List α} :
    (∃ values, items.mapM f = .ok values) ↔ ∀ item ∈ items, ∃ value, f item = .ok value := by
  constructor
  · rintro ⟨values, hvalues⟩ item hitem
    obtain ⟨value, -, hvalue⟩ := exists_mem_of_mapM_eq_ok hvalues hitem
    exact ⟨value, hvalue⟩
  · intro h
    have hall : ∀ item ∈ items, ∃ value, f item = .ok value ∧ f item = .ok value := by
      simpa only [and_self] using h
    obtain ⟨values, hvalues, -⟩ := exists_mapM_eq_ok hall
    exact ⟨values, hvalues⟩

/-- A sequence of results fails as one of them does. -/
theorem exists_of_mapM_eq_error {ε α β : Type} {f : α → Except ε β} {items : List α} {error : ε}
    (h : items.mapM f = .error error) : ∃ item ∈ items, f item = .error error := by
  induction items with
  | nil => cases h
  | cons item items ih =>
      rw [List.mapM_cons] at h
      cases hitem : f item with
      | error other =>
          rw [hitem] at h
          obtain rfl := Except.error.inj h
          exact ⟨item, List.mem_cons_self, hitem⟩
      | ok value =>
          cases hitems : items.mapM f with
          | error other =>
              rw [hitem, hitems] at h
              obtain rfl := Except.error.inj h
              obtain ⟨found, hmem, hfound⟩ := ih hitems
              exact ⟨found, List.mem_cons_of_mem _ hmem, hfound⟩
          | ok values =>
              rw [hitem, hitems] at h
              cases h

theorem forall_right_of_forall₂ {α β : Type} {relates : α → β → Prop} {holds : β → Prop}
    (hholds : ∀ item value, relates item value → holds value) {items : List α} {values : List β}
    (h : List.Forall₂ relates items values) : ∀ value ∈ values, holds value := by
  induction h with
  | nil => simp
  | cons hfirst _ ih => exact List.forall_mem_cons.mpr ⟨hholds _ _ hfirst, ih⟩

theorem forall_of_mapM_eq_ok {ε α β : Type} {f : α → Except ε β} {holds : β → Prop}
    {items : List α} (hf : ∀ a ∈ items, ∀ b, f a = .ok b → holds b) {values : List β}
    (h : items.mapM f = .ok values) : ∀ value ∈ values, holds value := by
  induction items generalizing values with
  | nil =>
      cases h
      simp
  | cons item items ih =>
      rw [List.mapM_cons] at h
      obtain ⟨value, hvalue, h⟩ := exists_of_bind_eq_ok h
      obtain ⟨rest, hrest, h⟩ := exists_of_bind_eq_ok h
      cases h
      rw [List.forall_mem_cons] at hf
      exact List.forall_mem_cons.mpr ⟨hf.1 value hvalue, ih hf.2 hrest⟩

/-! ## The statements of this library -/

theorem isPlain_rowMarker : IsPlain Statement.rowMarker := by decide +kernel

theorem isPlain_versionQuestion : IsPlain Database.versionQuestion := by decide

theorem isPlain_versionUpdate (version : Int) : IsPlain (Database.versionUpdate version) :=
  isPlain_of_opens ((show Opens "PRAGMA user_version = " by decide).append _)

theorem isPlain_tableCount (table : String) : IsPlain (Database.tableCount table) :=
  show IsPlain ⟨(Database.tableCount "").sql, []⟩ by decide +kernel

theorem isPlain_tableList : IsPlain Database.tableList := by decide +kernel

/-- Every question of the catalog with a name in brackets. -/
theorem isPlain_pragma {question : String} (hquestion : Opens question) (name : String) :
    IsPlain ⟨question ++ name ++ ")", []⟩ :=
  isPlain_of_opens ((hquestion.append name).append ")")

theorem isPlain_removal (table : String) (clause : Option String) (args : List Value) :
    IsPlain (Statement.removal table clause args) :=
  isPlain_of_opens ((((show Opens "DELETE FROM " by decide).append _).append _).append _)

theorem isPlain_assignment (table : String) (items : List (String × Value))
    (clause : Option String) (args : List Value) :
    IsPlain (Statement.assignment table items clause args) :=
  isPlain_of_opens
    ((((((show Opens "UPDATE " by decide).append _).append _).append _).append _).append _)

theorem isPlain_insertion (table : String) (columns : List String) (rows : List (List Value)) :
    IsPlain (Statement.insertion table columns rows) :=
  isPlain_of_opens
    (((((((show Opens "INSERT INTO " by decide).append _).append _).append _).append _).append
      _).append _)

theorem isPlain_copyRows (source target : String) (columns : List String) :
    IsPlain (Statement.copyRows source target columns) :=
  isPlain_of_opens
    ((((((((show Opens "INSERT INTO " by decide).append _).append _).append _).append _).append
      _).append _).append _)

theorem isPlain_count (table : String) :
    IsPlain ⟨s!"SELECT COUNT(*) AS _count_ FROM {table}", []⟩ :=
  isPlain_of_opens ((show Opens "SELECT COUNT(*) AS _count_ FROM " by decide).append _)

/-- A statement with parameters is as plain as its text. -/
theorem isPlain_withParams {sql : String} {params : Value} {statement : Statement}
    (hplain : IsPlain ⟨sql, []⟩) (h : Statement.withParams sql params = .ok statement) :
    statement.IsPlain := by
  obtain ⟨values, -, h⟩ := exists_of_bind_eq_ok h
  cases h
  exact hplain

theorem isPlain_insert {table : String} {record : Record} {statement : Statement}
    (h : Statement.insert table record = .ok statement) : statement.IsPlain := by
  obtain ⟨items, -, h⟩ := exists_of_bind_eq_ok h
  split at h
  · cases h
  · cases h
    exact isPlain_insertion _ _ _

/-- What an insertion of many rows was worded of. -/
theorem exists_of_insertMany_eq_ok {table : String} {fields rows : Value} {statement : Statement}
    (h : Statement.insertMany table fields rows = .ok statement) :
    ∃ values cells items columns, rows.sequence = .ok values ∧
      Statement.rowsFrom fields 0 values = .ok cells ∧ fields.sequence = .ok items ∧
      Value.listedFrom 0 items = .ok columns ∧
      statement = Statement.insertion table columns cells := by
  unfold Statement.insertMany at h
  cases hfields : fields.truth with
  | false =>
      rw [hfields] at h
      cases h
  | true =>
      cases hrows : rows.truth with
      | false =>
          rw [hfields, hrows] at h
          cases h
      | true =>
          rw [hfields, hrows] at h
          obtain ⟨values, hvalues, h⟩ := exists_of_bind_eq_ok h
          obtain ⟨cells, hcells, h⟩ := exists_of_bind_eq_ok h
          obtain ⟨items, hitems, h⟩ := exists_of_bind_eq_ok h
          obtain ⟨columns, hcolumns, h⟩ := exists_of_bind_eq_ok h
          cases h
          exact ⟨values, cells, items, columns, hvalues, hcells, hitems, hcolumns, rfl⟩

theorem isPlain_insertMany {table : String} {fields rows : Value} {statement : Statement}
    (h : Statement.insertMany table fields rows = .ok statement) : statement.IsPlain := by
  obtain ⟨-, cells, -, columns, -, -, -, -, rfl⟩ := exists_of_insertMany_eq_ok h
  exact isPlain_insertion _ _ _

theorem isPlain_update {table : String} {record : Record} {clause args : Value}
    {statement : Statement} (h : Statement.update table record clause args = .ok statement) :
    statement.IsPlain := by
  obtain ⟨items, -, h⟩ := exists_of_bind_eq_ok h
  split at h
  · cases h
  · obtain ⟨condition, -, h⟩ := exists_of_bind_eq_ok h
    obtain ⟨values, -, h⟩ := exists_of_bind_eq_ok h
    cases h
    exact isPlain_assignment _ _ _ _

theorem opens_select (parts : List String) : Opens (" ".intercalate ("SELECT" :: parts)) := by
  refine ⟨"SELECT", by decide, ?_⟩
  rw [String.toList_intercalate, List.map_cons]
  cases parts with
  | nil => exact List.prefix_refl _
  | cons part parts => exact List.prefix_append _ _

theorem isPlain_select {table : String} {query : Query} {statement : Statement}
    (h : Statement.select table query = .ok statement) : statement.IsPlain := by
  obtain ⟨page, -, h⟩ := exists_of_bind_eq_ok h
  cases h
  have hparts : ∃ parts, query.parts table ++ page = "SELECT" :: parts := by
    unfold Query.parts
    simp only [List.cons_append, List.append_assoc]
    exact ⟨_, rfl⟩
  obtain ⟨parts, hparts⟩ := hparts
  refine isPlain_of_opens ?_
  rw [hparts]
  exact opens_select parts

/-! ## The statements of schema changes -/

theorem opens_addition {table : String} {column : Column} {sql : String}
    (h : Column.addition table column = .ok sql) : Opens sql := by
  obtain ⟨definition, -, h⟩ := exists_of_bind_eq_ok h
  cases h
  exact (((show Opens "ALTER TABLE " by decide).append _).append _).append _

theorem opens_indexRemoval (name : String) : Opens (Index.removal name) :=
  (show Opens "DROP INDEX IF EXISTS " by decide).append _

theorem opens_indexCreation {index : Index} {sql : String} (h : index.creation = .ok sql) :
    Opens sql := by
  unfold Index.creation at h
  split at h
  · cases h
  · cases h
    exact ((((((((show Opens "CREATE " by decide).append _).append _).append _).append _).append
      _).append _).append _).append _

theorem opens_indexRecreation {index : Index} {texts : List String}
    (h : index.recreation = .ok texts) : ∀ sql ∈ texts, Opens sql := by
  obtain ⟨creation, hcreation, h⟩ := exists_of_bind_eq_ok h
  cases h
  exact List.forall_mem_cons.mpr ⟨opens_indexRemoval _,
    List.forall_mem_cons.mpr ⟨opens_indexCreation hcreation, nofun⟩⟩

theorem isPlain_tableRemoval (table : String) : IsPlain ⟨Table.removal table, []⟩ :=
  isPlain_of_opens ((show Opens "DROP TABLE IF EXISTS " by decide).append _)

theorem isPlain_of_forall_opens {texts : List String} (h : ∀ sql ∈ texts, Opens sql) :
    ∀ statement ∈ texts.map fun sql => (⟨sql, []⟩ : Statement), statement.IsPlain := by
  rw [List.forall_mem_map]
  exact fun sql hsql => isPlain_of_opens (h sql hsql)

theorem opens_creationStatements {table : Table} {statements : List Statement}
    (h : table.creationStatements = .ok statements) :
    ∀ statement ∈ statements, Opens statement.sql := by
  obtain ⟨creation, hcreation, h⟩ := exists_of_bind_eq_ok h
  obtain ⟨indexes, hindexes, h⟩ := exists_of_bind_eq_ok h
  cases h
  refine List.forall_mem_map.mpr (List.forall_mem_cons.mpr ⟨?_,
    forall_of_mapM_eq_ok (fun _ _ _ => opens_indexCreation) hindexes⟩)
  unfold Table.creation at hcreation
  split at hcreation
  · cases hcreation
  · obtain ⟨columns, -, hcreation⟩ := exists_of_bind_eq_ok hcreation
    obtain ⟨foreignKeys, -, hcreation⟩ := exists_of_bind_eq_ok hcreation
    cases hcreation
    exact ((((show Opens "CREATE TABLE IF NOT EXISTS " by decide).append _).append _).append
      _).append _

theorem isPlain_creationStatements {table : Table} {statements : List Statement}
    (h : table.creationStatements = .ok statements) :
    ∀ statement ∈ statements, statement.IsPlain :=
  fun statement hstatement => isPlain_of_opens (opens_creationStatements h statement hstatement)

theorem opens_alterationStatements {table : Table} {missing : List Column}
    {statements : List Statement} (h : table.alterationStatements missing = .ok statements) :
    ∀ statement ∈ statements, Opens statement.sql := by
  obtain ⟨additions, hadditions, h⟩ := exists_of_bind_eq_ok h
  obtain ⟨indexes, hindexes, h⟩ := exists_of_bind_eq_ok h
  cases h
  refine List.forall_mem_map.mpr (List.forall_mem_append.mpr
    ⟨forall_of_mapM_eq_ok (fun _ _ _ => opens_addition) hadditions, fun sql hsql => ?_⟩)
  obtain ⟨texts, htexts, hmem⟩ := List.mem_flatten.mp hsql
  exact forall_of_mapM_eq_ok (fun _ _ _ => opens_indexRecreation) hindexes texts htexts sql hmem

theorem isPlain_alterationStatements {table : Table} {missing : List Column}
    {statements : List Statement} (h : table.alterationStatements missing = .ok statements) :
    ∀ statement ∈ statements, statement.IsPlain :=
  fun statement hstatement => isPlain_of_opens (opens_alterationStatements h statement hstatement)

theorem isPlain_copyStatements {target : String} {columns : List ColumnInfo}
    {foreignKeys : List ForeignKeyInfo} {indexes : List IndexInfo} {statements : List Statement}
    (h : copyStatements target columns foreignKeys indexes = .ok statements) :
    ∀ statement ∈ statements, statement.IsPlain := by
  obtain ⟨creations, hcreations, h⟩ := exists_of_bind_eq_ok h
  cases h
  refine isPlain_of_forall_opens (List.forall_mem_cons.mpr ⟨?_,
    forall_of_mapM_eq_ok (fun _ _ _ => opens_indexCreation) hcreations⟩)
  exact ((((show Opens "CREATE TABLE IF NOT EXISTS " by decide).append _).append _).append
    _).append _

/-! ## The setup -/

/-- The setup depends on two of the settings only. -/
theorem forall_mem_setup {holds : Statement → Prop}
    (h : ∀ foreignKeys journalMode,
      ∀ statement ∈ Config.setup { foreignKeys, journalMode }, holds statement)
    (config : Config) : ∀ statement ∈ config.setup, holds statement :=
  h config.foreignKeys config.journalMode

theorem isPlain_setup (config : Config) : ∀ statement ∈ config.setup, statement.IsPlain := by
  refine forall_mem_setup ?_ config
  rintro (_ | _) (_ | (_ | _ | _ | _ | _ | _)) <;> decide

end SqlAccess
