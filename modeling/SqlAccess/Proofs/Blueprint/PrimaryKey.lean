import SqlAccess.Proofs.Blueprint.WellFormed
import SqlAccess.Proofs.Table.Definition

/-!
# Primary keys of converted tables

The primary key of a table is carried over if it has a single column, and then it is
this column that is marked (`Marks`).  So no more than one of the definitions says that
its column is the primary key.

A marked column is counted up if its table says so, whatever type it has.  The engine
counts up columns of the type `INTEGER` only.  It takes what a table is converted into
if the table is not counted up, or if its key is not a single column of another type
(`convert_primaryKey`); otherwise it refuses the definition (`convert_textKey`).
-/

namespace SqlAccess

namespace Column

/-- The keywords of a column's definition, which stand between its type and its default. -/
def keywords (column : Column) : List String :=
  (if column.primaryKey then ["PRIMARY KEY"] else [])
    ++ (if column.autoIncrement then ["AUTOINCREMENT"] else [])
    ++ [if column.nullable then "NULL" else "NOT NULL"]

/-- What the engine asks of a column that is counted up. -/
def IsCountable (column : Column) : Prop :=
  column.autoIncrement = true → column.primaryKey = true ∧ column.type = "INTEGER"

variable {column : Column}

theorem definition_eq (column : Column) : column.definition = (do
    let default ← column.defaultParts
    return " ".intercalate ([column.name, column.type] ++ column.keywords ++ default)) := by
  unfold definition keywords
  simp only [List.append_assoc]

theorem mem_keywords_iff : "PRIMARY KEY" ∈ column.keywords ↔ column.primaryKey = true := by
  unfold keywords
  cases column.primaryKey <;> cases column.autoIncrement <;> cases column.nullable <;> decide

end Column

namespace Blueprint

/-! ## Types that can be counted up -/

theorem TypeName.eq_integer_of_isPrefix {name : TypeName} {keyword : String}
    (hkeyword : name.keyword? = some keyword) (h : keyword.toList <+: "INTEGER".toList) :
    name = .integer := by
  cases name <;> cases hkeyword <;> first | rfl | exact absurd h (by decide)

/-- Only one type has the text `INTEGER`. -/
theorem ColumnType.sql_eq_integer_iff {type : ColumnType} :
    type.sql = .ok "INTEGER" ↔ type.typeName = .ok .integer := by
  constructor
  · intro h
    obtain ⟨name, hname, hrest⟩ := exists_of_bind_eq_ok h
    rw [hname]
    cases hkeyword : name.keyword? with
    | none =>
        rw [hkeyword] at hrest
        cases hrest
    | some keyword =>
        rw [hkeyword] at hrest
        obtain ⟨suffix, -, htext⟩ := exists_of_bind_eq_ok hrest
        have hprefix : keyword.toList <+: "INTEGER".toList := by
          rw [← Except.ok.inj htext, String.toList_append]
          exact List.prefix_append _ _
        rw [TypeName.eq_integer_of_isPrefix hkeyword hprefix]
  · intro h
    unfold sql
    rw [h]
    rfl

/-! ## Marked columns -/

variable {tables : List Table} {table : Table} {column : Column} {spec : SqlAccess.Table}

/-- How the column of a table is marked in the converted table. -/
structure Marks (table : Table) (column : Column) (converted : SqlAccess.Column) : Prop where
  name_eq : converted.name = column.name
  type_eq : column.type.sql = .ok converted.type
  primaryKey_iff : converted.primaryKey = true ↔ table.primaryKey = [column]
  autoIncrement_iff : converted.autoIncrement = true ↔
    converted.primaryKey = true ∧ table.autoIncrement = true

theorem mem_primaryKey : column ∈ table.primaryKey ↔
    column ∈ table.columns ∧ column.primaryKey = true :=
  List.mem_filter

theorem primaryKey_eq_singleton_iff (hcolumn : column ∈ table.columns) :
    table.primaryKey = [column] ↔
      (table.primaryKey.length == 1 && column.primaryKey) = true := by
  rw [Bool.and_eq_true, beq_iff_eq]
  constructor
  · intro h
    have hmem : column ∈ table.primaryKey := h ▸ List.mem_cons_self
    exact ⟨congrArg List.length h, (mem_primaryKey.mp hmem).2⟩
  · rintro ⟨hone, hkey⟩
    obtain ⟨other, hother⟩ := List.length_eq_one_iff.mp hone
    have hmem := mem_primaryKey.mpr ⟨hcolumn, hkey⟩
    rw [hother, List.mem_singleton] at hmem
    rw [hother, hmem]

theorem marks_of_convertColumn (hcolumn : column ∈ table.columns) {converted : SqlAccess.Column}
    (h : table.convertColumn column = .ok converted) : Marks table column converted := by
  obtain ⟨type, htype, hconverted⟩ := exists_of_bind_eq_ok h
  obtain rfl := Except.ok.inj hconverted
  refine ⟨rfl, htype, (primaryKey_eq_singleton_iff hcolumn).symm, ?_⟩
  exact Bool.and_eq_true_iff.trans and_comm

theorem mapM_convertColumn (h : table.convert tables = .ok spec) :
    table.columns.mapM table.convertColumn = .ok spec.columns := by
  obtain ⟨columns, hcolumns, hrest⟩ := exists_of_bind_eq_ok h
  obtain ⟨_, -, hspec⟩ := exists_of_bind_eq_ok hrest
  rwa [← Except.ok.inj hspec]

theorem marks_of_convert (h : table.convert tables = .ok spec) :
    List.Forall₂ (Marks table) table.columns spec.columns := by
  obtain ⟨hlength, hall⟩ := List.forall₂_iff_zip.mp (mapM_eq_ok_iff.mp (mapM_convertColumn h))
  refine List.forall₂_iff_zip.mpr ⟨hlength, fun {column converted} hmem => ?_⟩
  exact marks_of_convertColumn (List.of_mem_zip hmem).1 (hall hmem)

/-- No more than one column is marked. -/
theorem length_primaryKey_le (h : table.convert tables = .ok spec) :
    (spec.columns.filter SqlAccess.Column.primaryKey).length ≤ 1 := by
  let alone (column : Column) : Bool := table.primaryKey.length == 1 && column.primaryKey
  have hmarks : table.columns.map alone = spec.columns.map SqlAccess.Column.primaryKey := by
    refine map_eq_of_mapM_eq_ok (fun column converted hconverted => ?_) (mapM_convertColumn h)
    obtain ⟨_, -, hmade⟩ := exists_of_bind_eq_ok hconverted
    rw [← Except.ok.inj hmade]
  have hcount : (spec.columns.filter SqlAccess.Column.primaryKey).length =
      (table.columns.filter alone).length := by
    have hsame := congrArg (List.countP id) hmarks
    rw [List.countP_map, List.countP_map] at hsame
    rw [← List.countP_eq_length_filter, ← List.countP_eq_length_filter]
    exact hsame.symm
  rw [hcount]
  by_cases hone : table.primaryKey.length = 1
  · have hfilter : table.columns.filter alone = table.primaryKey :=
      List.filter_congr fun column _ => by simp [alone, hone]
    rw [hfilter, hone]
  · have hfilter : table.columns.filter alone = [] :=
      List.filter_eq_nil_iff.mpr fun column _ => by simp [alone, hone]
    rw [hfilter]
    exact Nat.zero_le 1

/-- The engine can count up what the table is converted into exactly if the type allows it. -/
theorem forall_isCountable_iff (h : table.convert tables = .ok spec) :
    (∀ converted ∈ spec.columns, converted.IsCountable) ↔
      (table.autoIncrement = true → ∀ column, table.primaryKey = [column] →
        column.type.typeName = .ok .integer) := by
  have hmarks := marks_of_convert h
  constructor
  · intro hcountable hcounted column hkey
    have hcolumn : column ∈ table.columns :=
      (mem_primaryKey.mp (hkey ▸ List.mem_cons_self)).1
    obtain ⟨converted, hmem, hconverted⟩ :=
      exists_mem_of_mapM_eq_ok (mapM_convertColumn h) hcolumn
    have hmark := marks_of_convertColumn hcolumn hconverted
    have hmarked := hmark.primaryKey_iff.mpr hkey
    obtain ⟨-, htype⟩ := hcountable converted hmem
      (hmark.autoIncrement_iff.mpr ⟨hmarked, hcounted⟩)
    rw [← ColumnType.sql_eq_integer_iff, hmark.type_eq, htype]
  · intro hinteger
    refine forall_right_of_forall₂ (fun column converted hmark hincrement => ?_) hmarks
    obtain ⟨hmarked, hcounted⟩ := hmark.autoIncrement_iff.mp hincrement
    have hname := hinteger hcounted column (hmark.primaryKey_iff.mp hmarked)
    have htype := hmark.type_eq
    rw [ColumnType.sql_eq_integer_iff.mpr hname, Except.ok.injEq] at htype
    exact ⟨hmarked, htype.symm⟩

/-- A column of a converted table is marked as primary key if it is all of the primary key, so
that no more than one definition says so.  A marked column is counted up if the table is, and
the engine takes this exactly if the type of the column is `INTEGER`. -/
theorem convert_primaryKey (h : table.convert tables = .ok spec) :
    List.Forall₂ (Marks table) table.columns spec.columns ∧
    (spec.columns.filter fun converted => "PRIMARY KEY" ∈ converted.keywords).length ≤ 1 ∧
    (∀ converted ∈ spec.columns, ∀ text, converted.definition = .ok text →
      ∃ default, converted.defaultParts = .ok default ∧
        text = " ".intercalate ([converted.name, converted.type] ++ converted.keywords
          ++ default)) ∧
    ((∀ converted ∈ spec.columns, converted.IsCountable) ↔
      (table.autoIncrement = true → ∀ column, table.primaryKey = [column] →
        column.type.typeName = .ok .integer)) := by
  refine ⟨marks_of_convert h, ?_, fun converted _ text htext => ?_, forall_isCountable_iff h⟩
  · simp only [Column.mem_keywords_iff, Bool.decide_eq_true]
    exact length_primaryKey_le h
  · rw [Column.definition_eq] at htext
    obtain ⟨default, hdefault, hmade⟩ := exists_of_bind_eq_ok htext
    exact ⟨default, hdefault, (Except.ok.inj hmade).symm⟩

/-- A table without foreign keys and indexes is converted column by column. -/
theorem convert_of_columns {columns : List SqlAccess.Column}
    (hkeys : table.allForeignKeys = []) (hindexes : table.allIndexes = [])
    (h : table.columns.mapM table.convertColumn = .ok columns) :
    table.convert tables = .ok { name := table.name, columns := columns } := by
  unfold Table.convert
  rw [h, hkeys, hindexes]
  simp only [sortedBy, List.map_nil, List.mergeSort_nil]
  rfl

/-- Tickets with a number that is counted up. -/
def tickets : Table where
  name := "tickets"
  columns := [{ name := "number", type := ⟨"Integer", []⟩, primaryKey := true },
    { name := "seat", type := ⟨"Text", []⟩ }]
  autoIncrement := true

/-- The number of a ticket can be counted up. -/
theorem convert_primaryKey_tickets : ∃ spec, tickets.convert [tickets] = .ok spec ∧
    List.Forall₂ (Marks tickets) tickets.columns spec.columns ∧
    (spec.columns.filter fun converted => "PRIMARY KEY" ∈ converted.keywords).length ≤ 1 ∧
    ∀ converted ∈ spec.columns, converted.IsCountable := by
  have hspec : tickets.convert [tickets] = .ok
      { name := "tickets"
        columns := [{ name := "number", type := "INTEGER", primaryKey := true,
                      autoIncrement := true },
          { name := "seat", type := "TEXT", nullable := true }] } :=
    convert_of_columns rfl rfl rfl
  obtain ⟨hmarks, hone, -, hcountable⟩ := convert_primaryKey hspec
  refine ⟨_, hspec, hmarks, hone, hcountable.mpr fun _ column hkey => ?_⟩
  obtain rfl := List.singleton_inj.mp hkey
  rfl

/-- Tags whose label is their primary key; it is to be counted up, but it is a text. -/
def tags : Table where
  name := "tags"
  columns := [{ name := "label", type := ⟨"Text", []⟩, primaryKey := true }]
  autoIncrement := true

/-- A text is marked to be counted up, and the engine does not take it. -/
theorem convert_textKey : ∃ spec converted, convertOne [tags] "tags" = .ok spec ∧
    spec.columns = [converted] ∧ converted.autoIncrement = true ∧ converted.type = "TEXT" ∧
    ¬ converted.IsCountable ∧
    converted.definition = .ok "label TEXT PRIMARY KEY AUTOINCREMENT NOT NULL" := by
  have hspec : tags.convert [tags] = .ok
      { name := "tags"
        columns := [{ name := "label", type := "TEXT", primaryKey := true,
                      autoIncrement := true }] } :=
    convert_of_columns rfl rfl rfl
  refine ⟨_, _, hspec, rfl, rfl, rfl, fun hcountable => ?_, rfl⟩
  exact absurd (hcountable rfl).2 (by decide)

end Blueprint

end SqlAccess
