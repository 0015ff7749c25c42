import SqlAccess.Proofs.Engine.Transactional
import SqlAccess.Proofs.Row.Lookup
import SqlAccess.Proofs.Schema.Live
import SqlAccess.Proofs.Schema.Statements

/-!
# Engines with a schema

A transactional engine among whose data there are tables.  What it takes the statements
about a table for is said for each kind of statement (`Understands`): the engine finds
tables and columns by their names in any spelling, except that the question how many
tables have a name compares it as it is spelled.

Nothing is said of a statement that fails, so each of them may fail for any reason.  All
statements that are submitted are remembered in the order in which they come.
-/

namespace SqlAccess

/-- An engine with transactions on data among which there are tables. -/
structure SchemaEngine (ω δ : Type) [Engine ω] extends TransactionalEngine ω δ where
  /-- The tables among the data. -/
  live : δ → LiveSchema
  /-- The statements that were submitted so far. -/
  submitted : ω → List Statement
  submitted_execute : ∀ handle statement world,
    submitted (Engine.execute handle statement world).2 = submitted world ++ [statement]
  submitted_connect : ∀ path timeout world,
    submitted (Engine.connect path timeout world).2 = submitted world
  submitted_close : ∀ handle world, submitted (Engine.close handle world).2 = submitted world
  not_controls_of_opens : ∀ {statement : Statement}, Opens statement.sql → ¬ controls statement

/-- The columns of the answer to the question for the columns of a table. -/
def ColumnInfo.fieldNames : List String :=
  ["cid", "name", "type", "notnull", "dflt_value", "pk"]

/-- A row of the answer tells of a column of this name. -/
inductive ColumnInfo.Tells (column : String) : List Value → Prop where
  | intro (position : Int) (type : String) (notNull : Int) (default : Option String)
      (keyPosition : Int) :
    Tells column [.int position, .text column, .text type, .int notNull,
      (default.map .text).getD .null, .int keyPosition]

theorem ColumnInfo.ofCells_fieldNames
    (position column type notNull default keyPosition : Value) :
    Row.ofCells fieldNames [position, column, type, notNull, default, keyPosition] =
      ⟨[("cid", position), ("name", column), ("type", type), ("notnull", notNull),
        ("dflt_value", default), ("pk", keyPosition)]⟩ := by
  have hanswers : fieldNames.Pairwise fun first second =>
      Row.answersTo first second = false := by decide +kernel
  exact Row.ofCells_eq_zip hanswers rfl

/-- A row that tells of a column is read as this column. -/
theorem ColumnInfo.Tells.exists_ofRow {column : String} {cells : List Value}
    (h : Tells column cells) :
    ∃ info, ofRow (Row.ofCells fieldNames cells) = .ok info ∧ info.name = column := by
  obtain ⟨position, type, notNull, default, keyPosition⟩ := h
  have htype : (if (Value.text type).truth then Value.text type else .text "") = .text type := by
    by_cases hempty : type = "" <;> simp [Value.truth, hempty]
  have hread : ofRow ⟨[("cid", .int position), ("name", .text column),
      ("type", .text type), ("notnull", .int notNull),
      ("dflt_value", (default.map .text).getD .null), ("pk", .int keyPosition)]⟩ =
    (reader (.object [("name", .text column),
      ("type", if (Value.text type).truth then .text type else .text ""),
      ("nullable", .bool !(Value.int notNull).truth), ("default", (default.map .text).getD .null),
      ("primary_key", .int keyPosition)])).toExcept := rfl
  refine ⟨⟨column, type, !(Value.int notNull).truth, default, keyPosition⟩, ?_, rfl⟩
  rw [ofCells_fieldNames, hread, htype]
  cases default with
  | none => rfl
  | some text => rfl

theorem ColumnInfo.exists_ofRows {columns : List String} {rows : List (List Value)}
    (h : List.Forall₂ Tells columns rows) :
    ∃ infos, ofRows (rows.map (Row.ofCells fieldNames)) = .ok infos ∧ infos.map name = columns := by
  induction h with
  | nil => exact ⟨[], rfl, rfl⟩
  | cons htells _ ih =>
      obtain ⟨info, hinfo, hname⟩ := htells.exists_ofRow
      obtain ⟨infos, hinfos, hnames⟩ := ih
      refine ⟨info :: infos, ?_, by rw [List.map_cons, hname, hnames]⟩
      unfold ofRows at hinfos ⊢
      rw [List.map_cons, List.mapM_cons, hinfo, hinfos]
      rfl

/-- The engine takes the statements about a table for what they are meant to be. -/
structure SchemaEngine.Understands {ω δ : Type} [Engine ω] (engine : SchemaEngine ω δ)
    (table : Table) : Prop where
  /-- The name is compared as it is spelled. -/
  counts : ∀ {data result changed},
    engine.effect (Database.tableCount table.name) data result changed →
    changed = data ∧ result.columns = ["_count_"] ∧
      result.rows = [[.int ((engine.live data).count table.name)]]
  lists : ∀ {data result changed},
    engine.effect (Database.columnQuestion table.name) data result changed →
    changed = data ∧ result.columns = ColumnInfo.fieldNames ∧
      List.Forall₂ ColumnInfo.Tells ((engine.live data).columns table.name) result.rows
  /-- Nothing is created if the table exists. -/
  creates : ∀ {sql data result changed}, table.creation = .ok sql →
    engine.effect ⟨sql, []⟩ data result changed →
    engine.live changed = (engine.live data).create ⟨table.name, table.columnNames⟩
  /-- A column can be added only if the table does not have it. -/
  adds : ∀ {column sql data result changed}, column ∈ table.columns →
    column.addition table.name = .ok sql → engine.effect ⟨sql, []⟩ data result changed →
    (engine.live data).add table.name column.name = some (engine.live changed)
  /-- Dropping and creating indexes leaves the tables alone. -/
  indexes : ∀ {sql data result changed}, table.HasIndexText sql →
    engine.effect ⟨sql, []⟩ data result changed → engine.live changed = engine.live data

end SqlAccess
