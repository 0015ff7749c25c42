import SqlAccess.Proofs.Statement.Plain
import SqlAccess.Proofs.Table.Parts
import SqlAccess.Proofs.Validation.PlainData

/-!
# Declarations mean their last word

A declared table has one part for each step that adds one, in their order, and of each part
the last word holds: of what can be given to it (a default, columns, a table, an action) it has
what was given last, and a mark that can only be set was set if it ever was
(`Table.declared_means`).  What was said of a part is what the step that adds it says and what
later steps say at its position, so nothing that is said of one part matters for another.

That an index is unique is such a mark.  It is set with the columns of a unique index, and
other columns that are given later leave it as it is, so a unique index over `a` that is then
declared over `b` without a word about uniqueness is a unique index over `b`
(`Table.declared_staysUnique`).
-/

namespace SqlAccess

variable {δ α β : Type}

/-! ## Last words -/

/-- The last of the words of a kind among changes. -/
def lastWord (word? : α → Option β) (changes : List α) : Option β :=
  (changes.filterMap word?).getLast?

theorem lastWord_cons (word? : α → Option β) (c : α) (changes : List α) :
    lastWord word? (c :: changes) = (lastWord word? changes).or (word? c) := by
  unfold lastWord
  cases hword : word? c with
  | none => rw [List.filterMap_cons_none hword, Option.or_none]
  | some word =>
      rw [List.filterMap_cons_some hword, List.getLast?_cons]
      cases (changes.filterMap word?).getLast? <;> rfl

/-- A field that each change replaces by its word has the last one in the end. -/
theorem foldl_eq_lastWord {field : δ → β} {change : δ → α → δ} {word? : α → Option β}
    (hchange : ∀ part c, field (change part c) = (word? c).getD (field part))
    (changes : List α) (part : δ) :
    field (changes.foldl change part) = (lastWord word? changes).getD (field part) := by
  induction changes generalizing part with
  | nil => rfl
  | cons c changes ih =>
      rw [List.foldl_cons, ih, hchange, lastWord_cons]
      cases lastWord word? changes <;> rfl

/-- A mark that some changes set and none clears is there in the end if one of them was
made. -/
theorem foldl_eq_true_iff {mark : δ → Bool} {change : δ → α → δ} {sets : α → Prop}
    (hchange : ∀ part c, mark (change part c) = true ↔ mark part = true ∨ sets c)
    (changes : List α) (part : δ) :
    mark (changes.foldl change part) = true ↔ mark part = true ∨ ∃ c ∈ changes, sets c := by
  induction changes generalizing part with
  | nil => simp
  | cons c changes ih =>
      rw [List.foldl_cons, ih, hchange, List.exists_mem_cons_iff, or_assoc]

theorem foldl_eq_of_kept {field : δ → β} {change : δ → α → δ}
    (hchange : ∀ part c, field (change part c) = field part) (changes : List α) (part : δ) :
    field (changes.foldl change part) = field part := by
  induction changes generalizing part with
  | nil => rfl
  | cons c changes ih => rw [List.foldl_cons, ih, hchange]

/-! ## Columns -/

/-- The default that a change gives. -/
def ColumnChange.default? : ColumnChange → Option Value
  | .default value => some value
  | _ => none

/-- A column is what was said of it: the name and the type that it was added with, the marks
that were ever set, and the default that was given last. -/
structure Column.Means (words : (Value × Value) × List ColumnChange) (column : Column) :
    Prop where
  given_eq : words.1 = (.text column.name, .text column.type)
  primaryKey_iff : column.primaryKey = true ↔ .primaryKey ∈ words.2
  autoIncrement_iff : column.autoIncrement = true ↔ .autoIncrement ∈ words.2
  nullable_iff : column.nullable = true ↔ .nullable ∈ words.2
  default_eq : column.default = (lastWord ColumnChange.default? words.2).getD .null

/-- The name and the type of a column are texts. -/
structure ColumnDraft.IsTyped (draft : ColumnDraft) : Prop where
  name : ∃ name, draft.name = .text name
  type : ∃ type, draft.type = .text type

namespace ColumnDraft

variable (draft : ColumnDraft) (change : ColumnChange)

theorem name_change : (draft.change change).name = draft.name := by
  cases change <;> rfl

theorem type_change : (draft.change change).type = draft.type := by
  cases change <;> rfl

theorem default_change :
    (draft.change change).default = change.default?.getD draft.default := by
  cases change <;> rfl

theorem primaryKey_change :
    (draft.change change).primaryKey = true ↔
      draft.primaryKey = true ∨ change = .primaryKey := by
  cases change <;> simp [ColumnDraft.change]

theorem autoIncrement_change :
    (draft.change change).autoIncrement = true ↔
      draft.autoIncrement = true ∨ change = .autoIncrement := by
  cases change <;> simp [ColumnDraft.change]

theorem nullable_change :
    (draft.change change).nullable = true ↔ draft.nullable = true ∨ change = .nullable := by
  cases change <;> simp [ColumnDraft.change]

theorem finish_eq {draft : ColumnDraft} {name type : String} (hname : draft.name = .text name)
    (htype : draft.type = .text type) :
    draft.finish = .ok ⟨name, type, draft.primaryKey, draft.autoIncrement, draft.nullable,
      draft.default⟩ := by
  unfold finish
  rw [hname, htype]
  rfl

end ColumnDraft

theorem exists_column {words : (Value × Value) × List ColumnChange}
    (h : (columnKind.made words).IsTyped) :
    ∃ column, (columnKind.made words).finish = .ok column ∧ column.Means words := by
  obtain ⟨⟨name, hname⟩, type, htype⟩ := h
  obtain ⟨given, changes⟩ := words
  -- no change is about the name or the type, so they are texts as they were given
  have hkeptName := foldl_eq_of_kept ColumnDraft.name_change changes (columnKind.start given)
  have hkeptType := foldl_eq_of_kept ColumnDraft.type_change changes (columnKind.start given)
  have hgiven : given = (.text name, .text type) :=
    Prod.ext (hkeptName.symm.trans hname) (hkeptType.symm.trans htype)
  refine ⟨_, ColumnDraft.finish_eq hname htype, hgiven, ?_, ?_, ?_, ?_⟩
  · exact (foldl_eq_true_iff ColumnDraft.primaryKey_change changes _).trans (by simp [columnKind])
  · exact (foldl_eq_true_iff ColumnDraft.autoIncrement_change changes _).trans
      (by simp [columnKind])
  · exact (foldl_eq_true_iff ColumnDraft.nullable_change changes _).trans (by simp [columnKind])
  · exact foldl_eq_lastWord ColumnDraft.default_change changes _

/-! ## Foreign keys -/

namespace ForeignKeyChange

/-- The columns that a change gives. -/
def columns? : ForeignKeyChange → Option (List Value)
  | .columns names => some names
  | _ => none

/-- The table that a change gives. -/
def table? : ForeignKeyChange → Option Value
  | .table name => some name
  | _ => none

/-- The columns referred to that a change gives. -/
def references? : ForeignKeyChange → Option (List Value)
  | .references names => some names
  | _ => none

/-- The action that a change gives. -/
def onDelete? : ForeignKeyChange → Option Value
  | .onDelete action => some action
  | _ => none

end ForeignKeyChange

/-- A foreign key is what was said of it last. -/
structure ForeignKey.Means (words : Unit × List ForeignKeyChange) (key : ForeignKey) : Prop where
  columns_eq : key.columns.map .text =
    (lastWord ForeignKeyChange.columns? words.2).getD []
  table_eq : .ofOption .text key.table = (lastWord ForeignKeyChange.table? words.2).getD .null
  references_eq : key.references.map .text =
    (lastWord ForeignKeyChange.references? words.2).getD []
  onDelete_eq : .ofOption .text key.onDelete =
    (lastWord ForeignKeyChange.onDelete? words.2).getD .null

/-- What a foreign key names are texts; its table and its action may be absent. -/
structure ForeignKeyDraft.IsTyped (draft : ForeignKeyDraft) : Prop where
  columns : ∃ names : List String, draft.columns = names.map .text
  table : ∃ name : Option String, draft.table = .ofOption .text name
  references : ∃ names : List String, draft.references = names.map .text
  onDelete : ∃ action : Option String, draft.onDelete = .ofOption .text action

namespace ForeignKeyDraft

variable (draft : ForeignKeyDraft) (change : ForeignKeyChange)

theorem columns_change :
    (draft.change change).columns = change.columns?.getD draft.columns := by
  cases change <;> rfl

theorem table_change : (draft.change change).table = change.table?.getD draft.table := by
  cases change <;> rfl

theorem references_change :
    (draft.change change).references = change.references?.getD draft.references := by
  cases change <;> rfl

theorem onDelete_change :
    (draft.change change).onDelete = change.onDelete?.getD draft.onDelete := by
  cases change <;> rfl

theorem finish_eq {draft : ForeignKeyDraft} {columns references : List String}
    {table onDelete : Option String} (hcolumns : draft.columns = columns.map .text)
    (htable : draft.table = .ofOption .text table)
    (hreferences : draft.references = references.map .text)
    (honDelete : draft.onDelete = .ofOption .text onDelete) :
    draft.finish = .ok ⟨columns, table, references, onDelete⟩ := by
  have hread : ForeignKey.reader (.object [("columns", .list draft.columns),
      ("table", draft.table), ("references", .list draft.references),
      ("on_delete", draft.onDelete)]) =
        ForeignKey.mk <$> (Reader.list Reader.text (.list draft.columns)).under "columns"
          <*> (Reader.optional Reader.text draft.table).under "table"
          <*> (Reader.list Reader.text (.list draft.references)).under "references"
          <*> (Reader.optional Reader.text draft.onDelete).under "on_delete" := rfl
  rw [finish, hread, hcolumns, htable, hreferences, honDelete, list_text_eq, list_text_eq,
    optional_text_eq, optional_text_eq]
  rfl

end ForeignKeyDraft

theorem exists_foreignKey {words : Unit × List ForeignKeyChange}
    (h : (foreignKeyKind.made words).IsTyped) :
    ∃ key, (foreignKeyKind.made words).finish = .ok key ∧ key.Means words := by
  obtain ⟨⟨columns, hcolumns⟩, ⟨table, htable⟩, ⟨references, hreferences⟩, onDelete, honDelete⟩ := h
  refine ⟨_, ForeignKeyDraft.finish_eq hcolumns htable hreferences honDelete, ?_, ?_, ?_, ?_⟩
  · exact hcolumns.symm.trans (foldl_eq_lastWord ForeignKeyDraft.columns_change words.2 _)
  · exact htable.symm.trans (foldl_eq_lastWord ForeignKeyDraft.table_change words.2 _)
  · exact hreferences.symm.trans (foldl_eq_lastWord ForeignKeyDraft.references_change words.2 _)
  · exact honDelete.symm.trans (foldl_eq_lastWord ForeignKeyDraft.onDelete_change words.2 _)

/-! ## Indexes -/

/-- The columns that a change gives: both changes do. -/
def IndexChange.columns? : IndexChange → Option (List Value)
  | .columns names => some names
  | .unique names => some names

/-- An index has the name it was added with and the columns that were given last, and it is
unique if columns of a unique index were ever given. -/
structure Index.Means (table : String) (words : Value × List IndexChange) (index : Index) :
    Prop where
  given_eq : words.1 = .text index.name
  table_eq : index.table = table
  columns_eq : index.columns.map .text = (lastWord IndexChange.columns? words.2).getD []
  unique_iff : index.unique = true ↔ ∃ names, .unique names ∈ words.2

/-- The name of an index and its columns are texts. -/
structure IndexDraft.IsTyped (draft : IndexDraft) : Prop where
  name : ∃ name, draft.name = .text name
  columns : ∃ names : List String, draft.columns = names.map .text

namespace IndexDraft

variable (draft : IndexDraft) (change : IndexChange)

theorem name_change : (draft.change change).name = draft.name := by
  cases change <;> rfl

theorem columns_change :
    (draft.change change).columns = change.columns?.getD draft.columns := by
  cases change <;> rfl

/-- Columns without a word about uniqueness leave it as it was. -/
theorem unique_change :
    (draft.change change).unique = true ↔
      draft.unique = true ∨ ∃ names, change = .unique names := by
  cases change <;> simp [IndexDraft.change]

theorem finish_eq {draft : IndexDraft} {table name : String} {columns : List String}
    (hname : draft.name = .text name) (hcolumns : draft.columns = columns.map .text) :
    draft.finish (.text table) = .ok ⟨name, table, draft.unique, columns⟩ := by
  have hread : Index.reader (.object [("name", draft.name), ("table", .text table),
      ("unique", .bool draft.unique), ("columns", .list draft.columns)]) =
        Index.mk <$> (Reader.text draft.name).under "name"
          <*> (Reader.text (.text table)).under "table"
          <*> (Reader.flag (.bool draft.unique)).under "unique"
          <*> (Reader.list Reader.text (.list draft.columns)).under "columns" := rfl
  rw [finish, hread, hname, hcolumns, list_text_eq]
  rfl

end IndexDraft

theorem exists_index (table : String) {words : Value × List IndexChange}
    (h : (indexKind.made words).IsTyped) :
    ∃ index, (indexKind.made words).finish (.text table) = .ok index ∧
      index.Means table words := by
  obtain ⟨⟨name, hname⟩, columns, hcolumns⟩ := h
  refine ⟨_, IndexDraft.finish_eq hname hcolumns, ?_, rfl, ?_, ?_⟩
  · exact (foldl_eq_of_kept IndexDraft.name_change words.2 _).symm.trans hname
  · exact hcolumns.symm.trans (foldl_eq_lastWord IndexDraft.columns_change words.2 _)
  · exact (foldl_eq_true_iff IndexDraft.unique_change words.2 _).trans (by simp [indexKind])

/-! ## Tables -/

/-- No step gives up, and what the parts have in the end are texts where texts are asked
for. -/
structure Declaration.WellTyped (steps : List Declaration) : Prop where
  goes_on : ∀ fault, .fail fault ∉ steps
  columns : ∀ words ∈ columnKind.said steps, (columnKind.made words).IsTyped
  foreignKeys : ∀ words ∈ foreignKeyKind.said steps, (foreignKeyKind.made words).IsTyped
  indexes : ∀ words ∈ indexKind.said steps, (indexKind.made words).IsTyped

/-- Parts that can all be finished are finished in their order. -/
theorem exists_finished {ι γ : Type} {made : ι → δ} {finish : δ → Except Fault γ}
    {means : ι → γ → Prop} {said : List ι}
    (h : ∀ words ∈ said, ∃ part, finish (made words) = .ok part ∧ means words part) :
    ∃ parts, (said.map made).mapM finish = .ok parts ∧ List.Forall₂ means said parts := by
  obtain ⟨parts, hparts, hmeans⟩ := exists_mapM_eq_ok h
  refine ⟨parts, ?_, hmeans⟩
  rw [mapM_eq_ok_iff, List.forall₂_map_left_iff]
  exact mapM_eq_ok_iff.mp hparts

/-- Whatever steps declare, in whatever order, the table has the parts that were said, each as
it was said last. -/
theorem Table.declared_means (name : String) {steps : List Declaration}
    (h : Declaration.WellTyped steps) :
    ∃ table, Table.declared (.text name) steps = .ok table ∧ table.name = name ∧
      List.Forall₂ Column.Means (columnKind.said steps) table.columns ∧
      List.Forall₂ ForeignKey.Means (foreignKeyKind.said steps) table.foreignKeys ∧
      List.Forall₂ (Index.Means name) (indexKind.said steps) table.indexes := by
  obtain ⟨draft, hdraft⟩ := TableDraft.exists_declareAll h.goes_on {}
  obtain ⟨columns, hcolumns, hsaidColumns⟩ :=
    exists_finished fun words hwords => exists_column (h.columns words hwords)
  obtain ⟨keys, hkeys, hsaidKeys⟩ :=
    exists_finished fun words hwords => exists_foreignKey (h.foreignKeys words hwords)
  obtain ⟨indexes, hindexes, hsaidIndexes⟩ :=
    exists_finished fun words hwords => exists_index name (h.indexes words hwords)
  rw [← columnKind.parts_of_declareAll hdraft] at hcolumns
  rw [← foreignKeyKind.parts_of_declareAll hdraft] at hkeys
  rw [← indexKind.parts_of_declareAll hdraft] at hindexes
  refine ⟨⟨name, columns, keys, indexes⟩, ?_, rfl, hsaidColumns, hsaidKeys, hsaidIndexes⟩
  have hfinish : draft.finish (.text name) = .ok ⟨name, columns, keys, indexes⟩ := by
    unfold TableDraft.finish
    rw [show draft.columns.mapM ColumnDraft.finish = .ok columns from hcolumns,
      show draft.foreignKeys.mapM ForeignKeyDraft.finish = .ok keys from hkeys,
      show draft.indexes.mapM (IndexDraft.finish (.text name)) = .ok indexes from hindexes]
    rfl
  rw [Table.declared, hdraft]
  exact hfinish

/-- Pets with their owners, whose parts are changed after others were added. -/
def petSteps : List Declaration :=
  [.increments (.text "id") [], .index (.text "byOwner") [.unique [.text "id"]],
    .text (.text "owner") [.nullable], .foreignKey [.columns [.text "id"]],
    .changeColumn 1 (.default (.int 3)), .changeForeignKey 0 (.table (.text "owners")),
    .changeForeignKey 0 (.columns [.text "owner"]), .changeForeignKey 0 (.references [.text "id"]),
    .changeColumn 1 (.default (.text "none")), .changeIndex 0 (.unique [.text "owner"])]

/-- The default, the columns of the key and those of the index are the last ones. -/
theorem Table.declared_means_pets :
    Declaration.WellTyped petSteps ∧
      columnKind.said petSteps =
        [((.text "id", .text "INTEGER"), [.primaryKey, .autoIncrement]),
          ((.text "owner", .text "TEXT"),
            [.nullable, .default (.int 3), .default (.text "none")])] ∧
      indexKind.said petSteps =
        [(.text "byOwner", [.unique [.text "id"], .unique [.text "owner"]])] ∧
      ∃ table, Table.declared (.text "pets") petSteps = .ok table ∧ table.name = "pets" ∧
        List.Forall₂ Column.Means (columnKind.said petSteps) table.columns ∧
        List.Forall₂ ForeignKey.Means (foreignKeyKind.said petSteps) table.foreignKeys ∧
        List.Forall₂ (Index.Means "pets") (indexKind.said petSteps) table.indexes := by
  have htyped : Declaration.WellTyped petSteps :=
    { goes_on := fun fault hmem => by simp [petSteps, Declaration.increments,
        Declaration.integer, Declaration.text] at hmem
      columns := List.forall_mem_cons.mpr ⟨⟨⟨"id", rfl⟩, "INTEGER", rfl⟩,
        List.forall_mem_singleton.mpr ⟨⟨"owner", rfl⟩, "TEXT", rfl⟩⟩
      foreignKeys := List.forall_mem_singleton.mpr
        ⟨⟨["owner"], rfl⟩, ⟨some "owners", rfl⟩, ⟨["id"], rfl⟩, none, rfl⟩
      indexes := List.forall_mem_singleton.mpr ⟨⟨"byOwner", rfl⟩, ["owner"], rfl⟩ }
  exact ⟨htyped, rfl, rfl, Table.declared_means "pets" htyped⟩

/-- An index over one column that is unique, and then over another one without a word about
uniqueness. -/
def redeclaredSteps : List Declaration :=
  [.text (.text "a") [], .index (.text "i") [.unique [.text "a"], .columns [.text "b"]]]

/-- The last word about the index does not make it unique, and yet it is. -/
theorem Table.declared_staysUnique :
    Declaration.WellTyped redeclaredSteps ∧
      indexKind.said redeclaredSteps =
        [(.text "i", [.unique [.text "a"], .columns [.text "b"]])] ∧
      ∃ table, Table.declared (.text "t") redeclaredSteps = .ok table ∧
        table.indexes = [{ name := "i", table := "t", unique := true, columns := ["b"] }] := by
  have htyped : Declaration.WellTyped redeclaredSteps :=
    { goes_on := fun fault hmem => by simp [redeclaredSteps, Declaration.text] at hmem
      columns := List.forall_mem_singleton.mpr ⟨⟨"a", rfl⟩, "TEXT", rfl⟩
      foreignKeys := nofun
      indexes := List.forall_mem_singleton.mpr ⟨⟨"i", rfl⟩, ["b"], rfl⟩ }
  exact ⟨htyped, rfl, _, rfl, rfl⟩

end SqlAccess
