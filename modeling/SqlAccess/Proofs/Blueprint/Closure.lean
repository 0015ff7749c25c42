import SqlAccess.Proofs.Blueprint.Order
import SqlAccess.Proofs.Blueprint.WellFormed

/-!
# Converted tables and their names

The parts of converted tables name columns.  Columns that are referred to and indexed
columns go by the name that the column has in its own table, and each table that is
referred to is converted as well (`convertAll_closed`).  The columns that refer go by
their keys.  A key is the name of some column when all keys of the table are names, and
it need not be otherwise (`convertAll_animals`).

What a single table is converted into is known from the checks (`convert_closed`).
That the tables referred to are converted too comes from the order, in which every
table has a place.
-/

namespace SqlAccess.Blueprint

variable {tables checked : List Table} {table : Table} {key : ForeignKey}

/-! ## Foreign keys -/

theorem exists_of_resolve {target : Target} {source : String} {column : Column}
    (h : target.resolve tables source = .ok column) :
    ∃ referred, table? tables target.table = some referred ∧ column ∈ referred.columns := by
  obtain ⟨referred, hreferred, hcolumn⟩ := exists_of_bind_eq_ok h
  have htable : table? tables target.table = some referred := by
    unfold Target.resolveTable at hreferred
    split at hreferred
    · rename_i found hfound
      rw [hfound, Except.ok.inj hreferred]
    · cases hreferred
  refine ⟨referred, htable, ?_⟩
  simp only at hcolumn
  split at hcolumn
  · rename_i found hfound
    rw [← Except.ok.inj hcolumn]
    exact (mem_of_column?_eq_some hfound).1
  · cases hcolumn

/-- The foreign key that a foreign key is converted into. -/
theorem convert_foreignKey {converted : SqlAccess.ForeignKey} (hfits : key.FitsIn table)
    (hne : key.columns ≠ []) (h : key.convert tables = .ok converted) :
    converted.columns = key.columns ∧ converted.columns.length = converted.references.length ∧
      ∃ referred, table? tables referred.name = some referred ∧
        converted.table = some referred.name ∧
        ∀ name ∈ converted.references, name ∈ referred.columns.map Column.name := by
  obtain ⟨name, hname, hrest⟩ := exists_of_bind_eq_ok h
  obtain ⟨columns, hcolumns, hconverted⟩ := exists_of_bind_eq_ok hrest
  rw [← Except.ok.inj hconverted]
  obtain ⟨source, sources, hsources⟩ := List.exists_cons_of_ne_nil hne
  have hsides := hfits.sides
  obtain ⟨target, targets, htargets⟩ : ∃ target targets, key.targets = target :: targets := by
    refine List.exists_cons_of_ne_nil fun hnone => ?_
    rw [hnone, hsources] at hsides
    cases hsides
  have hpairs : key.columns.zip key.targets = (source, target) :: sources.zip targets := by
    rw [hsources, htargets, List.zip_cons_cons]
  -- the first target says which table is referred to, and all others are in it
  have hfirst := hname
  unfold ForeignKey.referredTable at hfirst
  rw [hpairs] at hfirst
  obtain ⟨column, hresolved, hsame⟩ := exists_of_bind_eq_ok hfirst
  obtain ⟨referred, hreferred, -⟩ := exists_of_resolve hresolved
  have hreferredName : referred.name = target.table := (mem_of_table?_eq_some hreferred).2
  have hall : ∀ column ∈ columns, column ∈ referred.columns := by
    refine forall_of_mapM_eq_ok (fun pair hpair other hother => ?_) hcolumns
    obtain ⟨found, hfound, hmem⟩ := exists_of_resolve hother
    have hhead := hfits.targets pair.2 (List.of_mem_zip hpair).2
    rw [htargets, List.map_cons, List.head?_cons, Option.some.injEq] at hhead
    rw [hhead, hreferred, Option.some.injEq] at hfound
    rwa [hfound]
  refine ⟨rfl, ?_, referred, ?_, ?_, ?_⟩
  · have hcount := (mapM_eq_ok_iff.mp hcolumns).length_eq
    rw [List.length_zip] at hcount
    simp only [List.length_map]
    omega
  · rw [hreferredName, hreferred]
  · rw [hreferredName]
    exact (Except.ok.inj hsame).symm
  · intro other hother
    obtain ⟨column, hcolumn, rfl⟩ := List.mem_map.mp hother
    exact List.mem_map_of_mem (hall column hcolumn)

/-! ## Tables -/

/-- What a table is converted into. -/
structure ConvertsTo (tables : List Table) (table : Table) (spec : SqlAccess.Table) : Prop where
  name : spec.name = table.name
  columns : spec.columnNames = table.columns.map Column.name
  indexes : ∀ index ∈ spec.indexes, ∀ name ∈ index.columns, name ∈ spec.columnNames
  sides : ∀ key ∈ spec.foreignKeys, key.columns.length = key.references.length
  keys : ∀ key ∈ spec.foreignKeys, ∀ name ∈ key.columns,
    ∃ column ∈ table.columns, column.key = name
  references : ∀ key ∈ spec.foreignKeys, ∃ referred, table? tables referred.name = some referred ∧
    key.table = some referred.name ∧
      ∀ name ∈ key.references, name ∈ referred.columns.map Column.name

theorem convert_columns {columns : List SqlAccess.Column}
    (h : table.columns.mapM table.convertColumn = .ok columns) :
    table.columns.map Column.name = columns.map SqlAccess.Column.name := by
  refine map_eq_of_mapM_eq_ok (fun column converted hconverted => ?_) h
  obtain ⟨type, -, hrest⟩ := exists_of_bind_eq_ok hconverted
  rw [← Except.ok.inj hrest]

theorem convertsTo_of_convert (hwell : table.IsWellFormed) {spec : SqlAccess.Table}
    (h : table.convert tables = .ok spec) : ConvertsTo tables table spec := by
  obtain ⟨columns, hcolumns, hrest⟩ := exists_of_bind_eq_ok h
  obtain ⟨foreignKeys, hkeys, hspec⟩ := exists_of_bind_eq_ok hrest
  rw [← Except.ok.inj hspec]
  have hnames := (convert_columns hcolumns).symm
  have hforeignKeys : ∀ converted ∈ foreignKeys, ∃ key : ForeignKey, key.FitsIn table ∧
      key.columns ≠ [] ∧ key.convert tables = .ok converted := by
    refine forall_of_mapM_eq_ok (fun key hkey converted hconverted => ?_) hkeys
    obtain ⟨hfits, hne⟩ := fitsIn_of_mem_allForeignKeys hwell (mem_sortedBy.mp hkey)
    exact ⟨key, hfits, hne, hconverted⟩
  refine ⟨rfl, hnames, ?_, ?_, ?_, ?_⟩
  · intro index hindex name hname
    obtain ⟨stated, -, rfl⟩ := List.mem_map.mp (mem_sortedBy.mp hindex)
    obtain ⟨key, -, hfound⟩ := List.mem_filterMap.mp (List.mem_eraseDups.mp hname)
    obtain ⟨column, hcolumn, rfl⟩ := Option.map_eq_some_iff.mp hfound
    rw [Table.columnNames, hnames]
    exact List.mem_map_of_mem (mem_of_column?_eq_some hcolumn).1
  · intro converted hconverted
    obtain ⟨key, hfits, hne, h⟩ := hforeignKeys converted hconverted
    exact (convert_foreignKey hfits hne h).2.1
  · intro converted hconverted name hname
    obtain ⟨key, hfits, hne, h⟩ := hforeignKeys converted hconverted
    rw [(convert_foreignKey hfits hne h).1] at hname
    exact hfits.columns name hname
  · intro converted hconverted
    obtain ⟨key, hfits, hne, h⟩ := hforeignKeys converted hconverted
    exact (convert_foreignKey hfits hne h).2.2

/-! ## Blueprints -/

theorem mem_dependencyOrder {order : Dependencies} (horder : dependencies checked = .ok order)
    (htable : table ∈ checked) : table.name ∈ dependencyOrder order := by
  have hnames : (sortedBy Table.name checked).map Table.name = order.map Prod.fst := by
    refine map_eq_of_mapM_eq_ok (fun table entry hentry => ?_) horder
    obtain ⟨referred, -, hrest⟩ := exists_of_bind_eq_ok hentry
    rw [← Except.ok.inj hrest]
  rw [(dependencyOrder_perm order).mem_iff, ← hnames]
  exact List.mem_map_of_mem (mem_sortedBy.mpr htable)

/-- The parts of converted tables speak of columns that are there.  Only the columns of
foreign keys are given by keys, and these are names when the keys of the table are. -/
theorem convertAll_closed {specs : List SqlAccess.Table} (h : convertAll tables = .ok specs) :
    ∀ spec ∈ specs, ∃ table ∈ tables, spec.name = table.name ∧
      spec.columnNames = table.columns.map Column.name ∧
      (∀ index ∈ spec.indexes, ∀ name ∈ index.columns, name ∈ spec.columnNames) ∧
      ∀ key ∈ spec.foreignKeys, key.columns.length = key.references.length ∧
        (∃ referred ∈ specs, key.table = some referred.name) ∧
        (∀ referred ∈ specs, key.table = some referred.name →
          ∀ name ∈ key.references, name ∈ referred.columnNames) ∧
        (∀ name ∈ key.columns, ∃ column ∈ table.columns, column.key = name) ∧
        ((∀ column ∈ table.columns, column.key = column.name) →
          ∀ name ∈ key.columns, name ∈ spec.columnNames) := by
  obtain ⟨checked, hchecked, hrest⟩ := exists_of_bind_eq_ok h
  obtain ⟨order, horder, hspecs⟩ := exists_of_bind_eq_ok hrest
  have hwell := mem_of_check hchecked
  -- each converted table is that of the first table of its name
  have hconverted : ∀ spec ∈ specs, ∃ table, table? checked spec.name = some table ∧
      ConvertsTo checked table spec := by
    refine forall_of_mapM_eq_ok (fun table htable spec hspec => ?_) hspecs
    obtain ⟨name, -, hfound⟩ := List.mem_filterMap.mp htable
    obtain ⟨hmem, hname⟩ := mem_of_table?_eq_some hfound
    have hconverts := convertsTo_of_convert (hwell table hmem).2 hspec
    refine ⟨table, ?_, hconverts⟩
    rw [hconverts.name, hname, hfound]
  have hevery : ∀ table, table? checked table.name = some table →
      ∃ spec ∈ specs, spec.name = table.name := by
    intro table htable
    have hmem : table ∈ (dependencyOrder order).filterMap (table? checked) :=
      List.mem_filterMap.mpr
        ⟨table.name, mem_dependencyOrder horder (mem_of_table?_eq_some htable).1, htable⟩
    obtain ⟨spec, hspec, hconvert⟩ := exists_mem_of_mapM_eq_ok hspecs hmem
    exact ⟨spec, hspec,
      (convertsTo_of_convert (hwell table (mem_of_table?_eq_some htable).1).2 hconvert).name⟩
  intro spec hspec
  obtain ⟨table, htable, hconverts⟩ := hconverted spec hspec
  refine ⟨table, (hwell table (mem_of_table?_eq_some htable).1).1, hconverts.name,
    hconverts.columns, hconverts.indexes, fun key hkey => ?_⟩
  obtain ⟨referred, hreferred, hname, hreferences⟩ := hconverts.references key hkey
  refine ⟨hconverts.sides key hkey, ?_, ?_, hconverts.keys key hkey, ?_⟩
  · obtain ⟨other, hother, hsame⟩ := hevery referred hreferred
    exact ⟨other, hother, by rw [hname, hsame]⟩
  · intro other hother hsame name hmem
    obtain ⟨source, hsource, hconverts⟩ := hconverted other hother
    rw [hname, Option.some.injEq] at hsame
    rw [← hsame, hreferred, Option.some.injEq] at hsource
    rw [hconverts.columns, ← hsource]
    exact hreferences name hmem
  · intro hkeys name hname
    obtain ⟨column, hcolumn, rfl⟩ := hconverts.keys key hkey name hname
    rw [hkeys column hcolumn, hconverts.columns]
    exact List.mem_map_of_mem hcolumn

/-- A table that refers to itself by a key that is no name. -/
def animals : Table where
  name := "animals"
  columns :=
    [{ name := "id", type := ⟨"Integer", []⟩, primaryKey := true },
      { name := "parent", key? := some "p", type := ⟨"Integer", []⟩ }]
  foreignKeys := [{ columns := ["p"], targets := [⟨"animals", some "id"⟩] }]

theorem convertAll_closed_animals : ∃ specs, convertAll [animals] = .ok specs ∧
    ∀ spec ∈ specs, ∃ table ∈ [animals], spec.columnNames = table.columns.map Column.name := by
  have hconverts : (convertAll [animals]).isOk = true := by decide +kernel
  cases hspecs : convertAll [animals] with
  | error fault =>
      rw [hspecs] at hconverts
      cases hconverts
  | ok specs =>
      refine ⟨specs, rfl, fun spec hspec => ?_⟩
      obtain ⟨table, htable, -, hcolumns, -⟩ := convertAll_closed hspecs spec hspec
      exact ⟨table, htable, hcolumns⟩

/-- A foreign key over a key that is no name refers by a column that is not there. -/
theorem convertAll_animals : ∃ specs, convertAll [animals] = .ok specs ∧
    ∃ spec ∈ specs, ∃ key ∈ spec.foreignKeys, ∃ name ∈ key.columns, name ∉ spec.columnNames := by
  have hmissing : (convertAll [animals]).toOption.any (fun specs => specs.any fun spec =>
      spec.foreignKeys.any fun key => key.columns.any fun name =>
        !spec.columnNames.contains name) = true := by
    decide +kernel
  cases hspecs : convertAll [animals] with
  | error fault =>
      rw [hspecs] at hmissing
      cases hmissing
  | ok specs =>
      rw [hspecs] at hmissing
      exact ⟨specs, rfl, by simpa [Except.toOption] using hmissing⟩

end SqlAccess.Blueprint
