import Mathlib.Data.List.Perm.Basic
import Mathlib.Data.String.Basic
import SqlAccess.Proofs.Blueprint.Closure
import SqlAccess.Proofs.Blueprint.Rounds
import SqlAccess.Proofs.Sorting.Keyed

/-!
# Converted tables in sequence

When tables with distinct names have no cycle of references, they are converted in a
sequence in which each table comes after those it refers to (`convertAll_sequence`).
That nothing else can go wrong once all references resolve comes from the steps: the
checks pass (`check_eq`), the dependencies are found (`exists_dependencies`), and a
table can be converted if all its columns have a type with an SQL text
(`exists_convert_iff`).

The order of the declaration does not matter.  A conversion looks tables up by name,
and where it goes through all of them it goes in the order of their names
(`convertAll_of_perm`).
-/

namespace SqlAccess.Blueprint

open Relation

variable {tables reordered checked : List Table} {table : Table} {key : ForeignKey}
  {order : Dependencies} {name other : String}

/-! ## The tables -/

/-- A table refers to another one by a foreign key. -/
def Refers (tables : List Table) (name other : String) : Prop :=
  other ≠ name ∧ ∃ table ∈ tables, table.name = name ∧
    ∃ key ∈ table.allForeignKeys, ∃ target ∈ key.targets, target.table = other

/-- Tables that can be put in sequence. -/
structure Orderable (tables : List Table) : Prop where
  nodup : (tables.map Table.name).Nodup
  /-- Each table can be declared by itself. -/
  declarable : ∀ table ∈ tables, check [table] = .ok [table]
  resolves : ∀ table ∈ tables, ∀ key ∈ table.allForeignKeys,
    ∃ columns, key.resolve tables = .ok columns
  acyclic : ∀ name, ¬ TransGen (Refers tables) name name

theorem table?_eq_some_iff (hnodup : (tables.map Table.name).Nodup) :
    table? tables name = some table ↔ table ∈ tables ∧ table.name = name := by
  refine ⟨mem_of_table?_eq_some, fun ⟨hmem, hname⟩ => ?_⟩
  cases hfound : table? tables name with
  | none => exact absurd hname (by simpa using List.find?_eq_none.mp hfound table hmem)
  | some found =>
      obtain ⟨hother, hsame⟩ := mem_of_table?_eq_some hfound
      rw [List.inj_on_of_nodup_map hnodup hother hmem (hsame.trans hname.symm)]

/-! ## Checks -/

theorem addChecked_of_declarable (h : check [table] = .ok [table])
    (hnew : table? checked table.name = none) :
    addChecked checked table = .ok (checked ++ [table]) := by
  obtain ⟨alone, halone, -⟩ := exists_of_bind_eq_ok h
  unfold addChecked at halone ⊢
  obtain ⟨⟨⟩, hcolumns, hrest⟩ := exists_of_bind_eq_ok halone
  obtain ⟨⟨⟩, hsides, hnames⟩ := exists_of_bind_eq_ok hrest
  obtain ⟨⟨⟩, hkeys, hparts⟩ := exists_of_bind_eq_ok hnames
  obtain ⟨⟨⟩, hforeign, hindexes⟩ := exists_of_bind_eq_ok hparts
  obtain ⟨⟨⟩, hindexed, -⟩ := exists_of_bind_eq_ok hindexes
  rw [hcolumns, hsides, hnew]
  simp only [hkeys, hforeign, hindexed]
  rfl

theorem foldlM_addChecked (hdeclarable : ∀ table ∈ tables, check [table] = .ok [table])
    (hnodup : ((checked ++ tables).map Table.name).Nodup) :
    tables.foldlM addChecked checked = .ok (checked ++ tables) := by
  induction tables generalizing checked with
  | nil => rw [List.append_nil]; rfl
  | cons table tables ih =>
      obtain ⟨hfirst, hrest⟩ := List.forall_mem_cons.mp hdeclarable
      have hnew : table? checked table.name = none := by
        refine List.find?_eq_none.mpr fun other hother => ?_
        rw [List.map_append, List.map_cons] at hnodup
        have hdisjoint := List.disjoint_of_nodup_append hnodup (List.mem_map_of_mem hother)
        have hne : ¬ other.name = table.name := by
          intro hsame
          exact hdisjoint (List.mem_cons.mpr (.inl hsame))
        simpa using hne
      rw [List.append_cons] at hnodup ⊢
      rw [List.foldlM_cons, addChecked_of_declarable hfirst hnew]
      exact ih hrest hnodup

theorem check_eq (h : Orderable tables) : check tables = .ok tables :=
  foldlM_addChecked h.declarable h.nodup

/-! ## Dependencies -/

/-- What a foreign key refers to is one of its targets. -/
theorem exists_target (h : key.referredTable tables = .ok (some name)) :
    ∃ target ∈ key.targets, target.table = name := by
  unfold ForeignKey.referredTable at h
  split at h
  · cases h
  · rename_i source target rest hpairs
    obtain ⟨_, -, hsame⟩ := exists_of_bind_eq_ok h
    have hmem : (source, target) ∈ key.columns.zip key.targets := hpairs ▸ List.mem_cons_self
    exact ⟨target, (List.of_mem_zip hmem).2, Option.some.inj (Except.ok.inj hsame)⟩

theorem exists_referredTable {columns : List Column} (h : key.resolve tables = .ok columns) :
    ∃ name?, key.referredTable tables = .ok name? := by
  unfold ForeignKey.resolve at h
  unfold ForeignKey.referredTable
  split
  · exact ⟨none, rfl⟩
  · rename_i source target rest hpairs
    rw [hpairs, List.mapM_cons] at h
    obtain ⟨column, hcolumn, -⟩ := exists_of_bind_eq_ok h
    have hresolved : target.resolve tables source = .ok column := hcolumn
    rw [hresolved]
    exact ⟨some target.table, rfl⟩

theorem exists_dependencies (h : Orderable tables) : ∃ order, dependencies tables = .ok order := by
  refine exists_mapM_iff.mpr fun table htable => ?_
  have hfound : ∃ referred,
      table.allForeignKeys.mapM (ForeignKey.referredTable tables) = .ok referred := by
    refine exists_mapM_iff.mpr fun key hkey => ?_
    obtain ⟨columns, hcolumns⟩ := h.resolves table (mem_sortedBy.mp htable) key hkey
    exact exists_referredTable hcolumns
  obtain ⟨referred, hreferred⟩ := hfound
  rw [hreferred]
  exact ⟨_, rfl⟩

theorem refers_of_needs (horder : dependencies tables = .ok order) (h : Needs order name other) :
    Refers tables name other := by
  obtain ⟨needed, hneeded, hother⟩ := h
  have hall : ∀ entry ∈ order, ∀ other ∈ entry.2, Refers tables entry.1 other := by
    refine forall_of_mapM_eq_ok (fun table htable entry hentry => ?_) horder
    obtain ⟨referred, hreferred, hsame⟩ := exists_of_bind_eq_ok hentry
    obtain rfl := Except.ok.inj hsame
    have htarget : ∀ name? ∈ referred, ∀ name, name? = some name →
        ∃ key ∈ table.allForeignKeys, ∃ target ∈ key.targets, target.table = name := by
      refine forall_of_mapM_eq_ok (fun key hkey name? hname name hsome => ?_) hreferred
      exact ⟨key, hkey, exists_target (hsome ▸ hname)⟩
    intro other hother
    obtain ⟨hmem, hne⟩ := List.mem_filter.mp hother
    obtain ⟨name?, hname, hsome⟩ := List.mem_filterMap.mp hmem
    exact ⟨by simpa using hne, table, mem_sortedBy.mp htable, rfl, htarget name? hname other hsome⟩
  exact hall (name, needed) hneeded other hother

theorem needs_of_referredTable (horder : dependencies tables = .ok order) (htable : table ∈ tables)
    (hkey : key ∈ table.allForeignKeys) (hother : key.referredTable tables = .ok (some other))
    (hne : other ≠ table.name) : Needs order table.name other := by
  obtain ⟨entry, hentry, hmade⟩ := exists_mem_of_mapM_eq_ok horder (mem_sortedBy.mpr htable)
  obtain ⟨referred, hreferred, hsame⟩ := exists_of_bind_eq_ok hmade
  obtain ⟨name?, hname, hfound⟩ := exists_mem_of_mapM_eq_ok hreferred hkey
  rw [hother, Except.ok.injEq] at hfound
  subst hfound
  refine ⟨_, (Except.ok.inj hsame) ▸ hentry, ?_⟩
  exact List.mem_filter.mpr ⟨List.mem_filterMap.mpr ⟨_, hname, rfl⟩, by simpa using hne⟩

theorem perm_of_dependencies (horder : dependencies tables = .ok order) :
    (order.map Prod.fst).Perm (tables.map Table.name) := by
  have hnames : (sortedBy Table.name tables).map Table.name = order.map Prod.fst := by
    refine map_eq_of_mapM_eq_ok (fun table entry hentry => ?_) horder
    obtain ⟨referred, -, hrest⟩ := exists_of_bind_eq_ok hentry
    rw [← Except.ok.inj hrest]
  rw [← hnames]
  exact (sortedBy_perm Table.name tables).map _

/-! ## The sequence -/

/-- The tables in the order in which they are converted. -/
def sequence (tables : List Table) (order : Dependencies) : List Table :=
  (dependencyOrder order).filterMap (table? tables)

theorem convertAll_eq (h : Orderable tables) (horder : dependencies tables = .ok order) :
    convertAll tables = (sequence tables order).mapM (Table.convert tables) := by
  unfold convertAll
  rw [check_eq h]
  show (dependencies tables >>= _) = _
  rw [horder]
  rfl

theorem dependencyOrder_perm_names (horder : dependencies tables = .ok order) :
    (dependencyOrder order).Perm (tables.map Table.name) :=
  (dependencyOrder_perm order).trans (perm_of_dependencies horder)

theorem sequence_perm (hnodup : (tables.map Table.name).Nodup)
    (horder : dependencies tables = .ok order) : (sequence tables order).Perm tables := by
  have hall : (tables.map Table.name).filterMap (table? tables) = tables := by
    rw [List.filterMap_map]
    refine (List.filterMap_congr fun table htable => ?_).trans List.filterMap_some
    exact (table?_eq_some_iff hnodup).mpr ⟨htable, rfl⟩
  have hperm := (dependencyOrder_perm_names horder).filterMap (table? tables)
  rwa [hall] at hperm

theorem map_name_sequence (hnodup : (tables.map Table.name).Nodup)
    (horder : dependencies tables = .ok order) :
    (sequence tables order).map Table.name = dependencyOrder order := by
  unfold sequence
  rw [List.map_filterMap]
  refine (List.filterMap_congr fun name hname => ?_).trans List.filterMap_some
  obtain ⟨table, htable, rfl⟩ :=
    List.mem_map.mp ((dependencyOrder_perm_names horder).mem_iff.mp hname)
  rw [(table?_eq_some_iff hnodup).mpr ⟨htable, rfl⟩]
  rfl

/-- What a name needs stands before it. -/
theorem mem_of_dependencyOrder (h : Orderable tables) (horder : dependencies tables = .ok order)
    (hneeds : Needs order name other) (hother : other ∈ tables.map Table.name)
    {before after : List String} (hnames : dependencyOrder order = before ++ name :: after) :
    other ∈ before := by
  have hperm := perm_of_dependencies horder
  have hacyclic : Acyclic order := by
    intro name hcycle
    apply h.acyclic name
    exact TransGen.mono (fun _ _ hneeds => refers_of_needs horder hneeds) name name hcycle
  obtain ⟨names, hrounds⟩ := exists_rounds hacyclic le_rfl
  have hsame : dependencyOrder order = names := by
    unfold dependencyOrder
    rw [hrounds]
  rw [hsame] at hnames
  exact mem_of_rounds (hperm.nodup_iff.mpr h.nodup) hrounds hneeds (hperm.mem_iff.mpr hother) hnames

/-! ## Conversion of the tables -/

/-- A table whose references resolve is converted if its columns have SQL texts. -/
theorem exists_convert_iff
    (hresolves : ∀ key ∈ table.allForeignKeys, ∃ columns, key.resolve tables = .ok columns) :
    (∃ spec, table.convert tables = .ok spec) ↔
      ∀ column ∈ table.columns, ∃ text, column.type.sql = .ok text := by
  constructor
  · rintro ⟨spec, hspec⟩ column hcolumn
    obtain ⟨columns, hcolumns, -⟩ := exists_of_bind_eq_ok hspec
    obtain ⟨_, -, hconverted⟩ := exists_mem_of_mapM_eq_ok hcolumns hcolumn
    obtain ⟨text, htext, -⟩ := exists_of_bind_eq_ok hconverted
    exact ⟨text, htext⟩
  · intro htexts
    have hcolumns : ∃ columns, table.columns.mapM table.convertColumn = .ok columns := by
      refine exists_mapM_iff.mpr fun column hcolumn => ?_
      obtain ⟨text, htext⟩ := htexts column hcolumn
      unfold Table.convertColumn
      rw [htext]
      exact ⟨_, rfl⟩
    have hkeys : ∃ keys, (sortedBy ForeignKey.columns table.allForeignKeys).mapM
        (ForeignKey.convert tables) = .ok keys := by
      refine exists_mapM_iff.mpr fun key hkey => ?_
      obtain ⟨referred, hreferred⟩ := hresolves key (mem_sortedBy.mp hkey)
      obtain ⟨name?, hname⟩ := exists_referredTable hreferred
      unfold ForeignKey.convert
      rw [hname, hreferred]
      exact ⟨_, rfl⟩
    obtain ⟨columns, hcolumns⟩ := hcolumns
    obtain ⟨keys, hkeys⟩ := hkeys
    unfold Table.convert
    rw [hcolumns, hkeys]
    exact ⟨_, rfl⟩

theorem map_name_of_convert {specs : List SqlAccess.Table}
    (h : List.Forall₂ (fun table spec => table.convert tables = .ok spec) reordered specs) :
    reordered.map Table.name = specs.map SqlAccess.Table.name := by
  refine map_eq_of_mapM_eq_ok (fun table spec hspec => ?_) (mapM_eq_ok_iff.mpr h)
  obtain ⟨_, -, hrest⟩ := exists_of_bind_eq_ok hspec
  obtain ⟨_, -, hmade⟩ := exists_of_bind_eq_ok hrest
  rw [← Except.ok.inj hmade]

/-- The foreign keys of a converted table come from those of the table. -/
theorem exists_foreignKey {spec : SqlAccess.Table} (h : table.convert tables = .ok spec) :
    ∀ converted ∈ spec.foreignKeys, ∃ key ∈ table.allForeignKeys,
      key.referredTable tables = .ok converted.table := by
  obtain ⟨_, -, hrest⟩ := exists_of_bind_eq_ok h
  obtain ⟨foreignKeys, hkeys, hspec⟩ := exists_of_bind_eq_ok hrest
  rw [← Except.ok.inj hspec]
  refine forall_of_mapM_eq_ok (fun key hkey converted hconverted => ?_) hkeys
  obtain ⟨name?, hname, hreferences⟩ := exists_of_bind_eq_ok hconverted
  obtain ⟨_, -, hmade⟩ := exists_of_bind_eq_ok hreferences
  rw [← Except.ok.inj hmade]
  exact ⟨key, mem_sortedBy.mp hkey, hname⟩

/-! ## The order of the declaration -/

section

variable (hsame : table? reordered = table? tables)

include hsame

theorem resolve_congr : Target.resolve reordered = Target.resolve tables := by
  funext source target
  unfold Target.resolve Target.resolveTable
  rw [hsame]

theorem referredTable_congr :
    ForeignKey.referredTable reordered = ForeignKey.referredTable tables := by
  funext key
  unfold ForeignKey.referredTable
  rw [resolve_congr hsame]

theorem convert_congr : Table.convert reordered = Table.convert tables := by
  have hkeys : ForeignKey.convert reordered = ForeignKey.convert tables := by
    funext key
    unfold ForeignKey.convert ForeignKey.resolve
    rw [referredTable_congr hsame, resolve_congr hsame]
  funext table
  unfold Table.convert
  rw [hkeys]

end

theorem table?_of_perm (hnodup : (tables.map Table.name).Nodup) (hperm : reordered.Perm tables) :
    table? reordered = table? tables := by
  funext name
  apply Option.ext
  intro table
  rw [table?_eq_some_iff hnodup,
    table?_eq_some_iff ((hperm.map Table.name).nodup_iff.mpr hnodup), hperm.mem_iff]

/-- Tables that are declared in another order are converted in the same one. -/
theorem convertAll_of_perm (h : Orderable tables) (hreordered : Orderable reordered)
    (hperm : reordered.Perm tables) : convertAll reordered = convertAll tables := by
  have hsame := table?_of_perm h.nodup hperm
  have horder : dependencies reordered = dependencies tables := by
    unfold dependencies
    rw [sortedBy_eq_of_perm h.nodup hperm, referredTable_congr hsame]
  unfold convertAll
  rw [check_eq h, check_eq hreordered]
  show (dependencies reordered >>= _) = (dependencies tables >>= _)
  rw [horder, convert_congr hsame, hsame]

theorem Orderable.of_perm (h : Orderable tables) (hperm : reordered.Perm tables) :
    Orderable reordered where
  nodup := (hperm.map Table.name).nodup_iff.mpr h.nodup
  declarable table htable := h.declarable table (hperm.mem_iff.mp htable)
  resolves table htable key hkey := by
    obtain ⟨columns, hcolumns⟩ := h.resolves table (hperm.mem_iff.mp htable) key hkey
    refine ⟨columns, ?_⟩
    unfold ForeignKey.resolve at hcolumns ⊢
    rwa [resolve_congr (table?_of_perm h.nodup hperm)]
  acyclic name hcycle := by
    have hrefers : ∀ name other, Refers reordered name other → Refers tables name other := by
      rintro name other ⟨hne, table, htable, hrest⟩
      exact ⟨hne, table, hperm.mem_iff.mp htable, hrest⟩
    exact h.acyclic name (TransGen.mono hrefers name name hcycle)

/-! ## All tables -/

/-- A table that a table refers to is itself, or it stands before it. -/
theorem mem_of_sequence (h : Orderable tables) (horder : dependencies tables = .ok order)
    {before after : List Table} (hsequence : sequence tables order = before ++ table :: after)
    (hkey : key ∈ table.allForeignKeys) (hother : key.referredTable tables = .ok (some other))
    (hdeclared : other ∈ tables.map Table.name) : other ∈ (before ++ [table]).map Table.name := by
  rw [List.map_append, List.map_singleton, List.mem_append, List.mem_singleton]
  by_cases hself : other = table.name
  · exact .inr hself
  · have htable : table ∈ tables := by
      rw [← (sequence_perm h.nodup horder).mem_iff, hsequence]
      exact List.mem_append_right _ List.mem_cons_self
    have hneeds := needs_of_referredTable horder htable hkey hother hself
    have hnames := map_name_sequence h.nodup horder
    rw [hsequence, List.map_append, List.map_cons] at hnames
    exact .inl (mem_of_dependencyOrder h horder hneeds hdeclared hnames.symm)

theorem exists_convertAll_iff (h : Orderable tables) :
    (∃ specs, convertAll tables = .ok specs) ↔
      ∀ table ∈ tables, ∀ column ∈ table.columns, ∃ text, column.type.sql = .ok text := by
  obtain ⟨order, horder⟩ := exists_dependencies h
  have hperm := sequence_perm h.nodup horder
  rw [convertAll_eq h horder]
  constructor
  · rintro ⟨specs, hspecs⟩ table htable
    obtain ⟨spec, -, hspec⟩ := exists_mem_of_mapM_eq_ok hspecs (hperm.mem_iff.mpr htable)
    exact (exists_convert_iff (h.resolves table htable)).mp ⟨spec, hspec⟩
  · intro htexts
    refine exists_mapM_iff.mpr fun table hmem => ?_
    have htable := hperm.mem_iff.mp hmem
    exact (exists_convert_iff (h.resolves table htable)).mpr (htexts table htable)

/-- Each table is converted once, after those it refers to. -/
theorem specs_of_convertAll (h : Orderable tables) {specs : List SqlAccess.Table}
    (hspecs : convertAll tables = .ok specs) :
    (specs.map SqlAccess.Table.name).Perm (tables.map Table.name) ∧
      ∀ before spec after, specs = before ++ spec :: after →
        (∃ table ∈ tables, table.convert tables = .ok spec) ∧
          ∀ key ∈ spec.foreignKeys, ∃ referred ∈ before ++ [spec],
            key.table = some referred.name := by
  obtain ⟨order, horder⟩ := exists_dependencies h
  have hperm := sequence_perm h.nodup horder
  rw [convertAll_eq h horder] at hspecs
  have hconverted := mapM_eq_ok_iff.mp hspecs
  refine ⟨?_, ?_⟩
  · rw [← map_name_of_convert hconverted]
    exact hperm.map Table.name
  · rintro before spec after rfl
    have hbefore := List.forall₂_take_append _ _ _ hconverted
    have hrest := List.forall₂_drop_append _ _ _ hconverted
    obtain ⟨table, others, hspec, -, hdrop⟩ := List.forall₂_cons_right_iff.mp hrest
    have hsequence := (List.take_append_drop before.length (sequence tables order)).symm
    rw [hdrop] at hsequence
    have htable : table ∈ tables := by
      rw [← hperm.mem_iff, hsequence]
      exact List.mem_append_right _ List.mem_cons_self
    refine ⟨⟨table, htable, hspec⟩, ?_⟩
    intro converted hmem
    have hconverts := convertsTo_of_convert (mem_of_check (check_eq h) table htable).2 hspec
    obtain ⟨referred, hreferred, hname, -⟩ := hconverts.references converted hmem
    obtain ⟨key, hkey, hother⟩ := exists_foreignKey hspec converted hmem
    rw [hname] at hother
    have hearlier := mem_of_sequence h horder hsequence hkey hother
      (List.mem_map_of_mem (mem_of_table?_eq_some hreferred).1)
    rw [map_name_of_convert (List.rel_append hbefore (.cons hspec .nil))] at hearlier
    obtain ⟨found, hfound, hsame⟩ := List.mem_map.mp hearlier
    exact ⟨found, hfound, by rw [hname, hsame]⟩

/-- Tables without a cycle of references are converted if all of their columns have SQL
texts: each of them once, after those it refers to, and in a sequence in which the order
of the declaration does not show. -/
theorem convertAll_sequence (h : Orderable tables) :
    ((∃ specs, convertAll tables = .ok specs) ↔
      ∀ table ∈ tables, ∀ column ∈ table.columns, ∃ text, column.type.sql = .ok text) ∧
    (∀ specs, convertAll tables = .ok specs →
      (specs.map SqlAccess.Table.name).Perm (tables.map Table.name) ∧
        ∀ before spec after, specs = before ++ spec :: after →
          (∃ table ∈ tables, table.convert tables = .ok spec) ∧
            ∀ key ∈ spec.foreignKeys, ∃ referred ∈ before ++ [spec],
              key.table = some referred.name) ∧
    ∀ reordered, reordered.Perm tables → convertAll reordered = convertAll tables := by
  refine ⟨exists_convertAll_iff h, fun specs hspecs => specs_of_convertAll h hspecs, ?_⟩
  intro reordered hperm
  exact convertAll_of_perm h (h.of_perm hperm) hperm

/-- Adoptions of animals; their name stands before that of the animals. -/
def adoptions : Table where
  name := "adoptions"
  columns :=
    [{ name := "animal", type := ⟨"Integer", []⟩, target := some ⟨"animals", some "id"⟩ }]

theorem orderable_adoptions : Orderable [adoptions, animals] where
  nodup := by decide
  declarable := List.forall_mem_cons.mpr ⟨rfl, List.forall_mem_singleton.mpr rfl⟩
  resolves := by
    refine List.forall_mem_cons.mpr ⟨?_, List.forall_mem_singleton.mpr ?_⟩
    · exact List.forall_mem_singleton.mpr ⟨_, rfl⟩
    · exact List.forall_mem_singleton.mpr ⟨_, rfl⟩
  acyclic := by
    have hrefers : ∀ name other, Refers [adoptions, animals] name other →
        name = "adoptions" ∧ other = "animals" := by
      rintro name other ⟨hne, table, htable, rfl, key, hkey, target, htarget, rfl⟩
      rcases List.mem_pair.mp htable with rfl | rfl
      · obtain rfl := List.mem_singleton.mp hkey
        obtain rfl := List.mem_singleton.mp htarget
        exact ⟨rfl, rfl⟩
      · obtain rfl := List.mem_singleton.mp hkey
        obtain rfl := List.mem_singleton.mp htarget
        exact absurd rfl hne
    intro name hcycle
    obtain ⟨_, hout, -⟩ := TransGen.head'_iff.mp hcycle
    obtain ⟨_, -, hin⟩ := TransGen.tail'_iff.mp hcycle
    have hsame := (hrefers _ _ hout).1.symm.trans (hrefers _ _ hin).2
    exact absurd hsame (by decide)

/-- Both tables are converted, and in one sequence however they are declared. -/
theorem convertAll_sequence_adoptions :
    Orderable [adoptions, animals] ∧ ∃ specs, convertAll [adoptions, animals] = .ok specs ∧
      (specs.map SqlAccess.Table.name).Perm ["adoptions", "animals"] ∧
        convertAll [animals, adoptions] = .ok specs := by
  refine ⟨orderable_adoptions, ?_⟩
  obtain ⟨hiff, hall, hreordered⟩ := convertAll_sequence orderable_adoptions
  have htexts : ∀ table ∈ [adoptions, animals], ∀ column ∈ table.columns,
      ∃ text, column.type.sql = .ok text := by
    refine List.forall_mem_cons.mpr ⟨?_, List.forall_mem_singleton.mpr ?_⟩
    · exact List.forall_mem_singleton.mpr ⟨_, rfl⟩
    · exact List.forall_mem_cons.mpr ⟨⟨_, rfl⟩, List.forall_mem_singleton.mpr ⟨_, rfl⟩⟩
  obtain ⟨specs, hspecs⟩ := hiff.mpr htexts
  exact ⟨specs, hspecs, (hall specs hspecs).1, (hreordered _ (.swap _ _ _)).trans hspecs⟩

/-- A table with a type whose length is no number. -/
def measures : Table where
  name := "measures"
  columns := [{ name := "value", type := ⟨"BINARY", [.text "5"]⟩ }]

/-- A type without an SQL text is noticed in the conversion only. -/
theorem convertAll_measures :
    Orderable [measures] ∧ ¬ ∃ specs, convertAll [measures] = .ok specs := by
  have horderable : Orderable [measures] :=
    { nodup := by decide
      declarable := List.forall_mem_singleton.mpr rfl
      resolves := List.forall_mem_singleton.mpr nofun
      acyclic := by
        intro name hcycle
        obtain ⟨_, ⟨-, table, htable, -, key, hkey, -⟩, -⟩ := TransGen.head'_iff.mp hcycle
        obtain rfl := List.mem_singleton.mp htable
        cases hkey }
  refine ⟨horderable, fun hspecs => ?_⟩
  have htext := (exists_convertAll_iff horderable).mp hspecs measures List.mem_cons_self
  obtain ⟨text, htext⟩ := htext _ List.mem_cons_self
  cases htext

end SqlAccess.Blueprint
