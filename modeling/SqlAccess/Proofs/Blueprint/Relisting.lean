import Mathlib.Data.List.Forall2
import Mathlib.Data.List.Lex
import Mathlib.Data.List.Perm.Basic
import Mathlib.Data.Option.Basic
import Mathlib.Data.String.Basic
import SqlAccess.Proofs.Blueprint.Sequence
import SqlAccess.Proofs.Sorting.Stable

/-!
# Tables that are listed otherwise

The foreign keys and the indexes of a table are collections, and it is not said in which
order they come.  A table can be listed otherwise (`IsRelisting`): its columns are the same
ones in the same order, but the foreign keys and the indexes come in any order, and those of
single columns may stand among them.

What a table is converted into does not tell how the tables are listed that it refers to,
since only names of columns are looked up there.  Its own foreign keys are sorted by their
columns and its indexes by their names (`convert_eq_ok_iff`).  The sorting leaves those that
tie in the order of the listing.  So the listing does not show exactly if no two tie that
differ (`convert_relisted`), and otherwise it does (`convert_visits`).
-/

namespace SqlAccess

section

variable {ε α β γ δ κ : Type}

theorem map_mapM (f : α → Except ε β) (c : β → γ) (items : List α) :
    (items.mapM f).map (List.map c) = items.mapM fun item => (f item).map c := by
  induction items with
  | nil => rfl
  | cons item items ih =>
      rw [List.mapM_cons, List.mapM_cons, ← ih]
      cases f item <;> cases items.mapM f <;> rfl

/-- What a step does not look at may be different. -/
theorem bind_congr_of_map {c : β → γ} {first second : Except ε β} {f g : β → Except ε δ}
    (h : first.map c = second.map c) (hsteps : ∀ x y, c x = c y → f x = g y) :
    (first >>= f) = (second >>= g) := by
  cases first <;> cases second
  · exact congrArg Except.error (Except.error.inj h)
  · cases h
  · cases h
  · exact hsteps _ _ (Except.ok.inj h)

theorem sortedBy_pair [LT κ] [DecidableLT κ] (key : α → κ) (x y : α) :
    sortedBy key [x, y] = if key y < key x then [y, x] else [x, y] := by
  unfold sortedBy
  rw [List.mergeSort]
  split <;> simp_all [List.MergeSort.Internal.splitInTwo]

variable [LinearOrder κ] [DecidableLT κ] {key : α → κ} {other : β → κ}

theorem forall₂_sortedBy {relates : α → β → Prop}
    (hkey : ∀ x y, relates x y → key x = other y) {xs : List α} {ys : List β}
    (h : List.Forall₂ relates xs ys) :
    List.Forall₂ relates (sortedBy key xs) (sortedBy other ys) := by
  obtain ⟨hlength, hall⟩ := List.forall₂_iff_zip.mp h
  have hxs : (xs.zip ys).map Prod.fst = xs := List.map_fst_zip hlength.le
  have hys : (xs.zip ys).map Prod.snd = ys := List.map_snd_zip hlength.ge
  have hsame : sortedBy (key ∘ Prod.fst) (xs.zip ys) = sortedBy (other ∘ Prod.snd) (xs.zip ys) :=
    Sorting.sortedBy_congr fun pair hpair => hkey _ _ (hall hpair)
  have hsorted : List.Forall₂ relates
      (sortedBy key ((xs.zip ys).map Prod.fst)) (sortedBy other ((xs.zip ys).map Prod.snd)) := by
    rw [sortedBy_map, sortedBy_map, hsame, List.forall₂_map_left_iff, List.forall₂_map_right_iff,
      List.forall₂_same]
    exact fun pair hpair => hall (mem_sortedBy.mp hpair)
  rwa [hxs, hys] at hsorted

/-- Sorting what is converted is the same as converting what is sorted. -/
theorem mapM_sortedBy_eq_ok_iff {f : α → Except ε β}
    (hkey : ∀ x y, f x = .ok y → key x = other y) {items : List α} {sorted : List β} :
    (sortedBy key items).mapM f = .ok sorted ↔
      ∃ values, items.mapM f = .ok values ∧ sorted = sortedBy other values := by
  have hsorts : ∀ values, items.mapM f = .ok values →
      (sortedBy key items).mapM f = .ok (sortedBy other values) := fun values hvalues =>
    mapM_eq_ok_iff.mpr (forall₂_sortedBy hkey (mapM_eq_ok_iff.mp hvalues))
  constructor
  · intro h
    obtain ⟨values, hvalues⟩ : ∃ values, items.mapM f = .ok values := by
      refine exists_mapM_iff.mpr fun item hitem => ?_
      exact exists_mapM_iff.mp ⟨sorted, h⟩ item (mem_sortedBy.mpr hitem)
    exact ⟨values, hvalues, Except.ok.inj (h.symm.trans (hsorts values hvalues))⟩
  · rintro ⟨values, hvalues, rfl⟩
    exact hsorts values hvalues

end

namespace Blueprint

variable {tables others : List Table} {table other : Table} {column : Column}

/-! ## Listings -/

/-- A column without the foreign key and the index of its own. -/
def Column.bare (column : Column) : Column :=
  { column with target := none, onDelete := none, indexed := false, unique := false }

/-- A table is listed otherwise: its foreign keys and its indexes come in another order. -/
structure IsRelisting (table other : Table) : Prop where
  name_eq : other.name = table.name
  autoIncrement_eq : other.autoIncrement = table.autoIncrement
  columns_eq : other.columns.map Column.bare = table.columns.map Column.bare
  foreignKeys_perm : other.allForeignKeys.Perm table.allForeignKeys
  indexes_perm : other.allIndexes.Perm table.allIndexes

/-- A table that has foreign keys and indexes listed in full. -/
def Table.listing (table : Table) (keys : List ForeignKey) (indexes : List Index) : Table :=
  { table with columns := table.columns.map Column.bare, foreignKeys := keys, indexes := indexes }

theorem columns_ne_nil_of_mem {key : ForeignKey} (h : key ∈ table.allForeignKeys) :
    key.columns ≠ [] := by
  rcases List.mem_append.mp h with hown | hstated
  · obtain ⟨column, -, htarget⟩ := List.mem_filterMap.mp hown
    obtain ⟨target, -, rfl⟩ := Option.map_eq_some_iff.mp htarget
    exact List.cons_ne_nil _ _
  · simpa using (List.mem_filter.mp hstated).2

section

variable {keys : List ForeignKey} {indexes : List Index}

theorem allForeignKeys_listing (h : ∀ key ∈ keys, key.columns ≠ []) :
    (table.listing keys indexes).allForeignKeys = keys := by
  unfold Table.allForeignKeys Table.listing
  rw [List.filterMap_map]
  refine (congrArg₂ (· ++ ·) (List.filterMap_eq_nil_iff.mpr fun column _ => rfl)
    (List.filter_eq_self.mpr fun key hkey => ?_)).trans (List.nil_append keys)
  simpa using h key hkey

theorem allIndexes_listing : (table.listing keys indexes).allIndexes = indexes := by
  have hnone : (table.columns.map Column.bare).filter Column.indexed = [] :=
    List.filter_eq_nil_iff.mpr (List.forall_mem_map.mpr fun column _ => Bool.false_ne_true)
  unfold Table.allIndexes Table.listing
  rw [hnone, List.map_nil, List.nil_append]

/-- Every order of the foreign keys and of the indexes is that of a listing. -/
theorem isRelisting_listing (hkeys : keys.Perm table.allForeignKeys)
    (hindexes : indexes.Perm table.allIndexes) :
    IsRelisting table (table.listing keys indexes) where
  name_eq := rfl
  autoIncrement_eq := rfl
  columns_eq := by
    unfold Table.listing
    rw [List.map_map]
    rfl
  foreignKeys_perm := by
    rwa [allForeignKeys_listing fun key hkey => columns_ne_nil_of_mem (hkeys.mem_iff.mp hkey)]
  indexes_perm := by
    rwa [allIndexes_listing]

end

/-! ## What a listing does not change -/

namespace IsRelisting

variable (h : IsRelisting table other)

include h

theorem column?_bare (key : String) :
    (other.column? key).map Column.bare = (table.column? key).map Column.bare := by
  have hfind : ∀ table : Table, (table.column? key).map Column.bare =
      (table.columns.map Column.bare).find? fun column => column.key == key := by
    intro table
    rw [List.find?_map]
    rfl
  rw [hfind, hfind, h.columns_eq]

theorem column?_name (key : String) :
    (other.column? key).map Column.name = (table.column? key).map Column.name := by
  have hname := congrArg (Option.map Column.name) (h.column?_bare key)
  rwa [Option.map_map, Option.map_map] at hname

theorem length_primaryKey : other.primaryKey.length = table.primaryKey.length := by
  have hcount := congrArg (List.countP Column.primaryKey) h.columns_eq
  rw [List.countP_map, List.countP_map] at hcount
  unfold Table.primaryKey
  rw [← List.countP_eq_length_filter, ← List.countP_eq_length_filter]
  exact hcount

theorem convertColumns :
    other.columns.mapM other.convertColumn = table.columns.mapM table.convertColumn := by
  have hbare : ∀ table : Table, table.columns.mapM table.convertColumn =
      (table.columns.map Column.bare).mapM table.convertColumn := by
    intro table
    rw [List.mapM_map]
    rfl
  have hcolumn : other.convertColumn = table.convertColumn := by
    funext column
    unfold Table.convertColumn
    rw [h.length_primaryKey, h.autoIncrement_eq]
  rw [hbare, hbare, h.columns_eq, hcolumn]

theorem convertIndex : other.convertIndex = table.convertIndex := by
  funext index
  have hname : other.indexName index = table.indexName index := by
    unfold Table.indexName
    rw [h.name_eq, Option.map_bind, Option.map_bind]
    simp only [Function.comp_def, h.column?_name]
  unfold Table.convertIndex
  rw [hname, h.name_eq]
  simp only [h.column?_name]

end IsRelisting

theorem table?_relisted (h : List.Forall₂ IsRelisting tables others) (name : String) :
    Option.Rel IsRelisting (table? tables name) (table? others name) := by
  induction h with
  | nil => exact .none
  | @cons table other tables others hfirst _ ih =>
      unfold table?
      rw [List.find?_cons, List.find?_cons, hfirst.name_eq]
      cases table.name == name with
      | true => exact .some hfirst
      | false => exact ih

theorem resolve_relisted (h : List.Forall₂ IsRelisting tables others) (source : String)
    (target : Target) :
    (target.resolve others source).map Column.bare =
      (target.resolve tables source).map Column.bare := by
  unfold Target.resolve Target.resolveTable
  generalize table? tables target.table = table?, table? others target.table = other?,
    table?_relisted h target.table = hrelisted
  cases hrelisted with
  | none => rfl
  | @some table other hrelisting =>
      have hcolumn := hrelisting.column?_bare (target.column.getD source)
      dsimp only [bind, Except.bind]
      rw [hrelisting.name_eq]
      generalize table.column? (target.column.getD source) = found at hcolumn ⊢
      generalize other.column? (target.column.getD source) = refound at hcolumn ⊢
      cases found with
      | none => rw [Option.map_eq_none_iff.mp hcolumn]
      | some column =>
          obtain ⟨recolumn, rfl, hbare⟩ := Option.map_eq_some_iff.mp hcolumn
          exact congrArg Except.ok hbare

theorem convert_relistedTables (h : List.Forall₂ IsRelisting tables others) :
    ForeignKey.convert others = ForeignKey.convert tables := by
  funext key
  have htable : key.referredTable others = key.referredTable tables := by
    unfold ForeignKey.referredTable
    split
    · rfl
    · exact bind_congr_of_map (resolve_relisted h _ _) fun _ _ _ => rfl
  have hcolumns : (key.resolve others).map (List.map Column.bare) =
      (key.resolve tables).map (List.map Column.bare) := by
    unfold ForeignKey.resolve
    rw [map_mapM, map_mapM]
    simp only [resolve_relisted h]
  unfold ForeignKey.convert
  rw [htable]
  refine bind_congr fun name? => bind_congr_of_map hcolumns fun first second hbare => ?_
  have hnames := congrArg (List.map Column.name) hbare
  rw [List.map_map, List.map_map] at hnames
  have hsame : first.map Column.name = second.map Column.name := hnames
  rw [hsame]

/-! ## What is sorted -/

variable {spec : SqlAccess.Table}

theorem columns_of_convert (key : ForeignKey) (converted : SqlAccess.ForeignKey)
    (h : key.convert tables = .ok converted) : key.columns = converted.columns := by
  obtain ⟨_, -, hrest⟩ := exists_of_bind_eq_ok h
  obtain ⟨_, -, hmade⟩ := exists_of_bind_eq_ok hrest
  rw [← Except.ok.inj hmade]

theorem mapM_sortedKeys_eq_ok_iff {keys : List ForeignKey} {sorted : List SqlAccess.ForeignKey} :
    (sortedBy ForeignKey.columns keys).mapM (ForeignKey.convert tables) = .ok sorted ↔
      ∃ converted, keys.mapM (ForeignKey.convert tables) = .ok converted ∧
        sorted = sortedBy SqlAccess.ForeignKey.columns converted :=
  mapM_sortedBy_eq_ok_iff columns_of_convert

/-- A table with its foreign keys sorted by their columns, and its indexes by their names. -/
def sortedParts (name : String) (columns : List SqlAccess.Column)
    (keys : List SqlAccess.ForeignKey) (indexes : List SqlAccess.Index) : SqlAccess.Table :=
  { name := name
    columns := columns
    foreignKeys := sortedBy SqlAccess.ForeignKey.columns keys
    indexes := sortedBy SqlAccess.Index.name indexes }

/-- A table is converted part by part, and then its parts are sorted. -/
theorem convert_eq_ok_iff : table.convert tables = .ok spec ↔
    ∃ columns keys, table.columns.mapM table.convertColumn = .ok columns ∧
      table.allForeignKeys.mapM (ForeignKey.convert tables) = .ok keys ∧
      spec = sortedParts table.name columns keys (table.allIndexes.map table.convertIndex) := by
  constructor
  · intro h
    obtain ⟨columns, hcolumns, hrest⟩ := exists_of_bind_eq_ok h
    obtain ⟨sorted, hsorted, hspec⟩ := exists_of_bind_eq_ok hrest
    obtain ⟨keys, hkeys, rfl⟩ := mapM_sortedKeys_eq_ok_iff.mp hsorted
    exact ⟨columns, keys, hcolumns, hkeys, (Except.ok.inj hspec).symm⟩
  · rintro ⟨columns, keys, hcolumns, hkeys, rfl⟩
    have hsorted := mapM_sortedKeys_eq_ok_iff.mpr ⟨keys, hkeys, rfl⟩
    unfold Table.convert
    rw [hcolumns]
    change (_ >>= _) = _
    rw [hsorted]
    rfl

/-- Two tables differ in the order of foreign keys over the same columns, and in that of
indexes of the same name, and in nothing else. -/
structure AgreesUpToTies (spec respec : SqlAccess.Table) : Prop where
  name_eq : respec.name = spec.name
  columns_eq : respec.columns = spec.columns
  foreignKeys_perm : respec.foreignKeys.Perm spec.foreignKeys
  map_columns_eq : respec.foreignKeys.map SqlAccess.ForeignKey.columns =
    spec.foreignKeys.map SqlAccess.ForeignKey.columns
  indexes_perm : respec.indexes.Perm spec.indexes
  map_name_eq : respec.indexes.map SqlAccess.Index.name = spec.indexes.map SqlAccess.Index.name

/-- No two foreign keys over the same columns differ, and no two indexes of the same name. -/
structure IsSeparated (spec : SqlAccess.Table) : Prop where
  foreignKeys : ∀ first ∈ spec.foreignKeys, ∀ second ∈ spec.foreignKeys,
    first.columns = second.columns → first = second
  indexes : ∀ first ∈ spec.indexes, ∀ second ∈ spec.indexes,
    first.name = second.name → first = second

section

variable {name : String} {columns : List SqlAccess.Column}
  {keys rekeys : List SqlAccess.ForeignKey} {indexes reindexes : List SqlAccess.Index}

theorem agreesUpToTies_sortedParts (hkeys : rekeys.Perm keys) (hindexes : reindexes.Perm indexes) :
    AgreesUpToTies (sortedParts name columns keys indexes)
      (sortedParts name columns rekeys reindexes) where
  name_eq := rfl
  columns_eq := rfl
  foreignKeys_perm := (sortedBy_perm _ _).trans (hkeys.trans (sortedBy_perm _ _).symm)
  map_columns_eq := Sorting.map_sortedBy_of_perm hkeys
  indexes_perm := (sortedBy_perm _ _).trans (hindexes.trans (sortedBy_perm _ _).symm)
  map_name_eq := Sorting.map_sortedBy_of_perm hindexes

theorem isSeparated_sortedParts_iff : IsSeparated (sortedParts name columns keys indexes) ↔
    ∀ rekeys reindexes, rekeys.Perm keys → reindexes.Perm indexes →
      sortedParts name columns rekeys reindexes = sortedParts name columns keys indexes := by
  have hkeys := Sorting.sortedBy_determined_iff SqlAccess.ForeignKey.columns keys
  have hindexes := Sorting.sortedBy_determined_iff SqlAccess.Index.name indexes
  constructor
  · intro h rekeys reindexes hrekeys hreindexes
    have hsameKeys := hkeys.mpr (fun first hfirst second hsecond => h.foreignKeys first
      (mem_sortedBy.mpr hfirst) second (mem_sortedBy.mpr hsecond)) rekeys hrekeys
    have hsameIndexes := hindexes.mpr (fun first hfirst second hsecond => h.indexes first
      (mem_sortedBy.mpr hfirst) second (mem_sortedBy.mpr hsecond)) reindexes hreindexes
    unfold sortedParts
    rw [hsameKeys, hsameIndexes]
  · intro h
    refine ⟨fun first hfirst second hsecond => ?_, fun first hfirst second hsecond => ?_⟩
    · refine hkeys.mp (fun rekeys hrekeys => ?_) first (mem_sortedBy.mp hfirst) second
        (mem_sortedBy.mp hsecond)
      exact congrArg SqlAccess.Table.foreignKeys (h rekeys indexes hrekeys (.refl _))
    · refine hindexes.mp (fun reindexes hreindexes => ?_) first (mem_sortedBy.mp hfirst) second
        (mem_sortedBy.mp hsecond)
      exact congrArg SqlAccess.Table.indexes (h keys reindexes (.refl _) hreindexes)

/-- A table that is listed otherwise is converted from the same parts. -/
theorem convert_eq_of_relisting (htables : List.Forall₂ IsRelisting tables others)
    (hother : IsRelisting table other)
    (hcolumns : table.columns.mapM table.convertColumn = .ok columns)
    (hkeys : other.allForeignKeys.mapM (ForeignKey.convert tables) = .ok rekeys) :
    other.convert others = .ok (sortedParts table.name columns rekeys
      (other.allIndexes.map table.convertIndex)) := by
  refine convert_eq_ok_iff.mpr ⟨columns, rekeys, ?_, ?_, ?_⟩
  · rw [hother.convertColumns]
    exact hcolumns
  · rw [convert_relistedTables htables]
    exact hkeys
  · rw [hother.name_eq, hother.convertIndex]

end

theorem exists_convert_relisting (htables : List.Forall₂ IsRelisting tables others)
    (hother : IsRelisting table other) (h : table.convert tables = .ok spec) :
    ∃ respec, other.convert others = .ok respec ∧ AgreesUpToTies spec respec ∧
      (IsSeparated spec → respec = spec) := by
  obtain ⟨columns, keys, hcolumns, hkeys, rfl⟩ := convert_eq_ok_iff.mp h
  obtain ⟨rekeys, hrekeys, hperm⟩ :=
    List.perm_comp_forall₂ hother.foreignKeys_perm (mapM_eq_ok_iff.mp hkeys)
  have hindexes := hother.indexes_perm.map table.convertIndex
  refine ⟨_, convert_eq_of_relisting htables hother hcolumns (mapM_eq_ok_iff.mpr hrekeys),
    agreesUpToTies_sortedParts hperm hindexes, fun hseparated => ?_⟩
  exact isSeparated_sortedParts_iff.mp hseparated _ _ hperm hindexes

theorem relistings_refl (tables : List Table) : List.Forall₂ IsRelisting tables tables :=
  List.forall₂_same.mpr fun _ _ => ⟨rfl, rfl, rfl, .refl _, .refl _⟩

/-- Parts that tie and differ can be listed the other way round. -/
theorem isSeparated_of_relistings (h : table.convert tables = .ok spec)
    (hall : ∀ other, IsRelisting table other → other.convert tables = .ok spec) :
    IsSeparated spec := by
  obtain ⟨columns, keys, hcolumns, hkeys, rfl⟩ := convert_eq_ok_iff.mp h
  refine isSeparated_sortedParts_iff.mpr fun rekeys reindexes hrekeys hreindexes => ?_
  obtain ⟨listed, hlisted, hlistedPerm⟩ :=
    List.perm_comp_forall₂ hrekeys (mapM_eq_ok_iff.mp hkeys).flip
  have hmade : List.Forall₂ (fun converted index => converted = table.convertIndex index)
      (table.allIndexes.map table.convertIndex) table.allIndexes :=
    List.forall₂_map_left_iff.mpr (List.forall₂_same.mpr fun _ _ => rfl)
  obtain ⟨indexes, hindexes, hindexesPerm⟩ := List.perm_comp_forall₂ hreindexes hmade
  have hreindexed : reindexes = indexes.map table.convertIndex := by
    rw [← List.forall₂_eq_eq_eq, List.forall₂_map_right_iff]
    exact hindexes
  have hother := isRelisting_listing hlistedPerm hindexesPerm
  have hlistedKeys : (table.listing listed indexes).allForeignKeys = listed :=
    allForeignKeys_listing fun key hkey => columns_ne_nil_of_mem (hlistedPerm.mem_iff.mp hkey)
  have hrekeyed : (table.listing listed indexes).allForeignKeys.mapM
      (ForeignKey.convert tables) = .ok rekeys := by
    rw [hlistedKeys]
    exact mapM_eq_ok_iff.mpr hlisted.flip
  have hconvert := convert_eq_of_relisting (relistings_refl tables) hother hcolumns hrekeyed
  rw [hall _ hother, allIndexes_listing, ← hreindexed] at hconvert
  exact (Except.ok.inj hconvert).symm

/-- What a table is converted into does not tell how the tables are listed, but for the order
of those foreign keys and indexes that tie.  So it is the same for all listings exactly if
those that tie are the same ones. -/
theorem convert_relisted (h : table.convert tables = .ok spec) :
    (∀ others other, List.Forall₂ IsRelisting tables others → IsRelisting table other →
      ∃ respec, other.convert others = .ok respec ∧ AgreesUpToTies spec respec) ∧
    (IsSeparated spec ↔ ∀ others other, List.Forall₂ IsRelisting tables others →
      IsRelisting table other → other.convert others = .ok spec) := by
  refine ⟨fun others other htables hother => ?_,
    fun hseparated others other htables hother => ?_, fun hall => ?_⟩
  · obtain ⟨respec, hrespec, hagrees, -⟩ := exists_convert_relisting htables hother h
    exact ⟨respec, hrespec, hagrees⟩
  · obtain ⟨respec, hrespec, -, hsame⟩ := exists_convert_relisting htables hother h
    rw [hrespec, hsame hseparated]
  · exact isSeparated_of_relistings h fun other => hall tables other (relistings_refl tables)

/-- A table of people. -/
def people (name : String) : Table where
  name := name
  columns := [{ name := "id", type := ⟨"Integer", []⟩, primaryKey := true }]

/-- Visits of an owner to a vet, with foreign keys of columns to people. -/
def visits (keys : List (String × String)) : Table where
  name := "visits"
  columns := [{ name := "owner", type := ⟨"Integer", []⟩ },
    { name := "vet", type := ⟨"Integer", []⟩ }]
  foreignKeys := keys.map fun key => { columns := [key.1], targets := [⟨key.2, some "id"⟩] }

/-- What visits are converted into. -/
def convertedVisits (keys : List (String × String)) : SqlAccess.Table where
  name := "visits"
  columns := [{ name := "owner", type := "INTEGER", nullable := true },
    { name := "vet", type := "INTEGER", nullable := true }]
  foreignKeys := keys.map fun key =>
    { columns := [key.1], table := some key.2, references := ["id"] }

theorem isRelisting_visits (first second : String × String) :
    IsRelisting (visits [first, second]) (visits [second, first]) where
  name_eq := rfl
  autoIncrement_eq := rfl
  columns_eq := rfl
  foreignKeys_perm := .swap _ _ _
  indexes_perm := .refl _

theorem convert_visits_eq {first second : String × String}
    (h : (visits [first, second]).allForeignKeys.mapM
      (ForeignKey.convert [people "owners", people "vets"]) =
        .ok (convertedVisits [first, second]).foreignKeys) :
    (visits [first, second]).convert [people "owners", people "vets"] =
      .ok (convertedVisits (if [second.1] < [first.1] then [second, first]
        else [first, second])) := by
  refine convert_eq_ok_iff.mpr ⟨(convertedVisits []).columns, _, rfl, h, ?_⟩
  have hsorted : sortedBy SqlAccess.ForeignKey.columns
      (convertedVisits [first, second]).foreignKeys =
        (convertedVisits (if [second.1] < [first.1] then [second, first]
          else [first, second])).foreignKeys := by
    refine (sortedBy_pair _ _ _).trans ?_
    rw [apply_ite convertedVisits, apply_ite SqlAccess.Table.foreignKeys]
    rfl
  have hnone : sortedBy SqlAccess.Index.name ((visits [first, second]).allIndexes.map
      (visits [first, second]).convertIndex) = [] := List.mergeSort_nil
  unfold sortedParts
  rw [hsorted, hnone]
  rfl

/-- Foreign keys over different columns are put in order. -/
theorem convert_relisted_visits :
    (visits [("vet", "vets"), ("owner", "owners")]).convert [people "owners", people "vets"] =
      .ok (convertedVisits [("owner", "owners"), ("vet", "vets")]) ∧
    (visits [("owner", "owners"), ("vet", "vets")]).convert [people "owners", people "vets"] =
      .ok (convertedVisits [("owner", "owners"), ("vet", "vets")]) := by
  have hspec : (visits [("vet", "vets"), ("owner", "owners")]).convert
      [people "owners", people "vets"] =
        .ok (convertedVisits [("owner", "owners"), ("vet", "vets")]) :=
    convert_visits_eq rfl
  have hseparated : IsSeparated (convertedVisits [("owner", "owners"), ("vet", "vets")]) :=
    ⟨by decide, by decide⟩
  exact ⟨hspec, (convert_relisted hspec).2.mp hseparated _ _ (relistings_refl _)
    (isRelisting_visits _ _)⟩

/-- Two foreign keys over one column stay as they are listed. -/
theorem convert_visits :
    IsRelisting (visits [("owner", "vets"), ("owner", "owners")])
      (visits [("owner", "owners"), ("owner", "vets")]) ∧
    (visits [("owner", "vets"), ("owner", "owners")]).convert [people "owners", people "vets"] =
      .ok (convertedVisits [("owner", "vets"), ("owner", "owners")]) ∧
    (visits [("owner", "owners"), ("owner", "vets")]).convert [people "owners", people "vets"] =
      .ok (convertedVisits [("owner", "owners"), ("owner", "vets")]) ∧
    convertedVisits [("owner", "vets"), ("owner", "owners")] ≠
      convertedVisits [("owner", "owners"), ("owner", "vets")] := by
  refine ⟨isRelisting_visits _ _, convert_visits_eq rfl, convert_visits_eq rfl, fun hsame => ?_⟩
  exact absurd (congrArg SqlAccess.Table.foreignKeys hsame) (by decide)

end Blueprint

end SqlAccess
