import SqlAccess.Blueprint.Conversion
import SqlAccess.Proofs.Statement.Plain

/-!
# Checked blueprints

What the checks of a blueprint leave standing.  Each foreign key of a checked table
has as many targets as columns, its columns are columns of the table, and its targets
are in one table (`ForeignKey.FitsIn`).  The foreign key of a single column fits by
itself, so all foreign keys of a checked table do (`fitsIn_of_mem_allForeignKeys`).
-/

namespace SqlAccess.Blueprint

/-! ## Checks that pass -/

section

variable {ε α β : Type}

theorem forall_of_forM_eq_ok {check : α → Except ε Unit} {items : List α}
    (h : items.forM check = .ok ()) : ∀ item ∈ items, check item = .ok () := by
  induction items with
  | nil => exact fun _ hmem => absurd hmem List.not_mem_nil
  | cons item items ih =>
      obtain ⟨⟨⟩, hfirst, hrest⟩ := exists_of_bind_eq_ok h
      exact List.forall_mem_cons.mpr ⟨hfirst, ih hrest⟩

/-- What every step preserves holds in the end. -/
theorem of_foldlM_eq_ok {step : β → α → Except ε β} {holds : β → Prop} {items : List α}
    (hstep : ∀ before, holds before → ∀ item ∈ items, ∀ after,
      step before item = .ok after → holds after)
    {first last : β} (hfirst : holds first) (h : items.foldlM step first = .ok last) :
    holds last := by
  induction items generalizing first with
  | nil => exact Except.ok.inj h ▸ hfirst
  | cons item items ih =>
      rw [List.foldlM_cons] at h
      obtain ⟨next, hnext, hrest⟩ := exists_of_bind_eq_ok h
      have hholds := hstep first hfirst item List.mem_cons_self next hnext
      exact ih (fun before hbefore other hother => hstep before hbefore other
        (List.mem_cons_of_mem item hother)) hholds hrest

end

/-! ## Foreign keys -/

section

variable {table : Table} {tables checked : List Table} {name : String} {column : Column}

theorem mem_of_column?_eq_some (h : table.column? name = some column) :
    column ∈ table.columns ∧ column.key = name := by
  have hkey : (column.key == name) = true :=
    List.find?_some (p := fun column : Column => column.key == name) h
  exact ⟨List.mem_of_find?_eq_some h, by simpa using hkey⟩

theorem mem_of_table?_eq_some (h : table? tables name = some table) :
    table ∈ tables ∧ table.name = name := by
  have hname : (table.name == name) = true :=
    List.find?_some (p := fun table : Table => table.name == name) h
  exact ⟨List.mem_of_find?_eq_some h, by simpa using hname⟩

/-- A foreign key has as many targets as columns, its columns are columns of the
table, and its targets are in one table. -/
structure ForeignKey.FitsIn (table : Table) (key : ForeignKey) : Prop where
  sides : key.columns.length = key.targets.length
  columns : ∀ name ∈ key.columns, ∃ column ∈ table.columns, column.key = name
  targets : ∀ target ∈ key.targets, some target.table = (key.targets.map Target.table).head?

theorem fitsIn_of_checks {key : ForeignKey} (hsides : table.checkSides key = .ok ())
    (h : table.checkForeignKey key = .ok ()) : key.FitsIn table := by
  unfold Table.checkForeignKey at h
  cases hunknown : table.unknownKey? key.columns with
  | some unknown =>
      rw [hunknown] at h
      cases h
  | none =>
      rw [hunknown] at h
      constructor
      · unfold Table.checkSides at hsides
        split at hsides
        · assumption
        · cases hsides
      · intro name hname
        have hfound := List.find?_eq_none.mp hunknown name hname
        obtain ⟨column, hcolumn⟩ : ∃ column, table.column? name = some column := by
          simpa [Option.isNone_iff_eq_none, Option.ne_none_iff_exists'] using hfound
        exact ⟨column, mem_of_column?_eq_some hcolumn⟩
      · intro target htarget
        by_contra hother
        have hany : ((key.targets.map Target.table).any fun name =>
            some name ≠ (key.targets.map Target.table).head?) = true :=
          List.any_eq_true.mpr ⟨target.table, List.mem_map_of_mem htarget, by simpa using hother⟩
        simp only [hany] at h
        cases h

/-- A table whose foreign keys fit. -/
def Table.IsWellFormed (table : Table) : Prop :=
  ∀ key ∈ table.foreignKeys, key.FitsIn table

theorem fitsIn_of_mem_allForeignKeys (h : table.IsWellFormed) {key : ForeignKey}
    (hkey : key ∈ table.allForeignKeys) : key.FitsIn table ∧ key.columns ≠ [] := by
  rcases List.mem_append.mp hkey with hown | hstated
  · obtain ⟨column, hcolumn, htarget⟩ := List.mem_filterMap.mp hown
    obtain ⟨target, -, rfl⟩ := Option.map_eq_some_iff.mp htarget
    refine ⟨⟨rfl, ?_, ?_⟩, by simp⟩
    · intro name hname
      exact ⟨column, hcolumn, (List.mem_singleton.mp hname).symm⟩
    · intro other hother
      rw [List.mem_singleton.mp hother]
      rfl
  · obtain ⟨hmem, hne⟩ := List.mem_filter.mp hstated
    exact ⟨h key hmem, by simpa using hne⟩

/-! ## Checked tables -/

/-- A table is left out, or it is added and its foreign keys fit. -/
theorem addChecked_cases {after : List Table} (h : addChecked checked table = .ok after) :
    after = checked ∨ (after = checked ++ [table] ∧ table.IsWellFormed) := by
  unfold addChecked at h
  obtain ⟨_, -, hrest⟩ := exists_of_bind_eq_ok h
  obtain ⟨⟨⟩, hsides, hnames⟩ := exists_of_bind_eq_ok hrest
  split at hnames
  · split at hnames
    · exact .inl (Except.ok.inj hnames).symm
    · cases hnames
  · obtain ⟨_, -, hparts⟩ := exists_of_bind_eq_ok hnames
    obtain ⟨⟨⟩, hkeys, hindexes⟩ := exists_of_bind_eq_ok hparts
    obtain ⟨_, -, hafter⟩ := exists_of_bind_eq_ok hindexes
    refine .inr ⟨(Except.ok.inj hafter).symm, fun key hkey => ?_⟩
    exact fitsIn_of_checks (forall_of_forM_eq_ok hsides key hkey)
      (forall_of_forM_eq_ok hkeys key hkey)

theorem mem_of_check (h : check tables = .ok checked) :
    ∀ table ∈ checked, table ∈ tables ∧ table.IsWellFormed := by
  have hstep : ∀ before : List Table, (∀ table ∈ before, table ∈ tables ∧ table.IsWellFormed) →
      ∀ table ∈ tables, ∀ after, addChecked before table = .ok after →
        ∀ table ∈ after, table ∈ tables ∧ table.IsWellFormed := by
    intro before hbefore table htable after hafter
    rcases addChecked_cases hafter with rfl | ⟨rfl, hwell⟩
    · exact hbefore
    · exact List.forall_mem_append.mpr ⟨hbefore, List.forall_mem_singleton.mpr ⟨htable, hwell⟩⟩
  exact of_foldlM_eq_ok hstep (fun _ hnone => absurd hnone List.not_mem_nil) h

end

end SqlAccess.Blueprint
