import SqlAccess.Table
import SqlAccess.Text.Case

/-!
# Live schemas

The tables that a database has, and what `CREATE TABLE` and `ADD COLUMN` make of them.
Names that differ by the case of ASCII letters alone are the same to an engine, so a
table is found under the small form of its name; it keeps the spelling that it was
created with.

`LiveSchema.establish` is what a declared table comes to: a table that is not there yet
is put there, one that is there in the same spelling gets the columns that it lacks, and
one in another spelling stays as it is.  Whichever it is, no column is lost
(`has_establish_of_has`), and unless the spelling is another one every declared column is
there afterwards (`has_establish`).
-/

namespace SqlAccess

open SqlAccess.Text (asciiSmalls)

/-- Names that differ by the case of ASCII letters at most. -/
def SameName (name other : String) : Prop :=
  asciiSmalls name = asciiSmalls other

instance (name other : String) : Decidable (SameName name other) :=
  inferInstanceAs (Decidable (_ = _))

/-- A table that a database has, in the spelling that it was created with. -/
structure LiveTable where
  name : String
  columns : List String
  deriving DecidableEq, Repr

/-- A column is there, in whatever spelling. -/
def LiveTable.Has (table : LiveTable) (column : String) : Prop :=
  ∃ other ∈ table.columns, SameName other column

instance (table : LiveTable) (column : String) : Decidable (table.Has column) :=
  inferInstanceAs (Decidable (∃ _ ∈ table.columns, _))

/-- The tables that a database has, each under the small form of its name. -/
@[ext] structure LiveSchema where
  under : String → Option LiveTable
  small_name : ∀ {small table}, under small = some table → asciiSmalls table.name = small

namespace LiveSchema

/-- No tables. -/
def empty : LiveSchema where
  under _ := none
  small_name := nofun

/-- The table of a name, in whatever spelling. -/
def table? (live : LiveSchema) (name : String) : Option LiveTable :=
  live.under (asciiSmalls name)

/-- A column is there in the table of a name. -/
def Has (live : LiveSchema) (name column : String) : Prop :=
  ∃ table, live.table? name = some table ∧ table.Has column

instance (live : LiveSchema) (name column : String) : Decidable (live.Has name column) :=
  inferInstanceAs (Decidable (∃ table ∈ live.table? name, table.Has column))

/-- The names of the columns of a table; none, if there is no such table. -/
def columns (live : LiveSchema) (name : String) : List String :=
  ((live.table? name).map LiveTable.columns).getD []

/-- How many tables have a name in just this spelling. -/
def count (live : LiveSchema) (name : String) : Nat :=
  if (live.table? name).any fun table => table.name == name then 1 else 0

/-- Puts a table in the place of the one that has the same name, if there is one. -/
def put (live : LiveSchema) (table : LiveTable) : LiveSchema where
  under small := if small = asciiSmalls table.name then some table else live.under small
  small_name := by
    intro small found h
    split at h
    · rename_i hsmall
      rw [← Option.some.inj h, hsmall]
    · exact live.small_name h

/-- Creates a table, unless there is one of the same name. -/
def create (live : LiveSchema) (table : LiveTable) : LiveSchema :=
  if (live.table? table.name).isSome then live else live.put table

/-- Adds a column to a table, provided that the table is there and the column is not. -/
def add (live : LiveSchema) (name column : String) : Option LiveSchema :=
  match live.table? name with
  | none => none
  | some table =>
    if table.Has column then none
    else some (live.put { table with columns := table.columns ++ [column] })

/-- What a declared table comes to. -/
def establish (live : LiveSchema) (name : String) (columns : List String) : LiveSchema :=
  match live.table? name with
  | none => live.put ⟨name, columns⟩
  | some table =>
    if table.name = name then
      live.put { table with
        columns := table.columns ++ columns.filter fun column => !table.columns.contains column }
    else live

section

variable {live : LiveSchema} {table found : LiveTable} {name other column : String}
  {columns : List String}

/-! ## Putting a table in its place -/

theorem table?_put_of_sameName (h : SameName name table.name) :
    (live.put table).table? name = some table :=
  if_pos h

theorem table?_put_of_not_sameName (h : ¬ SameName name table.name) :
    (live.put table).table? name = live.table? name :=
  if_neg h

theorem put_put (h : SameName found.name table.name) :
    (live.put found).put table = live.put table := by
  refine LiveSchema.ext (funext fun small => ?_)
  by_cases hsmall : small = asciiSmalls table.name
  · exact (if_pos hsmall).trans (if_pos hsmall).symm
  · have hother : small ≠ asciiSmalls found.name := fun hsame => hsmall (hsame.trans h)
    calc ((live.put found).put table).under small
        = (live.put found).under small := if_neg hsmall
      _ = live.under small := if_neg hother
      _ = (live.put table).under small := (if_neg hsmall).symm

theorem put_of_table? (h : live.table? name = some table) : live.put table = live := by
  refine LiveSchema.ext (funext fun small => ?_)
  by_cases hsmall : small = asciiSmalls table.name
  · rw [hsmall, live.small_name h]
    exact (if_pos (live.small_name h).symm).trans h.symm
  · exact if_neg hsmall

theorem has_put (hcolumns : ∀ former, live.table? table.name = some former →
      ∀ column, former.Has column → table.Has column)
    (h : live.Has name column) : (live.put table).Has name column := by
  obtain ⟨former, hformer, hhas⟩ := h
  by_cases hsame : SameName name table.name
  · refine ⟨table, table?_put_of_sameName hsame, hcolumns former ?_ column hhas⟩
    exact (congrArg live.under hsame).symm.trans hformer
  · exact ⟨former, (table?_put_of_not_sameName hsame).trans hformer, hhas⟩

theorem of_add_eq_some {after : LiveSchema} (hfound : live.table? name = some table)
    (h : live.add name column = some after) : ¬ table.Has column ∧
      after = live.put { table with columns := table.columns ++ [column] } := by
  rw [add, hfound] at h
  dsimp only at h
  split at h
  · cases h
  · rename_i hnew
    exact ⟨hnew, (Option.some.inj h).symm⟩

/-- A column is added behind those that are there. -/
theorem columns_of_add_eq_some {after : LiveSchema} (h : live.add name column = some after) :
    after.columns name = live.columns name ++ [column] := by
  cases hfound : live.table? name with
  | none =>
      rw [add, hfound] at h
      cases h
  | some table =>
      obtain ⟨-, rfl⟩ := of_add_eq_some hfound h
      have hadded : (live.put { table with columns := table.columns ++ [column] }).table? name =
          some { table with columns := table.columns ++ [column] } :=
        table?_put_of_sameName (live.small_name hfound).symm
      rw [columns, columns, hfound, hadded]
      rfl

/-! ## Establishing a table -/

theorem establish_of_none (h : live.table? name = none) :
    live.establish name columns = live.put ⟨name, columns⟩ := by
  rw [establish, h]

theorem establish_of_some (h : live.table? name = some table) (hname : table.name = name) :
    live.establish name columns = live.put { table with
      columns := table.columns ++
        columns.filter fun column => !table.columns.contains column } := by
  rw [establish, h]
  exact if_pos hname

theorem establish_of_ne (h : live.table? name = some table) (hname : table.name ≠ name) :
    live.establish name columns = live := by
  rw [establish, h]
  exact if_neg hname

/-- No column of any table is lost. -/
theorem has_establish_of_has (h : live.Has other column) :
    (live.establish name columns).Has other column := by
  cases htable : live.table? name with
  | none =>
      rw [establish_of_none htable]
      refine has_put (fun former hformer => ?_) h
      rw [htable] at hformer
      cases hformer
  | some table =>
      by_cases hname : table.name = name
      · rw [establish_of_some htable hname]
        refine has_put (fun former hformer => ?_) h
        obtain rfl : table = former := by
          rw [hname, htable] at hformer
          exact Option.some.inj hformer
        rintro column ⟨spelled, hspelled, hsame⟩
        exact ⟨spelled, List.mem_append_left _ hspelled, hsame⟩
      · rwa [establish_of_ne htable hname]

/-- Every declared column is there, unless the table is there in another spelling. -/
theorem has_establish (hspelling : ∀ table, live.table? name = some table → table.name = name)
    (h : column ∈ columns) : (live.establish name columns).Has name column := by
  cases htable : live.table? name with
  | none =>
      rw [establish_of_none htable]
      exact ⟨⟨name, columns⟩, table?_put_of_sameName rfl, column, h, rfl⟩
  | some table =>
      have hname := hspelling table htable
      rw [establish_of_some htable hname]
      refine ⟨_, table?_put_of_sameName (congrArg asciiSmalls hname.symm), column, ?_, rfl⟩
      by_cases hthere : column ∈ table.columns
      · exact List.mem_append_left _ hthere
      · refine List.mem_append_right _ (List.mem_filter.mpr ⟨h, ?_⟩)
        simpa using hthere

theorem count_pos_iff : 0 < live.count name ↔
    ∃ table, live.table? name = some table ∧ table.name = name := by
  unfold count
  cases live.table? name with
  | none => simp
  | some table => by_cases hname : table.name = name <;> simp [hname]

/-- Where the question for the table finds none, creating it is all there is to do. -/
theorem create_eq_establish (h : ¬ 0 < live.count name) :
    live.create ⟨name, columns⟩ = live.establish name columns := by
  cases htable : live.table? name with
  | none =>
      rw [establish_of_none htable, create, htable]
      rfl
  | some table =>
      have hname : table.name ≠ name := fun hname => h (count_pos_iff.mpr ⟨table, htable, hname⟩)
      rw [establish_of_ne htable hname, create, htable]
      rfl

end

end LiveSchema

end SqlAccess
