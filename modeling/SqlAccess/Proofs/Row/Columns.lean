import SqlAccess.Proofs.Row.Lookup

/-!
# What a result row has under its columns

A row of a result is made by looking its column names up, one after the other: under each of
them it has the cell of the first column that answers to the name (`Reads`, `reads_ofCells`).

This is the column's own cell as long as no column before it answers to its name.  Names that
differ in the case of ASCII letters alone do answer to each other, and then the row has the
cells of its columns exactly if such columns have equal cells (`Reads.eq_zip_iff`).
-/

namespace SqlAccess.Row

variable {columns : List String} {cells : List Value} {row : Row} {name : String}

/-- The position of the column that is found under a name: of the first one that answers to
it. -/
def found (columns : List String) (name : String) : Nat :=
  columns.findIdx fun column => answersTo column name

theorem found_cons (column : String) (columns : List String) (name : String) :
    found (column :: columns) name =
      if answersTo column name then 0 else found columns name + 1 := by
  unfold found
  rw [List.findIdx_cons]
  cases answersTo column name <;> rfl

theorem getElem?_found (h : columns.length = cells.length) (hname : name ∈ columns) :
    cells[found columns name]? = some (cell columns cells name) := by
  induction columns generalizing cells with
  | nil => cases hname
  | cons column columns ih =>
      obtain ⟨first, others, rfl⟩ := List.exists_cons_of_length_eq_add_one h.symm
      rw [found_cons]
      by_cases hanswers : answersTo column name = true
      · rw [if_pos hanswers]
        simp [cell, hanswers]
      · rw [if_neg hanswers, List.getElem?_cons_succ]
        have hne : name ≠ column := fun heq => hanswers (heq ▸ answersTo_self name)
        rw [ih (Nat.succ.inj h) ((List.mem_cons.mp hname).resolve_left hne)]
        simp [cell, hanswers]

/-- A row names columns in their order, and under each of them it has the cell of the first
column that answers to the name. -/
structure Reads (columns : List String) (cells : List Value) (row : Row) : Prop where
  names_eq : row.names = columns
  get?_eq : ∀ name ∈ columns, row.get? name = cells[found columns name]?

theorem entries_ofCells (h : columns.Nodup) :
    ofCells columns cells = ⟨columns.map fun name => (name, cell columns cells name)⟩ := by
  refine ofList_of_nodup ?_
  rw [List.map_map]
  exact (List.map_id columns).symm ▸ h

theorem lookup_map_self (value : String → Value) (h : name ∈ columns) :
    (columns.map fun name => (name, value name)).lookup name = some (value name) := by
  induction columns with
  | nil => cases h
  | cons column columns ih =>
      rw [List.map_cons, lookup_cons_eq_ite]
      by_cases hname : name = column
      · rw [if_pos hname, hname]
      · rw [if_neg hname, ih ((List.mem_cons.mp h).resolve_left hname)]

theorem reads_ofCells (h : columns.Nodup) (hlength : columns.length = cells.length) :
    Reads columns cells (ofCells columns cells) where
  names_eq := by
    rw [entries_ofCells h, names, List.map_map]
    exact List.map_id columns
  get?_eq name hname := by
    rw [entries_ofCells h, getElem?_found hlength hname]
    exact lookup_map_self (cell columns cells) hname

/-! ## Columns and cells side by side -/

theorem lookup_zip (h : columns.Nodup) (hlength : columns.length = cells.length) {position : Nat}
    (hposition : columns[position]? = some name) :
    (columns.zip cells).lookup name = cells[position]? := by
  induction columns generalizing cells position with
  | nil => cases hposition
  | cons column columns ih =>
      obtain ⟨first, others, rfl⟩ := List.exists_cons_of_length_eq_add_one hlength.symm
      rw [List.nodup_cons] at h
      rw [List.zip_cons_cons, lookup_cons_eq_ite]
      cases position with
      | zero =>
          obtain rfl := Option.some.inj hposition
          rw [if_pos rfl, List.getElem?_cons_zero]
      | succ position =>
          rw [List.getElem?_cons_succ] at hposition
          have hne : name ≠ column := fun heq => h.1 (heq ▸ List.mem_of_getElem? hposition)
          rw [if_neg hne, ih h.2 (Nat.succ.inj hlength) hposition, List.getElem?_cons_succ]

/-- Entries with distinct names are given by their names and what is found under them. -/
theorem entries_eq_of_lookup {entries others : List (String × Value)}
    (h : (entries.map Prod.fst).Nodup) (hnames : entries.map Prod.fst = others.map Prod.fst)
    (hlookup : ∀ name ∈ entries.map Prod.fst, entries.lookup name = others.lookup name) :
    entries = others := by
  induction entries generalizing others with
  | nil => exact (List.map_eq_nil_iff.mp hnames.symm).symm
  | cons entry entries ih =>
      obtain ⟨other, others, rfl⟩ : ∃ other rest, others = other :: rest :=
        List.exists_cons_of_ne_nil fun hnil => by rw [hnil] at hnames; cases hnames
      rw [List.map_cons, List.map_cons, List.cons.injEq] at hnames
      rw [List.map_cons, List.nodup_cons] at h
      have hvalue : some entry.2 = some other.2 := by
        have hfirst := hlookup entry.1 List.mem_cons_self
        rwa [lookup_cons_eq_ite, if_pos rfl, lookup_cons_eq_ite, if_pos hnames.1] at hfirst
      have hrest : entries = others := by
        refine ih h.2 hnames.2 fun name hname => ?_
        have hne : name ≠ entry.1 := fun heq => h.1 (heq ▸ hname)
        have hlater := hlookup name (List.mem_cons_of_mem _ hname)
        rwa [lookup_cons_eq_ite, if_neg hne, lookup_cons_eq_ite,
          if_neg (hnames.1 ▸ hne)] at hlater
      rw [hrest, Prod.ext hnames.1 (Option.some.inj hvalue)]

/-- Each column has its own cell exactly if the column that is found under its name has the
same one. -/
theorem Reads.eq_zip_iff (hreads : Reads columns cells row) (h : columns.Nodup)
    (hlength : columns.length = cells.length) :
    row = ⟨columns.zip cells⟩ ↔ ∀ (position : Nat) (name : String),
      columns[position]? = some name → cells[found columns name]? = cells[position]? := by
  constructor
  · rintro rfl position name hposition
    rw [← hreads.get?_eq name (List.mem_of_getElem? hposition)]
    exact lookup_zip h hlength hposition
  · intro hcells
    have hnames : row.entries.map Prod.fst = columns := hreads.names_eq
    refine congrArg Row.mk (entries_eq_of_lookup (hnames ▸ h) ?_ fun name hname => ?_)
    · rw [hnames, List.map_fst_zip (Nat.le_of_eq hlength)]
    · rw [hnames] at hname
      obtain ⟨position, hposition⟩ := List.mem_iff_getElem?.mp hname
      rw [lookup_zip h hlength hposition, ← hcells position name hposition]
      exact hreads.get?_eq name hname

end SqlAccess.Row
