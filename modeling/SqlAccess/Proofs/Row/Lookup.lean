import Mathlib.Data.List.Nodup
import SqlAccess.Row.Lookup

/-!
# What rows have under their names

A row has under each name what was put there last, and what was put under other names does
not matter (`get?_put`).  So entries with distinct names that are put into a row one after
the other are found there, and elsewhere the row is what it was (`get?_putAll`).

The rows of a result name its columns.  Where no column name answers to another one, each
has its own cell (`ofCells_eq_zip`).
-/

namespace SqlAccess.Row

variable {row : Row} {entries : List (String × Value)} {columns : List String}
  {cells : List Value}

/-! ## Lookups -/

theorem lookup_of_get? {name : String} {value : Value} (h : row.get? name = some value) :
    row.lookup name = .ok value := by
  unfold lookup
  rw [h]

theorem lookup_cons_eq_ite (entry : String × Value) (entries : List (String × Value))
    (name : String) :
    (entry :: entries).lookup name =
      if name = entry.1 then some entry.2 else entries.lookup name := by
  rw [List.lookup_cons]
  by_cases h : name = entry.1
  · rw [if_pos h, beq_iff_eq.mpr h]
  · rw [if_neg h, beq_eq_false_iff_ne.mpr h]

theorem lookup_filter (keep : String → Bool) (entries : List (String × Value)) (name : String) :
    (entries.filter fun entry => keep entry.1).lookup name =
      if keep name then entries.lookup name else none := by
  induction entries with
  | nil => simp
  | cons entry entries ih =>
      rw [List.filter_cons, lookup_cons_eq_ite]
      by_cases hkeep : keep entry.1
      · rw [if_pos hkeep, lookup_cons_eq_ite, ih]
        by_cases hname : name = entry.1
        · simp [hname, hkeep]
        · simp [hname]
      · rw [if_neg hkeep, ih]
        by_cases hname : name = entry.1
        · simp [hname, hkeep]
        · simp [hname]

theorem get?_restrict (row : Row) (keep : String → Bool) (name : String) :
    (row.restrict keep).get? name = if keep name then row.get? name else none :=
  lookup_filter keep row.entries name

theorem nodup_names_restrict (h : row.names.Nodup) (keep : String → Bool) :
    (row.restrict keep).names.Nodup :=
  h.sublist (List.filter_sublist.map _)

/-! ## Putting -/

theorem lookup_putEntry (name : String) (value : Value) (entries : List (String × Value))
    (other : String) :
    (putEntry name value entries).lookup other =
      if other = name then some value else entries.lookup other := by
  induction entries with
  | nil => exact lookup_cons_eq_ite (name, value) [] other
  | cons entry entries ih =>
      unfold putEntry
      by_cases hentry : entry.1 = name
      · rw [if_pos hentry, lookup_cons_eq_ite, lookup_cons_eq_ite, hentry]
        by_cases hother : other = name <;> simp [hother]
      · rw [if_neg hentry, lookup_cons_eq_ite, lookup_cons_eq_ite, ih]
        by_cases hother : other = entry.1
        · rw [if_pos hother, if_pos hother, if_neg (hother ▸ hentry)]
        · rw [if_neg hother, if_neg hother]

theorem get?_put (row : Row) (name : String) (value : Value) (other : String) :
    (row.put name value).get? other = if other = name then some value else row.get? other :=
  lookup_putEntry name value row.entries other

/-- Entries with distinct names are all found after they were put, and under other names
nothing has changed. -/
theorem get?_putAll (h : (entries.map Prod.fst).Nodup) (row : Row) (name : String) :
    (row.putAll entries).get? name = (entries.lookup name).or (row.get? name) := by
  induction entries generalizing row with
  | nil => rfl
  | cons entry entries ih =>
      rw [List.map_cons, List.nodup_cons] at h
      have hrest : (row.putAll (entry :: entries)).get? name =
          (entries.lookup name).or ((row.put entry.1 entry.2).get? name) := ih h.2 _
      rw [hrest, get?_put, lookup_cons_eq_ite]
      by_cases hname : name = entry.1
      · have hnone : entries.lookup name = none := by
          refine List.lookup_eq_none_iff.mpr fun found hfound => bne_iff_ne.mpr ?_
          rintro rfl
          exact h.1 (hname ▸ List.mem_map_of_mem hfound)
        rw [hnone, if_pos hname, if_pos hname, Option.none_or, Option.some_or]
      · rw [if_neg hname, if_neg hname]

theorem putEntry_of_notMem {name : String} (h : name ∉ entries.map Prod.fst) (value : Value) :
    putEntry name value entries = entries ++ [(name, value)] := by
  induction entries with
  | nil => rfl
  | cons entry entries ih =>
      rw [List.map_cons, List.mem_cons, not_or] at h
      rw [putEntry, if_neg (Ne.symm h.1), ih h.2, List.cons_append]

/-- Entries with names that are new to a row come behind those that it has. -/
theorem entries_putAll (h : (row.names ++ entries.map Prod.fst).Nodup) :
    (row.putAll entries).entries = row.entries ++ entries := by
  induction entries generalizing row with
  | nil => exact (List.append_nil _).symm
  | cons entry entries ih =>
      have hnew : entry.1 ∉ row.names := fun hmem =>
        (List.nodup_append.mp h).2.2 _ hmem _ List.mem_cons_self rfl
      have hput : (row.put entry.1 entry.2).entries = row.entries ++ [entry] :=
        putEntry_of_notMem hnew entry.2
      have hnames : (row.put entry.1 entry.2).names = row.names ++ [entry.1] := by
        rw [names, hput, List.map_append]
        rfl
      have hrest : ((row.put entry.1 entry.2).putAll entries).entries =
          (row.put entry.1 entry.2).entries ++ entries := ih (by
        rwa [hnames, List.append_assoc, List.singleton_append])
      rw [hput, List.append_assoc, List.singleton_append] at hrest
      exact hrest

theorem ofList_of_nodup (h : (entries.map Prod.fst).Nodup) : ofList entries = ⟨entries⟩ := by
  have hempty : (empty.names ++ entries.map Prod.fst).Nodup := h
  exact congrArg Row.mk (entries_putAll hempty)

/-! ## Rows of a result -/

@[simp] theorem answersTo_self (name : String) : answersTo name name = true := by
  simp [answersTo]

/-- Columns of which none answers to another one have their own cells. -/
theorem map_cell_eq_zip (h : columns.Pairwise fun first second => answersTo first second = false)
    (hlength : columns.length = cells.length) :
    columns.map (fun name => (name, cell columns cells name)) = columns.zip cells := by
  induction columns generalizing cells with
  | nil => rfl
  | cons column columns ih =>
      obtain ⟨first, others, rfl⟩ := List.exists_cons_of_length_eq_add_one hlength.symm
      rw [List.pairwise_cons] at h
      have hfirst : cell (column :: columns) (first :: others) column = first := by
        simp [cell]
      have hothers : ∀ name ∈ columns,
          cell (column :: columns) (first :: others) name = cell columns others name :=
        fun name hname => by simp [cell, h.1 name hname]
      rw [List.map_cons, List.zip_cons_cons, hfirst, ← ih h.2 (Nat.succ.inj hlength)]
      exact congrArg _ (List.map_congr_left fun name hname => by rw [hothers name hname])

theorem ofCells_eq_zip (h : columns.Pairwise fun first second => answersTo first second = false)
    (hlength : columns.length = cells.length) : ofCells columns cells = ⟨columns.zip cells⟩ := by
  have hnodup : columns.Nodup := h.imp fun {first second} hanswers heq => by
    rw [heq, answersTo_self] at hanswers
    cases hanswers
  rw [ofCells, map_cell_eq_zip h hlength]
  refine ofList_of_nodup ?_
  rwa [List.map_fst_zip (Nat.le_of_eq hlength)]

end SqlAccess.Row
