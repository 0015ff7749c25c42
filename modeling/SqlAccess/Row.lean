import SqlAccess.Value
import SqlAccess.Text.Case

/-!
# Rows

A row names its values and keeps them in order.  Putting a value under a name
that is already there leaves the name in its place, so a list of entries with
repeated names turns into a row in which each name stands where it came first
and has the value that came last (`ofList`).

Main statement: the names of a row that is built in this way are distinct
(`nodup_names_ofList`).
-/

namespace SqlAccess

/-- Named values in order. -/
structure Row where
  entries : List (String × Value)
  deriving Repr

namespace Row

/-- The row without entries. -/
def empty : Row := ⟨[]⟩

instance : Inhabited Row := ⟨empty⟩

/-- The names in order. -/
def names (row : Row) : List String :=
  row.entries.map Prod.fst

/-- The value under a name. -/
def get? (row : Row) (name : String) : Option Value :=
  row.entries.lookup name

/-- Puts a value under a name in a list of entries. -/
def putEntry (name : String) (value : Value) : List (String × Value) → List (String × Value)
  | [] => [(name, value)]
  | entry :: entries =>
    if entry.1 = name then (name, value) :: entries else entry :: putEntry name value entries

/-- Puts a value under a name. -/
def put (row : Row) (name : String) (value : Value) : Row :=
  ⟨putEntry name value row.entries⟩

/-- Puts entries one after the other. -/
def putAll (row : Row) (entries : List (String × Value)) : Row :=
  entries.foldl (fun row entry => row.put entry.1 entry.2) row

/-- The row that a list of entries describes. -/
def ofList (entries : List (String × Value)) : Row :=
  empty.putAll entries

/-- The row without the entry of a name. -/
def erase (row : Row) (name : String) : Row :=
  ⟨row.entries.filter fun entry => entry.1 ≠ name⟩

/-- The entries whose name satisfies a condition. -/
def restrict (row : Row) (keep : String → Bool) : Row :=
  ⟨row.entries.filter fun entry => keep entry.1⟩

/-! ## Result rows -/

/-- Whether a column name answers to a name: they are equal, or they consist of
ASCII characters alone and are equal up to the case of letters. -/
def answersTo (column name : String) : Bool :=
  column == name ||
    (column.toList.all (·.toNat < 128) && name.toList.all (·.toNat < 128)
      && Text.asciiSmalls column == Text.asciiSmalls name)

/-- The cell of the first column that answers to a name. -/
def cell (columns : List String) (cells : List Value) (name : String) : Value :=
  let found := (columns.zip cells).find? fun column => answersTo column.1 name
  (found.map Prod.snd).getD .null

/-- The row of a result with the given columns: each column name in the order
of first appearance, with the cell that is found under it. -/
def ofCells (columns : List String) (cells : List Value) : Row :=
  ofList (columns.map fun name => (name, cell columns cells name))

/-! ## Names stay distinct -/

theorem names_putEntry (name : String) (value : Value) (entries : List (String × Value)) :
    (putEntry name value entries).map Prod.fst =
      if name ∈ entries.map Prod.fst then entries.map Prod.fst
      else entries.map Prod.fst ++ [name] := by
  induction entries with
  | nil => simp [putEntry]
  | cons entry entries ih =>
    by_cases h : entry.1 = name
    · simp [putEntry, h]
    · have h' : ¬ name = entry.1 := fun e => h e.symm
      by_cases hm : name ∈ entries.map Prod.fst <;> simp_all [putEntry]

theorem nodup_names_put {row : Row} (h : row.names.Nodup) (name : String) (value : Value) :
    (row.put name value).names.Nodup := by
  simp only [names, put, names_putEntry] at *
  split
  · exact h
  · rename_i hn
    rw [List.nodup_append]
    exact ⟨h, by simp, by rintro a ha b hb rfl; simp at hb; subst hb; exact hn ha⟩

theorem nodup_names_putAll {row : Row} (h : row.names.Nodup) (entries : List (String × Value)) :
    (row.putAll entries).names.Nodup := by
  induction entries generalizing row with
  | nil => exact h
  | cons entry entries ih => exact ih (nodup_names_put h entry.1 entry.2)

/-- The names of a row are distinct. -/
theorem nodup_names_ofList (entries : List (String × Value)) : (ofList entries).names.Nodup :=
  nodup_names_putAll (by simp [names, empty]) entries

end Row

end SqlAccess
