import SqlAccess.Catalog.Info
import SqlAccess.Proofs.Row.Lookup
import SqlAccess.Proofs.Sorting.Stable
import SqlAccess.Proofs.Statement.Plain
import SqlAccess.Proofs.Value.Integers

/-!
# Rows in the order of a number

Rows that hold integers under a name are sorted by these (`Row.sortedBy_eq`).
-/

namespace SqlAccess.Row

/-- The number that a row is placed by; zero, if it is placed by anything else. -/
def placeOf (entry : Value × Row) : Int :=
  match entry.1 with
  | .int number => number
  | _ => 0

theorem compares_placeOf :
    Sorting.Compares (fun x y : Value × Row => x.1.isBelow y.1) placeOf
      fun entry => ∃ number, entry.1 = .int number := by
  rintro ⟨_, row⟩ ⟨_, other⟩ ⟨number, rfl⟩ ⟨bound, rfl⟩
  exact Value.isBelow_int number bound

theorem column_eq {name : String} {values : List Value} {rows : List Row}
    (h : List.Forall₂ (fun value row => row.get? name = some value) values rows) :
    column name rows = .ok values :=
  mapM_eq_ok_iff.mpr (h.flip.imp fun _ _ hget => lookup_of_get? hget)

theorem sortedBy_eq {name : String} {numbers : List Int} {rows : List Row}
    (h : List.Forall₂ (fun number row => row.get? name = some (.int number)) numbers rows) :
    sortedBy name rows = .ok ((SqlAccess.sortedBy Prod.fst (numbers.zip rows)).map Prod.snd) := by
  have hkeys : column name rows = .ok (numbers.map .int) :=
    column_eq (List.forall₂_map_left_iff.mpr h)
  have hzip : (numbers.map Value.int).zip rows =
      (numbers.zip rows).map fun entry => (.int entry.1, entry.2) := by
    rw [← List.map_id rows, List.zip_map, List.map_id]
    rfl
  have hknown : ∀ entry ∈ (numbers.zip rows).map fun entry => (Value.int entry.1, entry.2),
      ∃ number, entry.1 = .int number :=
    List.forall_mem_map.mpr fun entry _ => ⟨entry.1, rfl⟩
  unfold sortedBy
  rw [hkeys]
  change (Sorting.sortedWith _ ((numbers.map Value.int).zip rows) >>= _) = _
  rw [hzip, Sorting.sortedWith_eq compares_placeOf hknown, sortedBy_map]
  change Except.ok _ = Except.ok _
  rw [List.map_map]
  rfl

end SqlAccess.Row
