/-!
# Sorting by a key
-/

namespace SqlAccess

/-- A list in the ascending order of a key; entries of equal keys keep their
order. -/
def sortedBy {α κ : Type} [LT κ] [DecidableLT κ] (key : α → κ) (entries : List α) : List α :=
  entries.mergeSort fun x y => !decide (key y < key x)

theorem sortedBy_perm {α κ : Type} [LT κ] [DecidableLT κ] (key : α → κ) (entries : List α) :
    (sortedBy key entries).Perm entries :=
  List.mergeSort_perm entries _

@[simp] theorem mem_sortedBy {α κ : Type} [LT κ] [DecidableLT κ] {key : α → κ}
    {entries : List α} {entry : α} : entry ∈ sortedBy key entries ↔ entry ∈ entries :=
  (sortedBy_perm key entries).mem_iff

end SqlAccess
