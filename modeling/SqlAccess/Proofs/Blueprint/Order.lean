import Mathlib.Data.List.Basic
import SqlAccess.Blueprint.Conversion

/-!
# The order of the tables

Whatever the tables depend on, each of them gets a place in their order, and just
one.  A round splits the names that are left into those that it takes and those that
stay (`rounds_perm`).  When cycles are broken the names stay the same, and when that
does not help either the names are taken as they come (`dependencyOrder_perm`).
-/

namespace SqlAccess.Blueprint

theorem rounds_perm {fuel : Nat} {left : Dependencies} {names : List String}
    (h : rounds fuel left = some names) : names.Perm (left.map Prod.fst) := by
  induction fuel generalizing left names with
  | zero =>
      rw [rounds] at h
      split at h
      · rename_i hempty
        rw [List.isEmpty_iff.mp hempty, ← Option.some.inj h]
        exact .nil
      · cases h
  | succ fuel ih =>
      simp only [rounds] at h
      split at h
      · split at h
        · rename_i hempty
          rw [List.isEmpty_iff.mp hempty, ← Option.some.inj h]
          exact .nil
        · cases h
      · obtain ⟨others, hothers, rfl⟩ := Option.map_eq_some_iff.mp h
        have hrest := ih hothers
        have hsplit := (List.filter_append_perm (fun entry : String × List String =>
          entry.2.all fun name => !(left.map Prod.fst).contains name) left).map Prod.fst
        rw [List.map_append] at hsplit
        exact (hrest.append_left _).trans hsplit

theorem map_fst_withoutCycles (order : Dependencies) :
    (withoutCycles order).map Prod.fst = order.map Prod.fst := by
  rw [withoutCycles, List.map_map]
  refine List.map_congr_left fun entry _ => ?_
  simp only [Function.comp]
  split <;> rfl

theorem dependencyOrder_perm (order : Dependencies) :
    (dependencyOrder order).Perm (order.map Prod.fst) := by
  unfold dependencyOrder
  cases hrounds : rounds order.length order with
  | some names => exact rounds_perm hrounds
  | none =>
      cases hfreed : rounds order.length (withoutCycles order) with
      | some names =>
          have hperm := rounds_perm hfreed
          rwa [map_fst_withoutCycles] at hperm
      | none => exact .refl _

end SqlAccess.Blueprint
