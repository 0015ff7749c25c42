import Mathlib.Data.List.Dedup
import Mathlib.Data.List.Perm.Basic
import Mathlib.Data.List.SplitBy
import Mathlib.Order.Lattice
import SqlAccess.Sorting

/-!
# Sorted entries and their runs

Entries are sorted by a key, and the order of the keys orders the entries (`Orders`).  Where
no two entries have the same place in this order, the sorted list does not tell in which
order the entries came (`Orders.sortedBy_eq_of_perm`).

In entries that are sorted by a key the entries of one key are next to each other.  So the
runs of equal keys are the entries of each key, the keys in ascending order
(`splitBy_eq_map_entriesOf`).
-/

namespace SqlAccess

variable {α κ : Type} {key : α → κ} {entries others : List α} {keys : List κ}

/-! ## Sorting -/

/-- The order that the keys of entries give to the entries. -/
structure Orders [LT κ] (key : α → κ) (precedes : α → α → Prop) : Prop where
  not_lt_iff : ∀ x y, ¬ key y < key x ↔ precedes x y
  trans : ∀ x y z, precedes x y → precedes y z → precedes x z
  total : ∀ x y, precedes x y ∨ precedes y x

theorem orders_le [LinearOrder κ] (key : α → κ) : Orders key fun x y => key x ≤ key y where
  not_lt_iff _ _ := not_lt
  trans _ _ _ := le_trans
  total _ _ := le_total _ _

section

variable [LT κ] [DecidableLT κ] {precedes : α → α → Prop}

/-- What sorting looks at is transitive, as the order is. -/
theorem Orders.not_below_trans (h : Orders key precedes) (x y z : α)
    (hxy : !decide (key y < key x)) (hyz : !decide (key z < key y)) :
    !decide (key z < key x) := by
  rw [Bool.not_eq_true', decide_eq_false_iff_not, h.not_lt_iff] at hxy hyz ⊢
  exact h.trans x y z hxy hyz

theorem Orders.not_below_total (h : Orders key precedes) (x y : α) :
    !decide (key y < key x) || !decide (key x < key y) := by
  rw [Bool.or_eq_true, Bool.not_eq_true', Bool.not_eq_true', decide_eq_false_iff_not,
    decide_eq_false_iff_not, h.not_lt_iff, h.not_lt_iff]
  exact h.total x y

end

theorem Orders.pairwise_sortedBy [LT κ] [DecidableLT κ] {precedes : α → α → Prop}
    (h : Orders key precedes) (entries : List α) : (sortedBy key entries).Pairwise precedes := by
  have hsorted : (sortedBy key entries).Pairwise fun x y => !decide (key y < key x) :=
    List.pairwise_mergeSort h.not_below_trans h.not_below_total _
  refine hsorted.imp fun {x y} hxy => ?_
  rwa [Bool.not_eq_true', decide_eq_false_iff_not, h.not_lt_iff] at hxy

theorem Orders.sortedBy_eq_self [LT κ] [DecidableLT κ] {precedes : α → α → Prop}
    (h : Orders key precedes) (hsorted : entries.Pairwise precedes) :
    sortedBy key entries = entries := by
  refine List.mergeSort_of_pairwise (hsorted.imp fun {x y} hxy => ?_)
  rw [Bool.not_eq_true', decide_eq_false_iff_not, h.not_lt_iff]
  exact hxy

/-- Sorting forgets the order of entries that have different places. -/
theorem Orders.sortedBy_eq_of_perm [LT κ] [DecidableLT κ] {precedes : α → α → Prop}
    (h : Orders key precedes)
    (hantisymm : ∀ x ∈ entries, ∀ y ∈ entries, precedes x y → precedes y x → x = y)
    (hperm : others.Perm entries) : sortedBy key others = sortedBy key entries := by
  have hsame : (sortedBy key others).Perm (sortedBy key entries) :=
    (sortedBy_perm key others).trans (hperm.trans (sortedBy_perm key entries).symm)
  refine List.Perm.eq_of_pairwise ?_ (h.pairwise_sortedBy others) (h.pairwise_sortedBy entries)
    hsame
  intro x y hx hy
  exact hantisymm x (hperm.mem_iff.mp (mem_sortedBy.mp hx)) y (mem_sortedBy.mp hy)

/-- Sorting forgets the order of entries whose keys differ. -/
theorem sortedBy_eq_of_perm [LinearOrder κ] (hnodup : (entries.map key).Nodup)
    (hperm : others.Perm entries) : sortedBy key others = sortedBy key entries :=
  (orders_le key).sortedBy_eq_of_perm (fun _ hx _ hy hxy hyx =>
    List.inj_on_of_nodup_map hnodup hx hy (le_antisymm hxy hyx)) hperm

theorem sortedBy_map {β : Type} [LT κ] [DecidableLT κ] (key : β → κ) (f : α → β)
    (entries : List α) : sortedBy key (entries.map f) = (sortedBy (key ∘ f) entries).map f :=
  (List.map_mergeSort (f := f) fun _ _ _ _ => rfl).symm

section

variable [LinearOrder κ]

/-! ## Runs -/

/-- The entries that have a key. -/
def entriesOf (key : α → κ) (entries : List α) (value : κ) : List α :=
  entries.filter fun entry => key entry = value

@[simp] theorem mem_entriesOf {entry : α} {value : κ} :
    entry ∈ entriesOf key entries value ↔ entry ∈ entries ∧ key entry = value := by
  simp [entriesOf]

theorem entriesOf_eq_nil {value : κ} (h : ∀ entry ∈ entries, key entry ≠ value) :
    entriesOf key entries value = [] :=
  List.filter_eq_nil_iff.mpr fun entry hentry => by simpa using h entry hentry

/-- Sorted entries are those of one key after the other. -/
theorem flatMap_entriesOf (hsorted : entries.Pairwise fun x y => key x ≤ key y)
    (hascending : keys.Pairwise (· < ·)) (hkeys : ∀ entry ∈ entries, key entry ∈ keys) :
    keys.flatMap (entriesOf key entries) = entries := by
  induction entries with
  | nil => exact List.flatMap_eq_nil_iff.mpr fun _ _ => rfl
  | cons first entries ih =>
      rw [List.pairwise_cons] at hsorted
      rw [List.forall_mem_cons] at hkeys
      have hrest := ih hsorted.2 hkeys.2
      obtain ⟨below, above, rfl⟩ := List.append_of_mem hkeys.1
      rw [List.pairwise_append, List.pairwise_cons] at hascending
      obtain ⟨-, ⟨habove, -⟩, hbelow⟩ := hascending
      -- a key below that of the first entry has no entries at all
      have hnone : ∀ value ∈ below, ∀ entry ∈ first :: entries, key entry ≠ value := by
        intro value hvalue
        have hlt := hbelow value hvalue _ List.mem_cons_self
        exact List.forall_mem_cons.mpr
          ⟨hlt.ne', fun entry hentry => (hlt.trans_le (hsorted.1 entry hentry)).ne'⟩
      have hsame : above.flatMap (entriesOf key (first :: entries)) =
          above.flatMap (entriesOf key entries) := by
        refine List.flatMap_congr fun value hvalue => ?_
        exact List.filter_cons_of_neg (by simpa using (habove value hvalue).ne)
      have hfirst : entriesOf key (first :: entries) (key first) =
          first :: entriesOf key entries (key first) :=
        List.filter_cons_of_pos (by simp)
      have hnil : below.flatMap (entriesOf key (first :: entries)) = [] :=
        List.flatMap_eq_nil_iff.mpr fun value hvalue => entriesOf_eq_nil (hnone value hvalue)
      have hnilRest : below.flatMap (entriesOf key entries) = [] :=
        List.flatMap_eq_nil_iff.mpr fun value hvalue => entriesOf_eq_nil fun entry hentry =>
          hnone value hvalue entry (List.mem_cons_of_mem _ hentry)
      rw [List.flatMap_append, List.flatMap_cons, hnilRest, List.nil_append] at hrest
      rw [List.flatMap_append, List.flatMap_cons, hnil, hfirst, hsame, List.nil_append,
        List.cons_append, hrest]

/-- The keys of sorted entries, each of them once. -/
theorem pairwise_dedup_map (hsorted : entries.Pairwise fun x y => key x ≤ key y) :
    (entries.map key).dedup.Pairwise (· < ·) := by
  have hle : (entries.map key).dedup.Pairwise (· ≤ ·) :=
    (List.pairwise_map.mpr hsorted).sublist (List.dedup_sublist _)
  exact (hle.and (List.nodup_dedup _)).imp fun h => lt_of_le_of_ne h.1 h.2

/-- The runs of sorted entries with the same key are the entries of each key. -/
theorem splitBy_eq_map_entriesOf (hsorted : entries.Pairwise fun x y => key x ≤ key y) :
    entries.splitBy (fun x y => key x == key y) =
      (entries.map key).dedup.map (entriesOf key entries) := by
  have hascending := pairwise_dedup_map hsorted
  have hflat := flatMap_entriesOf hsorted hascending fun entry hentry =>
    List.mem_dedup.mpr (List.mem_map_of_mem hentry)
  have hne : ∀ value ∈ (entries.map key).dedup, entriesOf key entries value ≠ [] := by
    intro value hvalue
    obtain ⟨entry, hentry, hkey⟩ := List.mem_map.mp (List.mem_dedup.mp hvalue)
    exact List.ne_nil_of_mem (mem_entriesOf.mpr ⟨hentry, hkey⟩)
  refine List.splitBy_eq_iff.mpr ⟨hflat.symm, ?_, ?_, ?_⟩
  · rintro hnil
    obtain ⟨value, hvalue, h⟩ := List.mem_map.mp hnil
    exact hne value hvalue h
  · intro run hrun
    obtain ⟨value, -, rfl⟩ := List.mem_map.mp hrun
    refine (List.pairwise_of_forall_mem_list fun x hx y hy => ?_).isChain
    rw [(mem_entriesOf.mp hx).2, (mem_entriesOf.mp hy).2]
    exact beq_self_eq_true value
  · rw [List.isChain_map]
    refine (hascending.imp_of_mem fun {first second} hfirst hsecond hlt => ?_).isChain
    refine ⟨hne first hfirst, hne second hsecond, ?_⟩
    rw [(mem_entriesOf.mp (List.getLast_mem (hne first hfirst))).2,
      (mem_entriesOf.mp (List.head_mem (hne second hsecond))).2]
    exact beq_false_of_ne hlt.ne

end

end SqlAccess
