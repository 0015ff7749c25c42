import Mathlib.Data.Fintype.EquivFin
import Mathlib.Data.List.Nodup
import Mathlib.Data.Set.Finite.List
import Mathlib.Order.WellFounded
import SqlAccess.Proofs.Blueprint.Order

/-!
# Rounds over acyclic dependencies

As long as something is left, each round takes at least one name when the dependencies
have no cycle (`exists_isReady`), so that the rounds come to an end (`exists_rounds`).

A name that is taken needs nothing that is left, and what it needs was taken in a round
before.  So in the order that comes out of it, everything that a name needs stands
before it (`mem_of_rounds`).
-/

namespace SqlAccess.Blueprint

open Relation

variable {fuel : Nat} {order left : Dependencies} {entry : String × List String}
  {name other : String} {names : List String}

/-! ## Needs -/

/-- A name depends on another one. -/
def Needs (order : Dependencies) (name other : String) : Prop :=
  ∃ needed, (name, needed) ∈ order ∧ other ∈ needed

/-- No name depends on itself, nor does it through others. -/
def Acyclic (order : Dependencies) : Prop :=
  ∀ name, ¬ TransGen (Needs order) name name

theorem Acyclic.of_subset (h : Acyclic order) (hsubset : left ⊆ order) : Acyclic left := by
  intro name hcycle
  have hmono : ∀ name other, Needs left name other → Needs order name other :=
    fun _ _ ⟨needed, hmem, hother⟩ => ⟨needed, hsubset hmem, hother⟩
  exact h name (TransGen.mono hmono name name hcycle)

/-- Whether a round takes an entry. -/
def isReady (left : Dependencies) (entry : String × List String) : Bool :=
  entry.2.all fun name => !(left.map Prod.fst).contains name

theorem isReady_iff : isReady left entry = true ↔ ∀ name ∈ entry.2, name ∉ left.map Prod.fst := by
  simp only [isReady, List.all_eq_true, Bool.not_eq_true', List.contains_eq_mem,
    decide_eq_false_iff_not]

theorem exists_isReady (hacyclic : Acyclic left) (hne : left ≠ []) :
    ∃ entry ∈ left, isReady left entry = true := by
  -- a name that is least for what it needs can be taken, and finitely many have a least one
  have htrans : IsTrans { name // name ∈ left.map Prod.fst }
      fun first second => TransGen (Needs left) second.1 first.1 :=
    ⟨fun _ _ _ hfirst hsecond => hsecond.trans hfirst⟩
  have hirrefl : Std.Irrefl fun first second : { name // name ∈ left.map Prod.fst } =>
      TransGen (Needs left) second.1 first.1 :=
    ⟨fun name => hacyclic name.1⟩
  have hfinite : Finite { name // name ∈ left.map Prod.fst } := (left.map Prod.fst).finite_toSet
  have hwell := Finite.wellFounded_of_trans_of_irrefl
    fun first second : { name // name ∈ left.map Prod.fst } =>
      TransGen (Needs left) second.1 first.1
  obtain ⟨head, tail, rfl⟩ := List.exists_cons_of_ne_nil hne
  obtain ⟨⟨least, hmem⟩, -, hleast⟩ :=
    hwell.has_min Set.univ ⟨⟨head.1, List.mem_cons_self⟩, trivial⟩
  obtain ⟨entry, hentry, rfl⟩ := List.mem_map.mp hmem
  refine ⟨entry, hentry, isReady_iff.mpr fun name hname hleft => ?_⟩
  exact hleast ⟨name, hleft⟩ trivial (.single ⟨entry.2, hentry, hname⟩)

/-! ## Rounds -/

/-- A round takes the names that are ready, and the rounds after it take the others. -/
theorem rounds_succ (hne : left.filter (isReady left) ≠ []) :
    rounds (fuel + 1) left = (rounds fuel (left.filter fun entry => !isReady left entry)).map
      ((left.filter (isReady left)).map Prod.fst ++ ·) := by
  rw [rounds]
  split
  · rename_i hnone
    exact absurd hnone hne
  · rfl

theorem rounds_succ_of_none (hnone : left.filter (isReady left) = []) :
    rounds (fuel + 1) left = if left.isEmpty then some [] else none := by
  rw [rounds]
  split
  · rfl
  · rename_i hsome
    exact absurd hnone hsome

theorem exists_rounds (hacyclic : Acyclic left) (hfuel : left.length ≤ fuel) :
    ∃ names, rounds fuel left = some names := by
  induction fuel generalizing left with
  | zero =>
      obtain rfl := List.length_eq_zero_iff.mp (Nat.le_zero.mp hfuel)
      exact ⟨[], rfl⟩
  | succ fuel ih =>
      by_cases hleft : left = []
      · rw [hleft]
        exact ⟨[], rfl⟩
      · obtain ⟨entry, hentry, hready⟩ := exists_isReady hacyclic hleft
        have hshorter : (left.filter fun entry => !isReady left entry).length < left.length := by
          apply List.length_filter_lt_length_iff_exists.mpr
          exact ⟨entry, hentry, by simp [hready]⟩
        have hrest : Acyclic (left.filter fun entry => !isReady left entry) :=
          hacyclic.of_subset (List.filter_subset_self _)
        obtain ⟨names, hnames⟩ := ih hrest (by omega)
        rw [rounds_succ (List.ne_nil_of_mem (List.mem_filter.mpr ⟨hentry, hready⟩)), hnames]
        exact ⟨_, rfl⟩

/-- Nothing is left to take, or there is a first round. -/
theorem rounds_cases (h : rounds fuel left = some names) :
    names = [] ∨ ∃ fuel' others, fuel = fuel' + 1 ∧
      rounds fuel' (left.filter fun entry => !isReady left entry) = some others ∧
        names = (left.filter (isReady left)).map Prod.fst ++ others := by
  have hempty : (if left.isEmpty then some [] else none) = some names → names = [] := by
    intro hnames
    split at hnames
    · exact (Option.some.inj hnames).symm
    · cases hnames
  cases fuel with
  | zero => exact .inl (hempty h)
  | succ fuel =>
      by_cases hready : left.filter (isReady left) = []
      · rw [rounds_succ_of_none hready] at h
        exact .inl (hempty h)
      · rw [rounds_succ hready] at h
        obtain ⟨others, hothers, rfl⟩ := Option.map_eq_some_iff.mp h
        exact .inr ⟨fuel, others, rfl, hothers, rfl⟩

/-- Each name has one entry. -/
theorem needed_unique (hnodup : (left.map Prod.fst).Nodup) (hentry : entry ∈ left)
    {needed : List String} (hneeded : (entry.1, needed) ∈ left) : entry = (entry.1, needed) :=
  List.inj_on_of_nodup_map hnodup hentry hneeded rfl

/-- What is not in the first part of a list has the whole of it before itself. -/
theorem exists_middle_of_append_eq {taken others before after : List String}
    (h : taken ++ others = before ++ name :: after) (hlate : name ∉ taken) :
    ∃ middle, before = taken ++ middle ∧ others = middle ++ name :: after := by
  rcases List.append_eq_append_iff.mp h with hmiddle | ⟨middle, rfl, hrest⟩
  · exact hmiddle
  · cases middle with
    | nil => exact ⟨[], by simp, hrest.symm⟩
    | cons first middle =>
        obtain ⟨rfl, -⟩ := List.cons.inj hrest
        exact absurd (List.mem_append_right _ List.mem_cons_self) hlate

/-- Every name that is needed stands before the one that needs it. -/
theorem mem_of_rounds (hnodup : (left.map Prod.fst).Nodup) (h : rounds fuel left = some names)
    (hneeds : Needs left name other) (hother : other ∈ left.map Prod.fst)
    {before after : List String} (hnames : names = before ++ name :: after) : other ∈ before := by
  induction fuel generalizing left names before with
  | zero =>
      rcases rounds_cases h with rfl | ⟨fuel, others, hfuel, -⟩
      · simp at hnames
      · cases hfuel
  | succ fuel ih =>
      rcases rounds_cases h with rfl | ⟨_, others, ⟨⟩, hothers, rfl⟩
      · simp at hnames
      obtain ⟨needed, hneeded, hmem⟩ := hneeds
      have hwaits : (name, needed) ∈ left.filter fun entry => !isReady left entry := by
        refine List.mem_filter.mpr ⟨hneeded, ?_⟩
        rw [Bool.not_eq_true', Bool.eq_false_iff, Ne, isReady_iff]
        exact fun hready => hready other hmem hother
      -- so the name is not one that the first round takes
      have hlate : name ∉ (left.filter (isReady left)).map Prod.fst := by
        intro htaken
        obtain ⟨entry, hentry, rfl⟩ := List.mem_map.mp htaken
        obtain ⟨hleft, hready⟩ := List.mem_filter.mp hentry
        rw [needed_unique hnodup hleft hneeded] at hready
        exact absurd hready (by simpa using (List.mem_filter.mp hwaits).2)
      obtain ⟨middle, rfl, hrest⟩ := exists_middle_of_append_eq hnames hlate
      obtain ⟨entry, hentry, rfl⟩ := List.mem_map.mp hother
      cases hready : isReady left entry with
      | true =>
          apply List.mem_append_left
          exact List.mem_map_of_mem (List.mem_filter.mpr ⟨hentry, hready⟩)
      | false =>
          apply List.mem_append_right
          refine ih (hnodup.sublist (List.filter_sublist.map Prod.fst)) hothers
            ⟨needed, hwaits, hmem⟩ ?_ hrest
          exact List.mem_map_of_mem (List.mem_filter.mpr ⟨hentry, by rw [hready]; rfl⟩)

end SqlAccess.Blueprint
