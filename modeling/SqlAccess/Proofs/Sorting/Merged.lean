import SqlAccess.Proofs.Sorting.Galloping
import SqlAccess.Proofs.Sorting.Keyed

/-!
# Lists merged by a key

Two lists are merged by taking the smaller first item each time, and that of the first list
if neither is smaller (`mergedBy`).  All that is used of it is one law: the lists are cut in
two where nothing behind the cut has to come before anything in front of it
(`mergedBy_append`).  An item or a whole part taken off at the start, or at the end, is a
case of it.

Where the items of a run begin that another item is below, galloping finds from either end
(`Compares.exists_above`, `Compares.exists_not_below`).
-/

namespace SqlAccess.Sorting

variable {α κ ε : Type} [LinearOrder κ] {key : α → κ} {known : α → Prop} {xs ys : List α}

/-! ## Merging by a key -/

/-- Two lists merged in the order of a key; of equal keys that of the first list is first. -/
def mergedBy (key : α → κ) (xs ys : List α) : List α :=
  xs.merge ys fun x y => !decide (key y < key x)

@[simp] theorem mergedBy_nil (xs : List α) : mergedBy key xs [] = xs := by
  simp [mergedBy]

@[simp] theorem nil_mergedBy (ys : List α) : mergedBy key [] ys = ys := by
  simp [mergedBy]

theorem mergedBy_cons_of_lt {x y : α} (h : key y < key x) (xs ys : List α) :
    mergedBy key (x :: xs) (y :: ys) = y :: mergedBy key (x :: xs) ys := by
  simp [mergedBy, h]

theorem mergedBy_cons_of_not_lt {x y : α} (h : ¬ key y < key x) (xs ys : List α) :
    mergedBy key (x :: xs) (y :: ys) = x :: mergedBy key xs (y :: ys) := by
  simp [mergedBy, h]

/-- Lists are merged in two parts where nothing of the second parts has to come before
anything of the first parts. -/
theorem mergedBy_append (xs₁ xs₂ ys₁ ys₂ : List α)
    (hfirst : ∀ x ∈ xs₁, ∀ y ∈ ys₂, ¬ key y < key x)
    (hsecond : ∀ y ∈ ys₁, ∀ x ∈ xs₂, key y < key x) :
    mergedBy key (xs₁ ++ xs₂) (ys₁ ++ ys₂) = mergedBy key xs₁ ys₁ ++ mergedBy key xs₂ ys₂ := by
  induction xs₁ generalizing ys₁ with
  | nil =>
      induction ys₁ with
      | nil => simp
      | cons y ys₁ ih =>
          rw [List.forall_mem_cons] at hsecond
          have hrest := ih hsecond.2
          rw [List.nil_append, nil_mergedBy] at hrest ⊢
          cases xs₂ with
          | nil => simp
          | cons x xs₂ =>
              rw [List.cons_append, mergedBy_cons_of_lt (hsecond.1 x List.mem_cons_self), hrest,
                List.cons_append]
  | cons x xs₁ ih =>
      rw [List.forall_mem_cons] at hfirst
      induction ys₁ with
      | nil =>
          have hrest := ih [] hfirst.2 hsecond
          rw [List.nil_append, mergedBy_nil] at hrest ⊢
          cases ys₂ with
          | nil => simp
          | cons y ys₂ =>
              rw [List.cons_append, mergedBy_cons_of_not_lt (hfirst.1 y List.mem_cons_self), hrest,
                List.cons_append]
      | cons y ys₁ ihys =>
          rw [List.cons_append, List.cons_append]
          by_cases hlt : key y < key x
          · rw [mergedBy_cons_of_lt hlt, mergedBy_cons_of_lt hlt, ← List.cons_append,
              ihys (List.forall_mem_cons.mp hsecond).2, List.cons_append]
          · rw [mergedBy_cons_of_not_lt hlt, mergedBy_cons_of_not_lt hlt, ← List.cons_append,
              ih (y :: ys₁) hfirst.2 hsecond, List.cons_append]

/-- What nothing has to come before is taken from the first list. -/
theorem append_mergedBy (xs₁ xs₂ ys : List α) (h : ∀ x ∈ xs₁, ∀ y ∈ ys, ¬ key y < key x) :
    mergedBy key (xs₁ ++ xs₂) ys = xs₁ ++ mergedBy key xs₂ ys := by
  simpa using mergedBy_append xs₁ xs₂ [] ys h (by simp)

theorem mergedBy_append_of_lt (xs ys₁ ys₂ : List α) (h : ∀ y ∈ ys₁, ∀ x ∈ xs, key y < key x) :
    mergedBy key xs (ys₁ ++ ys₂) = ys₁ ++ mergedBy key xs ys₂ := by
  simpa using mergedBy_append [] xs ys₁ ys₂ (by simp) h

/-- What has to come after everything else is taken from the end of the first list. -/
theorem append_mergedBy_of_lt (xs₁ xs₂ ys : List α) (h : ∀ y ∈ ys, ∀ x ∈ xs₂, key y < key x) :
    mergedBy key (xs₁ ++ xs₂) ys = mergedBy key xs₁ ys ++ xs₂ := by
  simpa using mergedBy_append xs₁ xs₂ ys [] (by simp) h

theorem mergedBy_append_of_not_lt (xs ys₁ ys₂ : List α)
    (h : ∀ x ∈ xs, ∀ y ∈ ys₂, ¬ key y < key x) :
    mergedBy key xs (ys₁ ++ ys₂) = mergedBy key xs ys₁ ++ ys₂ := by
  simpa using mergedBy_append xs [] ys₁ ys₂ h (by simp)

theorem mergedBy_of_lt (h : ∀ y ∈ ys, ∀ x ∈ xs, key y < key x) :
    mergedBy key xs ys = ys ++ xs := by
  simpa using append_mergedBy_of_lt [] xs ys h

/-! ## Runs -/

/-- A comparison of known items compares their keys. -/
def Compares (below : α → α → Except ε Bool) (key : α → κ) (known : α → Prop) : Prop :=
  ∀ x y, known x → known y → below x y = .ok (decide (key x < key y))

/-- Known items in the ascending order of a key. -/
structure IsRun (key : α → κ) (known : α → Prop) (xs : List α) : Prop where
  known : ∀ x ∈ xs, known x
  pairwise : xs.Pairwise fun x y => key x ≤ key y

theorem IsRun.sublist (h : IsRun key known xs) (hsub : ys.Sublist xs) : IsRun key known ys where
  known y hy := h.known y (hsub.mem hy)
  pairwise := h.pairwise.sublist hsub

theorem IsRun.of_append_left (h : IsRun key known (xs ++ ys)) : IsRun key known xs :=
  h.sublist (List.sublist_append_left xs ys)

theorem IsRun.of_append_right (h : IsRun key known (xs ++ ys)) : IsRun key known ys :=
  h.sublist (List.sublist_append_right xs ys)

theorem IsRun.of_cons {x : α} (h : IsRun key known (x :: xs)) : IsRun key known xs :=
  h.sublist (List.sublist_cons_self x xs)

theorem IsRun.head_le {x : α} (h : IsRun key known (x :: xs)) :
    ∀ item ∈ x :: xs, key x ≤ key item :=
  List.forall_mem_cons.mpr ⟨le_rfl, (List.pairwise_cons.mp h.pairwise).1⟩

theorem IsRun.le_last {x : α} (h : IsRun key known (xs ++ [x])) :
    ∀ item ∈ xs ++ [x], key item ≤ key x := by
  intro item hitem
  rcases List.mem_append.mp hitem with hitem | hitem
  · exact (List.pairwise_append.mp h.pairwise).2.2 item hitem x List.mem_cons_self
  · rw [List.mem_singleton.mp hitem]

/-- The first item of a run that is given backwards is above all others. -/
theorem IsRun.le_head_reverse {x : α} (h : IsRun key known (x :: xs).reverse) :
    ∀ item ∈ (x :: xs).reverse, key item ≤ key x := by
  rw [List.reverse_cons] at h ⊢
  exact h.le_last

/-- A run splits where a condition on keys begins to hold that holds of all greater keys. -/
theorem IsRun.exists_split (h : IsRun key known xs) (holds : κ → Prop)
    (hupward : ∀ k l, k ≤ l → holds k → holds l) :
    ∃ before after, xs = before ++ after ∧ (∀ x ∈ before, ¬ holds (key x)) ∧
      ∀ x ∈ after, holds (key x) := by
  classical
  induction xs with
  | nil => exact ⟨[], [], rfl, by simp, by simp⟩
  | cons x xs ih =>
      by_cases hx : holds (key x)
      · exact ⟨[], x :: xs, rfl, by simp, fun item hitem => hupward _ _ (h.head_le item hitem) hx⟩
      · obtain ⟨before, after, rfl, hbefore, hafter⟩ := ih h.of_cons
        exact ⟨x :: before, after, rfl, List.forall_mem_cons.mpr ⟨hx, hbefore⟩, hafter⟩

variable {below : α → α → Except ε Bool}

/-- Where the items of a run begin that an item is below. -/
theorem Compares.exists_above (hbelow : Compares below key known) {y : α} (hy : known y)
    (hxs : IsRun key known xs) :
    ∃ before after, xs = before ++ after ∧ (∀ x ∈ before, ¬ key y < key x) ∧
      (∀ x ∈ after, key y < key x) ∧
      gallopUp (fun x => below y x) xs.toArray = .ok before.length ∧
      gallopDown (fun x => below y x) xs.toArray = .ok before.length := by
  obtain ⟨before, after, rfl, hbefore, hafter⟩ :=
    hxs.exists_split (fun k => key y < k) fun _ _ hle hlt => hlt.trans_le hle
  have hturns : Turns (fun x => below y x) (before ++ after).toArray before.length := by
    refine turns_append (fun x hx => ?_) (fun x hx => ?_)
    · rw [hbelow y x hy (hxs.of_append_left.known x hx), decide_eq_false (hbefore x hx)]
    · rw [hbelow y x hy (hxs.of_append_right.known x hx), decide_eq_true (hafter x hx)]
  exact ⟨before, after, rfl, hbefore, hafter, gallopUp_eq hturns, gallopDown_eq hturns⟩

/-- Where the items of a run begin that are not below an item. -/
theorem Compares.exists_not_below (hbelow : Compares below key known) {x : α} (hx : known x)
    (hys : IsRun key known ys) :
    ∃ before after, ys = before ++ after ∧ (∀ y ∈ before, key y < key x) ∧
      (∀ y ∈ after, ¬ key y < key x) ∧
      gallopUp (fun y => do return !(← below y x)) ys.toArray = .ok before.length ∧
      gallopDown (fun y => do return !(← below y x)) ys.toArray = .ok before.length := by
  obtain ⟨before, after, rfl, hbefore, hafter⟩ :=
    hys.exists_split (fun k => ¬ k < key x) fun _ _ hle hnot hlt => hnot (hle.trans_lt hlt)
  have hturns : Turns (fun y => do return !(← below y x)) (before ++ after).toArray
      before.length := by
    refine turns_append (fun y hy => ?_) (fun y hy => ?_)
    · rw [hbelow y x (hys.of_append_left.known y hy) hx,
        decide_eq_true (not_not.mp (hbefore y hy))]
      rfl
    · rw [hbelow y x (hys.of_append_right.known y hy) hx, decide_eq_false (hafter y hy)]
      rfl
  exact ⟨before, after, rfl, fun y hy => not_not.mp (hbefore y hy), hafter,
    gallopUp_eq hturns, gallopDown_eq hturns⟩

theorem Compares.exists_above_reverse (hbelow : Compares below key known) {y : α} (hy : known y)
    (hxs : IsRun key known xs.reverse) :
    ∃ after before, xs = after ++ before ∧ (∀ x ∈ after, key y < key x) ∧
      (∀ x ∈ before, ¬ key y < key x) ∧
      gallopDown (fun x => below y x) xs.reverse.toArray = .ok before.length := by
  obtain ⟨before, after, hsplit, hbefore, hafter, -, htaken⟩ := hbelow.exists_above hy hxs
  refine ⟨after.reverse, before.reverse, ?_, by simpa using hafter, by simpa using hbefore, ?_⟩
  · rw [← List.reverse_append, ← hsplit, List.reverse_reverse]
  · rw [htaken, List.length_reverse]

theorem Compares.exists_not_below_reverse (hbelow : Compares below key known) {x : α}
    (hx : known x) (hys : IsRun key known ys.reverse) :
    ∃ after before, ys = after ++ before ∧ (∀ y ∈ after, ¬ key y < key x) ∧
      (∀ y ∈ before, key y < key x) ∧
      gallopDown (fun y => do return !(← below y x)) ys.reverse.toArray = .ok before.length := by
  obtain ⟨before, after, hsplit, hbefore, hafter, -, htaken⟩ := hbelow.exists_not_below hx hys
  refine ⟨after.reverse, before.reverse, ?_, by simpa using hafter, by simpa using hbefore, ?_⟩
  · rw [← List.reverse_append, ← hsplit, List.reverse_reverse]
  · rw [htaken, List.length_reverse]

end SqlAccess.Sorting
