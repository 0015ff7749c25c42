import SqlAccess.Proofs.Sorting.Merged
import SqlAccess.Sorting.Merge

/-!
# What merging gives

Two runs are merged by a comparison of keys into the list that takes the smaller first item
each time (`merges_mergeRuns`).

Merging from the start and merging from the end, one by one or by leaps, all take a part off
the merged list at one of its ends.  Each of them needs an item that the other run cannot
outlast: from the start an item of the first run that is above all of the second one
(`Topped`), from the end an item of the second run that is below all of the first one
(`Bottomed`).  While this item is left, its run is not used up.
-/

namespace SqlAccess.Sorting

variable {α κ ε : Type} [LinearOrder κ] {key : α → κ} {known : α → Prop} {xs ys : List α}
  {below : α → α → Except ε Bool}

/-! ## Results -/

/-- Merging ends with a run, whatever patience it hands on. -/
def Merges (result : Except ε (List α × Nat)) (run : List α) : Prop :=
  ∃ patience, result = .ok (run, patience)

theorem merges_ok (run : List α) (patience : Nat) :
    Merges (.ok (run, patience) : Except ε (List α × Nat)) run :=
  ⟨patience, rfl⟩

theorem merges_of_eq {run run' : List α} (patience : Nat) (h : run = run') :
    Merges (.ok (run, patience) : Except ε (List α × Nat)) run' :=
  h ▸ merges_ok run patience

theorem merges_ite {c : Prop} [Decidable c] {result result' : Except ε (List α × Nat)}
    {run : List α} (h : c → Merges result run) (h' : ¬ c → Merges result' run) :
    Merges (if c then result else result') run := by
  split
  · exact h ‹_›
  · exact h' ‹_›

theorem merges_bind {β : Type} {action : Except ε β} {next : β → Except ε (List α × Nat)}
    {value : β} {run : List α} (h : action = .ok value) (hnext : Merges (next value) run) :
    Merges (action >>= next) run :=
  h ▸ hnext

theorem Merges.bind {result : Except ε (List α × Nat)}
    {next : List α × Nat → Except ε (List α × Nat)} {run run' : List α} (h : Merges result run)
    (hnext : ∀ patience, Merges (next (run, patience)) run') : Merges (result >>= next) run' :=
  let ⟨patience, hresult⟩ := h
  merges_bind hresult (hnext patience)

/-- What was set aside is put around the rest again, whatever way the rest is merged. -/
theorem Merges.between {result : Except ε (List α × Nat)}
    {next : List α × Nat → Except ε (List α × Nat)} {before run behind : List α}
    (h : Merges result run)
    (hnext : ∀ patience, next (run, patience) = .ok (before ++ run ++ behind, patience)) :
    Merges (result >>= next) (before ++ (run ++ behind)) :=
  h.bind fun patience => hnext patience ▸ merges_of_eq patience (List.append_assoc _ _ _)

/-! ## From the start -/

/-- What two runs are while they are merged from the start: an item of the first one is
above all of the second one. -/
structure Topped (key : α → κ) (known : α → Prop) (xs ys : List α) : Prop where
  firsts : IsRun key known xs
  seconds : IsRun key known ys
  exists_top : ∃ top ∈ xs, ∀ y ∈ ys, key y < key top

theorem Topped.ne_nil (h : Topped key known xs ys) : xs ≠ [] :=
  let ⟨_, htop, _⟩ := h.exists_top
  List.ne_nil_of_mem htop

theorem Topped.drop_seconds (ys : List α) {ys' : List α} (h : Topped key known xs (ys ++ ys')) :
    Topped key known xs ys' where
  firsts := h.firsts
  seconds := h.seconds.of_append_right
  exists_top :=
    let ⟨top, htop, habove⟩ := h.exists_top
    ⟨top, htop, fun y hy => habove y (List.mem_append_right ys hy)⟩

/-- What an item of the second run is not below is not the top. -/
theorem Topped.drop_firsts (xs : List α) {xs' : List α} {y : α}
    (h : Topped key known (xs ++ xs') ys) (hy : y ∈ ys)
    (hxs : ∀ x ∈ xs, ¬ key y < key x) : Topped key known xs' ys where
  firsts := h.firsts.of_append_right
  seconds := h.seconds
  exists_top := by
    obtain ⟨top, htop, habove⟩ := h.exists_top
    refine ⟨top, ?_, habove⟩
    exact (List.mem_append.mp htop).resolve_left fun hin => hxs top hin (habove y hy)

/-- The last item of the first run comes after the second run. -/
theorem Topped.mergedBy_singleton {x : α} (h : Topped key known [x] ys) :
    mergedBy key [x] ys = ys ++ [x] := by
  obtain ⟨top, htop, habove⟩ := h.exists_top
  obtain rfl := List.mem_singleton.mp htop
  exact mergedBy_of_lt fun y hy x hx => List.mem_singleton.mp hx ▸ habove y hy

/-- With so much fuel, runs are merged from the start one by one. -/
def MergesUp (below : α → α → Except ε Bool) (key : α → κ) (known : α → Prop) (fuel : Nat) :
    Prop :=
  ∀ patience firsts seconds merged xs ys, Topped key known xs ys → xs.length + ys.length ≤ fuel →
    Merges (mergeUp below fuel patience firsts seconds merged xs ys)
      (merged.reverse ++ mergedBy key xs ys)

/-- With so much fuel, runs are merged from the start by leaps. -/
def LeapsUp (below : α → α → Except ε Bool) (key : α → κ) (known : α → Prop) (fuel : Nat) :
    Prop :=
  ∀ patience merged xs ys, Topped key known xs ys → xs.length + ys.length ≤ fuel →
    Merges (mergeUpByLeaps below fuel patience merged xs ys)
      (merged.reverse ++ mergedBy key xs ys)

theorem Topped.not_length_le_zero (h : Topped key known xs ys) : ¬ xs.length + ys.length ≤ 0 := by
  have := List.length_pos_of_ne_nil h.ne_nil
  omega

section

variable (hbelow : Compares below key known) {fuel : Nat}

include hbelow

theorem MergesUp.succ (hone : MergesUp below key known fuel)
    (hleaps : LeapsUp below key known fuel) : MergesUp below key known (fuel + 1) := by
  intro patience firsts seconds merged xs ys h hfuel
  match xs, ys with
  | [], ys => exact absurd rfl h.ne_nil
  | [x], ys =>
      rw [h.mergedBy_singleton]
      unfold mergeUp
      exact merges_of_eq patience (List.append_assoc _ _ _)
  | x :: x' :: xs, [] =>
      unfold mergeUp
      exact merges_of_eq patience (by simp)
  | x :: x' :: xs, y :: ys =>
      simp only [List.length_cons] at hfuel
      rw [mergeUp]
      refine merges_bind (hbelow y x (h.seconds.known y List.mem_cons_self)
        (h.firsts.known x List.mem_cons_self)) ?_
      -- the item that is taken goes to the merged ones, and the top is still there
      by_cases hlt : key y < key x
      · have hrest : Topped key known (x :: x' :: xs) ys := h.drop_seconds [y]
        have hmerged : merged.reverse ++ mergedBy key (x :: x' :: xs) (y :: ys) =
            (y :: merged).reverse ++ mergedBy key (x :: x' :: xs) ys := by
          simp [mergedBy_cons_of_lt hlt]
        rw [decide_eq_true hlt, if_pos rfl, hmerged]
        refine merges_ite (fun hys => ?_) fun _ => merges_ite (fun _ => ?_) fun _ => ?_
        · rw [List.isEmpty_iff.mp hys]
          exact merges_of_eq patience (by simp)
        · exact hleaps _ _ _ _ hrest (by simp only [List.length_cons]; omega)
        · exact hone _ _ _ _ _ _ hrest (by simp only [List.length_cons]; omega)
      · have hrest : Topped key known (x' :: xs) (y :: ys) :=
          h.drop_firsts [x] List.mem_cons_self (by simpa using hlt)
        have hmerged : merged.reverse ++ mergedBy key (x :: x' :: xs) (y :: ys) =
            (x :: merged).reverse ++ mergedBy key (x' :: xs) (y :: ys) := by
          simp [mergedBy_cons_of_not_lt hlt]
        rw [decide_eq_false hlt, if_neg Bool.false_ne_true, hmerged]
        refine merges_ite (fun hxs => ?_) fun _ => merges_ite (fun _ => ?_) fun _ => ?_
        · obtain rfl := List.isEmpty_iff.mp hxs
          rw [hrest.mergedBy_singleton]
          exact merges_of_eq patience (by simp)
        · exact hleaps _ _ _ _ hrest (by simp only [List.length_cons]; omega)
        · exact hone _ _ _ _ _ _ hrest (by simp only [List.length_cons]; omega)

theorem LeapsUp.succ (hone : MergesUp below key known fuel)
    (hleaps : LeapsUp below key known fuel) : LeapsUp below key known (fuel + 1) := by
  intro patience merged xs ys h hfuel
  match ys with
  | [] =>
      unfold mergeUpByLeaps
      exact merges_of_eq patience (by simp)
  | y :: ys =>
      -- first a leap over the items of the first run that stay in front of `y`
      obtain ⟨before, after, rfl, hbefore, hafter, htaken, -⟩ :=
        hbelow.exists_above (h.seconds.known y List.mem_cons_self) h.firsts
      have hrest := h.drop_firsts before List.mem_cons_self hbefore
      have hmerged : mergedBy key (before ++ after) (y :: ys) =
          before ++ mergedBy key after (y :: ys) :=
        append_mergedBy before after (y :: ys) fun x hx y' hy' hlt =>
          hbefore x hx ((h.seconds.head_le y' hy').trans_lt hlt)
      rw [mergeUpByLeaps, hmerged]
      refine merges_bind htaken ?_
      dsimp only
      rw [List.take_left, List.drop_left]
      match after with
      | [] => exact absurd rfl hrest.ne_nil
      | [x] =>
          rw [hrest.mergedBy_singleton]
          exact merges_of_eq patience (by simp)
      | x :: x' :: xs =>
          have hx := hrest.firsts.known x List.mem_cons_self
          have hlt := hafter x List.mem_cons_self
          rw [mergedBy_cons_of_lt hlt]
          refine merges_ite (fun hys => ?_) fun _ => ?_
          · rw [List.isEmpty_iff.mp hys]
            exact merges_of_eq patience (by simp)
          -- then one over the items of the second run that go in front of `x`
          obtain ⟨before', after', rfl, hbefore', hafter', htaken', -⟩ :=
            hbelow.exists_not_below hx hrest.seconds.of_cons
          have hmerged' : mergedBy key (x :: x' :: xs) (before' ++ after') =
              before' ++ mergedBy key (x :: x' :: xs) after' :=
            mergedBy_append_of_lt _ before' after' fun y' hy' item hitem =>
              (hbefore' y' hy').trans_le (hrest.firsts.head_le item hitem)
          have hfirsts : Topped key known (x :: x' :: xs) after' :=
            hrest.drop_seconds (y :: before')
          refine merges_bind htaken' ?_
          rw [List.take_left, List.drop_left, hmerged']
          match after' with
          | [] => exact merges_of_eq patience (by simp)
          | y' :: after' =>
              have hnot := hafter' y' List.mem_cons_self
              have hlast : Topped key known (x' :: xs) (y' :: after') :=
                hfirsts.drop_firsts [x] List.mem_cons_self (by simpa using hnot)
              have hsame : merged.reverse ++ (before ++ y :: (before' ++
                    mergedBy key (x :: x' :: xs) (y' :: after'))) =
                  (x :: ((before'.reverse ++ y :: (before.reverse ++ merged)))).reverse ++
                    mergedBy key (x' :: xs) (y' :: after') := by
                simp [mergedBy_cons_of_not_lt hnot]
              simp only [List.length_append, List.length_cons] at hfuel
              have hless : (x' :: xs).length + (y' :: after').length ≤ fuel := by
                simp only [List.length_cons]
                omega
              rw [hsame, if_neg (by simp)]
              refine merges_ite (fun hone => ?_) fun _ => merges_ite (fun _ => ?_) fun _ => ?_
              · obtain rfl : xs = [] := by simpa using hone
                rw [hlast.mergedBy_singleton]
                exact merges_of_eq patience (by simp)
              · exact hleaps _ _ _ _ hlast hless
              · exact hone _ _ _ _ _ _ hlast hless

theorem mergesUp_and_leapsUp (fuel : Nat) :
    MergesUp below key known fuel ∧ LeapsUp below key known fuel := by
  induction fuel with
  | zero =>
      exact ⟨fun _ _ _ _ _ _ h hfuel => absurd hfuel h.not_length_le_zero,
        fun _ _ _ _ h hfuel => absurd hfuel h.not_length_le_zero⟩
  | succ fuel ih => exact ⟨ih.1.succ hbelow ih.2, LeapsUp.succ hbelow ih.1 ih.2⟩

end

/-! ## From the end -/

/-- What two runs are, both of them backwards, while they are merged from the end: an item
of the second one is below all of the first one. -/
structure Bottomed (key : α → κ) (known : α → Prop) (xs ys : List α) : Prop where
  firsts : IsRun key known xs.reverse
  seconds : IsRun key known ys.reverse
  exists_bottom : ∃ bottom ∈ ys, ∀ x ∈ xs, key bottom < key x

theorem Bottomed.ne_nil (h : Bottomed key known xs ys) : ys ≠ [] :=
  let ⟨_, hbottom, _⟩ := h.exists_bottom
  List.ne_nil_of_mem hbottom

theorem Bottomed.drop_firsts (xs : List α) {xs' : List α} (h : Bottomed key known (xs ++ xs') ys) :
    Bottomed key known xs' ys where
  firsts := IsRun.of_append_left (List.reverse_append ▸ h.firsts)
  seconds := h.seconds
  exists_bottom :=
    let ⟨bottom, hbottom, hbelow⟩ := h.exists_bottom
    ⟨bottom, hbottom, fun x hx => hbelow x (List.mem_append_right xs hx)⟩

/-- What is not below an item of the first run is not the bottom. -/
theorem Bottomed.drop_seconds (ys : List α) {ys' : List α} {x : α}
    (h : Bottomed key known xs (ys ++ ys')) (hx : x ∈ xs)
    (hys : ∀ y ∈ ys, ¬ key y < key x) : Bottomed key known xs ys' where
  firsts := h.firsts
  seconds := IsRun.of_append_left (List.reverse_append ▸ h.seconds)
  exists_bottom := by
    obtain ⟨bottom, hbottom, hbelow⟩ := h.exists_bottom
    refine ⟨bottom, ?_, hbelow⟩
    exact (List.mem_append.mp hbottom).resolve_left fun hin => hys bottom hin (hbelow x hx)

/-- The last item of the second run comes before the first run. -/
theorem Bottomed.mergedBy_singleton {y : α} (h : Bottomed key known xs [y]) :
    mergedBy key xs.reverse [y] = y :: xs.reverse := by
  obtain ⟨bottom, hbottom, hbelow⟩ := h.exists_bottom
  obtain rfl := List.mem_singleton.mp hbottom
  refine mergedBy_of_lt fun y hy x hx => ?_
  exact List.mem_singleton.mp hy ▸ hbelow x (List.mem_reverse.mp hx)

/-- With so much fuel, runs are merged from the end one by one. -/
def MergesDown (below : α → α → Except ε Bool) (key : α → κ) (known : α → Prop) (fuel : Nat) :
    Prop :=
  ∀ patience firsts seconds xs ys merged, Bottomed key known xs ys →
    xs.length + ys.length ≤ fuel →
    Merges (mergeDown below fuel patience firsts seconds xs ys merged)
      (mergedBy key xs.reverse ys.reverse ++ merged)

/-- With so much fuel, runs are merged from the end by leaps. -/
def LeapsDown (below : α → α → Except ε Bool) (key : α → κ) (known : α → Prop) (fuel : Nat) :
    Prop :=
  ∀ patience xs ys merged, Bottomed key known xs ys → xs.length + ys.length ≤ fuel →
    Merges (mergeDownByLeaps below fuel patience xs ys merged)
      (mergedBy key xs.reverse ys.reverse ++ merged)

theorem Bottomed.not_length_le_zero (h : Bottomed key known xs ys) :
    ¬ xs.length + ys.length ≤ 0 := by
  have := List.length_pos_of_ne_nil h.ne_nil
  omega

/-- What is above everything of the second run is merged last. -/
theorem Bottomed.mergedBy_cons_of_lt {x y : α} (h : Bottomed key known (x :: xs) (y :: ys))
    (hlt : key y < key x) :
    mergedBy key (x :: xs).reverse (y :: ys).reverse =
      mergedBy key xs.reverse (y :: ys).reverse ++ [x] := by
  rw [List.reverse_cons (a := x)]
  refine append_mergedBy_of_lt _ _ _ fun item hitem x' hx' => ?_
  exact List.mem_singleton.mp hx' ▸ (h.seconds.le_head_reverse item hitem).trans_lt hlt

theorem Bottomed.mergedBy_cons_of_not_lt {x y : α} (h : Bottomed key known (x :: xs) (y :: ys))
    (hnot : ¬ key y < key x) :
    mergedBy key (x :: xs).reverse (y :: ys).reverse =
      mergedBy key (x :: xs).reverse ys.reverse ++ [y] := by
  rw [List.reverse_cons (a := y)]
  refine mergedBy_append_of_not_lt _ _ _ fun item hitem y' hy' hlt => ?_
  exact hnot ((List.mem_singleton.mp hy' ▸ hlt).trans_le (h.firsts.le_head_reverse item hitem))

section

variable (hbelow : Compares below key known) {fuel : Nat}

include hbelow

theorem MergesDown.succ (hone : MergesDown below key known fuel)
    (hleaps : LeapsDown below key known fuel) : MergesDown below key known (fuel + 1) := by
  intro patience firsts seconds xs ys merged h hfuel
  match xs, ys with
  | xs, [] => exact absurd rfl h.ne_nil
  | xs, [y] =>
      rw [List.reverse_singleton, h.mergedBy_singleton]
      unfold mergeDown
      cases xs <;> exact merges_of_eq patience (by simp)
  | [], y :: y' :: ys =>
      unfold mergeDown
      exact merges_of_eq patience (by simp)
  | x :: xs, y :: y' :: ys =>
      simp only [List.length_cons] at hfuel
      have hx := h.firsts.known x (by simp)
      have hy := h.seconds.known y (by simp)
      rw [mergeDown]
      refine merges_bind (hbelow y x hy hx) ?_
      by_cases hlt : key y < key x
      · have hrest : Bottomed key known xs (y :: y' :: ys) := h.drop_firsts [x]
        rw [decide_eq_true hlt, if_pos rfl, h.mergedBy_cons_of_lt hlt, List.append_assoc]
        refine merges_ite (fun hxs => ?_) fun _ => merges_ite (fun _ => ?_) fun _ => ?_
        · rw [List.isEmpty_iff.mp hxs]
          exact merges_of_eq patience (by simp)
        · exact hleaps _ _ _ _ hrest (by simp only [List.length_cons]; omega)
        · exact hone _ _ _ _ _ _ hrest (by simp only [List.length_cons]; omega)
      · have hrest : Bottomed key known (x :: xs) (y' :: ys) :=
          h.drop_seconds [y] List.mem_cons_self (by simpa using hlt)
        rw [decide_eq_false hlt, if_neg Bool.false_ne_true, h.mergedBy_cons_of_not_lt hlt,
          List.append_assoc]
        refine merges_ite (fun hys => ?_) fun _ => merges_ite (fun _ => ?_) fun _ => ?_
        · obtain rfl := List.isEmpty_iff.mp hys
          rw [List.reverse_singleton, hrest.mergedBy_singleton]
          exact merges_of_eq patience (by simp)
        · exact hleaps _ _ _ _ hrest (by simp only [List.length_cons]; omega)
        · exact hone _ _ _ _ _ _ hrest (by simp only [List.length_cons]; omega)

theorem LeapsDown.succ (hone : MergesDown below key known fuel)
    (hleaps : LeapsDown below key known fuel) : LeapsDown below key known (fuel + 1) := by
  intro patience xs ys merged h hfuel
  match ys with
  | [] => exact absurd rfl h.ne_nil
  | y :: ys =>
      -- first a leap over the items of the first run that go behind `y`
      obtain ⟨after, before, rfl, hafter, hbefore, htaken⟩ :=
        hbelow.exists_above_reverse (h.seconds.known y (by simp)) h.firsts
      have hrest : Bottomed key known before (y :: ys) := h.drop_firsts after
      have hmerged : mergedBy key (after ++ before).reverse (y :: ys).reverse =
          mergedBy key before.reverse (y :: ys).reverse ++ after.reverse := by
        rw [List.reverse_append]
        exact append_mergedBy_of_lt _ _ _ fun y' hy' x hx =>
          (h.seconds.le_head_reverse y' hy').trans_lt (hafter x (List.mem_reverse.mp hx))
      rw [mergeDownByLeaps, hmerged]
      refine merges_bind htaken ?_
      dsimp only
      rw [List.length_append, Nat.add_sub_cancel, List.take_left, List.drop_left]
      match before with
      | [] => exact merges_of_eq patience (by simp)
      | x :: xs =>
          have hx := hrest.firsts.known x (by simp)
          have hnot := hbefore x List.mem_cons_self
          have hseconds : Bottomed key known (x :: xs) ys :=
            hrest.drop_seconds [y] List.mem_cons_self (by simpa using hnot)
          rw [hrest.mergedBy_cons_of_not_lt hnot]
          refine merges_ite (fun hys => ?_) fun _ => ?_
          · obtain ⟨y', rfl⟩ := List.length_eq_one_iff.mp hys
            rw [List.reverse_singleton, hseconds.mergedBy_singleton]
            exact merges_of_eq patience (by simp)
          -- then one over the items of the second run that stay behind `x`
          obtain ⟨after', before', rfl, hafter', hbefore', htaken'⟩ :=
            hbelow.exists_not_below_reverse hx hseconds.seconds
          have hmerged' : mergedBy key (x :: xs).reverse (after' ++ before').reverse =
              mergedBy key (x :: xs).reverse before'.reverse ++ after'.reverse := by
            rw [List.reverse_append]
            exact mergedBy_append_of_not_lt _ _ _ fun item hitem y' hy' hlt =>
              hafter' y' (List.mem_reverse.mp hy')
                (hlt.trans_le (hrest.firsts.le_head_reverse item hitem))
          have hfirsts : Bottomed key known (x :: xs) before' :=
            hseconds.drop_seconds after' List.mem_cons_self hafter'
          refine merges_bind htaken' ?_
          rw [List.length_append, Nat.add_sub_cancel, List.take_left, List.drop_left, hmerged']
          match before' with
          | [] => exact absurd rfl hfirsts.ne_nil
          | [y'] =>
              rw [List.reverse_singleton, hfirsts.mergedBy_singleton]
              exact merges_of_eq patience (by simp)
          | y' :: y'' :: before' =>
              have hlast : Bottomed key known xs (y' :: y'' :: before') :=
                hfirsts.drop_firsts [x]
              rw [hfirsts.mergedBy_cons_of_lt (hbefore' y' List.mem_cons_self), if_neg (by simp)]
              simp only [List.length_append, List.length_cons] at hfuel
              have hless : xs.length + (y' :: y'' :: before').length ≤ fuel := by
                simp only [List.length_cons]
                omega
              have hsame : mergedBy key xs.reverse (y' :: y'' :: before').reverse ++ [x] ++
                    after'.reverse ++ [y] ++ after.reverse ++ merged =
                  mergedBy key xs.reverse (y' :: y'' :: before').reverse ++
                    x :: (after'.reverse ++ y :: (after.reverse ++ merged)) := by
                simp
              rw [hsame]
              refine merges_ite (fun hxs => ?_) fun _ => merges_ite (fun _ => ?_) fun _ => ?_
              · rw [List.isEmpty_iff.mp hxs]
                exact merges_of_eq patience (by simp)
              · exact hleaps _ _ _ _ hlast hless
              · exact hone _ _ _ _ _ _ hlast hless

theorem mergesDown_and_leapsDown (fuel : Nat) :
    MergesDown below key known fuel ∧ LeapsDown below key known fuel := by
  induction fuel with
  | zero =>
      exact ⟨fun _ _ _ _ _ _ h hfuel => absurd hfuel h.not_length_le_zero,
        fun _ _ _ _ h hfuel => absurd hfuel h.not_length_le_zero⟩
  | succ fuel ih => exact ⟨ih.1.succ hbelow ih.2, LeapsDown.succ hbelow ih.1 ih.2⟩

end

/-! ## Two runs -/

/-- What is left of two runs when what is in its place already is set aside: the second one
starts below all of the first one, and the first one ends above all of the second one. -/
structure Facing (key : α → κ) (known : α → Prop) (back : List α) (last first : α)
    (front : List α) : Prop where
  firsts : IsRun key known (back ++ [last])
  seconds : IsRun key known (first :: front)
  first_lt : ∀ x ∈ back ++ [last], key first < key x
  lt_last : ∀ y ∈ first :: front, key y < key last

section

variable {back front : List α} {first last : α} (h : Facing key known back last first front)

include h

theorem Facing.mergedBy_first :
    mergedBy key (back ++ [last]) (first :: front) =
      first :: mergedBy key (back ++ [last]) front :=
  mergedBy_append_of_lt _ [first] front fun _ hy x hx =>
    List.mem_singleton.mp hy ▸ h.first_lt x hx

theorem Facing.mergedBy_last :
    mergedBy key (back ++ [last]) (first :: front) =
      mergedBy key back (first :: front) ++ [last] :=
  append_mergedBy_of_lt back [last] _ fun y hy _ hx =>
    List.mem_singleton.mp hx ▸ h.lt_last y hy

theorem Facing.topped : Topped key known (back ++ [last]) front :=
  ⟨h.firsts, h.seconds.of_cons, last, by simp, (List.forall_mem_cons.mp h.lt_last).2⟩

theorem Facing.bottomed : Bottomed key known back.reverse (first :: front).reverse := by
  refine ⟨?_, ?_, first, by simp, fun x hx => h.first_lt x ?_⟩
  · rw [List.reverse_reverse]
    exact h.firsts.of_append_left
  · rw [List.reverse_reverse]
    exact h.seconds
  · exact List.mem_append_left _ (List.mem_reverse.mp hx)

theorem Facing.merges_up (hbelow : Compares below key known) (patience : Nat) :
    Merges (mergeUp below ((back ++ [last]).length + (first :: front).length) patience 0 0 [first]
      (back ++ [last]) front) (mergedBy key (back ++ [last]) (first :: front)) := by
  rw [h.mergedBy_first]
  refine (mergesUp_and_leapsUp hbelow _).1 patience 0 0 [first] _ _ h.topped ?_
  simp only [List.length_cons]
  omega

theorem Facing.merges_down (hbelow : Compares below key known) (patience : Nat) :
    Merges (mergeDown below ((back ++ [last]).length + (first :: front).length) patience 0 0
      (back ++ [last]).dropLast.reverse (first :: front).reverse [last])
      (mergedBy key (back ++ [last]) (first :: front)) := by
  rw [h.mergedBy_last, List.dropLast_concat]
  have hmerged := (mergesDown_and_leapsDown hbelow
    ((back ++ [last]).length + (first :: front).length)).1 patience 0 0 _ _ [last] h.bottomed
  rw [List.reverse_reverse, List.reverse_reverse] at hmerged
  refine hmerged ?_
  simp only [List.length_reverse, List.length_append]
  omega

end

/-- Runs are merged from whichever end, and what is in its place already stays there. -/
theorem merges_mergeRuns (hbelow : Compares below key known) (hxs : IsRun key known xs)
    (hys : IsRun key known ys) (patience : Nat) :
    Merges (mergeRuns below patience xs ys) (mergedBy key xs ys) := by
  unfold mergeRuns
  cases ys with
  | nil => exact merges_of_eq patience (by simp)
  | cons y ys =>
      obtain ⟨before, rest, rfl, hbefore, hrest, hstart, -⟩ :=
        hbelow.exists_above (hys.known y List.mem_cons_self) hxs
      have hstays : mergedBy key (before ++ rest) (y :: ys) =
          before ++ mergedBy key rest (y :: ys) :=
        append_mergedBy before rest (y :: ys) fun x hx y' hy' hlt =>
          hbefore x hx ((hys.head_le y' hy').trans_lt hlt)
      refine merges_bind hstart ?_
      dsimp only
      rw [List.drop_left, List.take_left, hstays]
      rcases List.eq_nil_or_concat' rest with rfl | ⟨back, last, rfl⟩
      · exact merges_of_eq patience (by simp)
      have hrun : IsRun key known (back ++ [last]) := hxs.of_append_right
      obtain ⟨front, behind, hsplit, hfront, hbehind, -, hend⟩ :=
        hbelow.exists_not_below (hrun.known last (by simp)) hys
      have hends : mergedBy key (back ++ [last]) (front ++ behind) =
          mergedBy key (back ++ [last]) front ++ behind :=
        mergedBy_append_of_not_lt _ front behind fun x hx y' hy' hlt =>
          hbehind y' hy' (hlt.trans_le (hrun.le_last x hx))
      rw [List.getLast?_concat]
      refine merges_bind hend ?_
      rw [hsplit, List.take_left, List.drop_left, hends]
      cases front with
      | nil => exact merges_of_eq patience (by simp)
      | cons first front =>
          obtain rfl : y = first := (List.cons_eq_cons.mp hsplit).1
          have hfacing : Facing key known back last y front :=
            ⟨hrun, (hsplit ▸ hys).of_append_left, hrest, hfront⟩
          rw [if_neg (by simp)]
          refine merges_ite
            (fun _ => merges_ite (fun hnone => Merges.between ?_ fun _ => rfl) fun _ =>
              merges_ite (fun hsingle => Merges.between ?_ fun _ => rfl) fun _ =>
                Merges.between ?_ fun _ => rfl)
            fun _ => merges_ite (fun hsingle => Merges.between ?_ fun _ => rfl) fun _ =>
              Merges.between ?_ fun _ => rfl
          · obtain rfl := List.isEmpty_iff.mp hnone
            exact merges_of_eq patience (by rw [hfacing.mergedBy_first, mergedBy_nil])
          · obtain rfl : back = [] := by simpa using hsingle
            exact merges_of_eq patience (by rw [hfacing.mergedBy_last, nil_mergedBy]; rfl)
          · exact hfacing.merges_up hbelow patience
          · obtain rfl : front = [] := by simpa using hsingle
            exact merges_of_eq patience (by rw [hfacing.mergedBy_first, mergedBy_nil]; rfl)
          · exact hfacing.merges_down hbelow patience

end SqlAccess.Sorting
