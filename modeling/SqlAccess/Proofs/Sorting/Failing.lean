import SqlAccess.Proofs.Fault.Failing
import SqlAccess.Sorting.Comparing

/-!
# How sorting can fail

Sorting by a comparison compares, and everything else that it does cannot fail.  So it
fails with what a comparison fails with (`failsOnly_sortedWith`).  The lemmas follow
the definitions: galloping, merging, runs, and the pieces that wait to be merged.
-/

namespace SqlAccess.Sorting

variable {α ε : Type} {law : ε → Prop}

/-! ## Galloping -/

section

variable {holds : α → Except ε Bool} (hholds : ∀ item, FailsOnly law (holds item))

include hholds

theorem failsOnly_bisect (items : Array α) (low high : Nat) :
    FailsOnly law (bisect holds items low high) := by
  fun_induction bisect holds items low high with
  | case1 low high hlt middle hnone => exact failsOnly_ok high
  | case2 low high hlt middle item hsome ihlow ihhigh =>
      exact failsOnly_bind (hholds item) fun _ => failsOnly_ite ihlow ihhigh
  | case3 low high hle => exact failsOnly_ok high

omit hholds in
theorem failsOnly_leap {goesOn : Nat → Except ε Bool} (h : ∀ n, FailsOnly law (goesOn n))
    (most last next : Nat) : FailsOnly law (leap goesOn most last next) := by
  fun_induction leap goesOn most last next with
  | case1 last next hlt ih =>
      exact failsOnly_bind (h next) fun _ => failsOnly_ite ih (failsOnly_ok _)
  | case2 last next hle => exact failsOnly_ok _

theorem failsOnly_holdsAt (items : Array α) (position : Nat) :
    FailsOnly law (holdsAt holds items position) := by
  unfold holdsAt
  split
  · exact hholds _
  · exact failsOnly_ok true

theorem failsOnly_gallopUp (items : Array α) : FailsOnly law (gallopUp holds items) := by
  have hat := failsOnly_holdsAt hholds items
  refine failsOnly_bind (hat 0) fun _ => failsOnly_ite (failsOnly_ok 0) ?_
  refine failsOnly_bind (failsOnly_leap (fun _ => failsOnly_bind (hat _) fun _ => failsOnly_ok _)
    _ _ _) fun _ => ?_
  exact failsOnly_bisect hholds _ _ _

theorem failsOnly_gallopDown (items : Array α) : FailsOnly law (gallopDown holds items) := by
  have hat := failsOnly_holdsAt hholds items
  refine failsOnly_bind (hat _) fun _ => failsOnly_ite (failsOnly_ok _) ?_
  refine failsOnly_bind (failsOnly_leap (fun _ => hat _) _ _ _) fun _ => ?_
  exact failsOnly_bisect hholds _ _ _

end

/-! ## Merging -/

variable {below : α → α → Except ε Bool} (hbelow : ∀ x y, FailsOnly law (below x y))

include hbelow

theorem failsOnly_notBelow (x y : α) :
    FailsOnly law (do return !(← below x y) : Except ε Bool) :=
  failsOnly_bind (hbelow x y) fun _ => failsOnly_ok _

/-- The two ways to merge from the start call each other, with less fuel each time. -/
theorem failsOnly_mergeUp_and (fuel : Nat) :
    (∀ patience firsts seconds merged xs ys,
      FailsOnly law (mergeUp below fuel patience firsts seconds merged xs ys)) ∧
    (∀ patience merged xs ys,
      FailsOnly law (mergeUpByLeaps below fuel patience merged xs ys)) := by
  induction fuel with
  | zero =>
      refine ⟨fun patience firsts seconds merged xs ys => ?_, fun patience merged xs ys => ?_⟩
      · unfold mergeUp
        exact failsOnly_ok _
      · unfold mergeUpByLeaps
        exact failsOnly_ok _
  | succ fuel ih =>
      obtain ⟨hone, hleaps⟩ := ih
      refine ⟨fun patience firsts seconds merged xs ys => ?_, fun patience merged xs ys => ?_⟩
      · unfold mergeUp
        split
        · rename_i hfuel
          cases hfuel
          refine failsOnly_bind (hbelow _ _) fun _ => failsOnly_ite ?_ ?_
          all_goals
            exact failsOnly_ite (failsOnly_ok _)
              (failsOnly_ite (hleaps _ _ _ _) (hone _ _ _ _ _ _))
        · exact failsOnly_ok _
      · unfold mergeUpByLeaps
        split
        · rename_i hfuel
          cases hfuel
          refine failsOnly_bind (failsOnly_gallopUp (fun _ => hbelow _ _) _) fun taken => ?_
          dsimp only
          split
          · exact failsOnly_ok _
          · exact failsOnly_ok _
          · refine failsOnly_ite (failsOnly_ok _) ?_
            refine failsOnly_bind (failsOnly_gallopUp (fun _ => failsOnly_notBelow hbelow _ _) _)
              fun taken' => ?_
            exact failsOnly_ite (failsOnly_ok _) (failsOnly_ite (failsOnly_ok _)
              (failsOnly_ite (hleaps _ _ _ _) (hone _ _ _ _ _ _)))
        · exact failsOnly_ok _

theorem failsOnly_mergeDown_and (fuel : Nat) :
    (∀ patience firsts seconds xs ys merged,
      FailsOnly law (mergeDown below fuel patience firsts seconds xs ys merged)) ∧
    (∀ patience xs ys merged,
      FailsOnly law (mergeDownByLeaps below fuel patience xs ys merged)) := by
  induction fuel with
  | zero =>
      refine ⟨fun patience firsts seconds xs ys merged => ?_, fun patience xs ys merged => ?_⟩
      · unfold mergeDown
        exact failsOnly_ok _
      · unfold mergeDownByLeaps
        exact failsOnly_ok _
  | succ fuel ih =>
      obtain ⟨hone, hleaps⟩ := ih
      refine ⟨fun patience firsts seconds xs ys merged => ?_, fun patience xs ys merged => ?_⟩
      · unfold mergeDown
        split
        · rename_i hfuel
          cases hfuel
          refine failsOnly_bind (hbelow _ _) fun _ => failsOnly_ite ?_ ?_
          all_goals
            exact failsOnly_ite (failsOnly_ok _)
              (failsOnly_ite (hleaps _ _ _ _) (hone _ _ _ _ _ _))
        · exact failsOnly_ok _
      · unfold mergeDownByLeaps
        split
        · rename_i hfuel
          cases hfuel
          refine failsOnly_bind (failsOnly_gallopDown (fun _ => hbelow _ _) _) fun taken => ?_
          dsimp only
          split
          · exact failsOnly_ok _
          · refine failsOnly_ite (failsOnly_ok _) ?_
            refine failsOnly_bind (failsOnly_gallopDown
              (fun _ => failsOnly_notBelow hbelow _ _) _) fun taken' => ?_
            exact failsOnly_ite (failsOnly_ok _) (failsOnly_ite (failsOnly_ok _)
              (failsOnly_ite (hleaps _ _ _ _) (hone _ _ _ _ _ _)))
        · exact failsOnly_ok _

theorem failsOnly_mergeUp (fuel patience firsts seconds : Nat) (merged xs ys : List α) :
    FailsOnly law (mergeUp below fuel patience firsts seconds merged xs ys) :=
  (failsOnly_mergeUp_and hbelow fuel).1 patience firsts seconds merged xs ys

theorem failsOnly_mergeDown (fuel patience firsts seconds : Nat) (xs ys merged : List α) :
    FailsOnly law (mergeDown below fuel patience firsts seconds xs ys merged) :=
  (failsOnly_mergeDown_and hbelow fuel).1 patience firsts seconds xs ys merged

theorem failsOnly_mergeRuns (patience : Nat) (xs ys : List α) :
    FailsOnly law (mergeRuns below patience xs ys) := by
  unfold mergeRuns
  split
  · exact failsOnly_ok _
  · refine failsOnly_bind (failsOnly_gallopUp (fun _ => hbelow _ _) _) fun before => ?_
    dsimp only
    split
    · exact failsOnly_ok _
    · refine failsOnly_bind (failsOnly_gallopDown (fun _ => failsOnly_notBelow hbelow _ _) _)
        fun count => ?_
      refine failsOnly_ite (failsOnly_ok _) (failsOnly_ite ?_ ?_)
      · split
        · exact failsOnly_ok _
        · refine failsOnly_ite (failsOnly_ok _) (failsOnly_ite (failsOnly_ok _) ?_)
          exact failsOnly_bind (failsOnly_mergeUp hbelow _ _ _ _ _ _ _) fun _ => failsOnly_ok _
      · refine failsOnly_ite (failsOnly_ok _) ?_
        exact failsOnly_bind (failsOnly_mergeDown hbelow _ _ _ _ _ _ _) fun _ => failsOnly_ok _

/-! ## Runs -/

theorem failsOnly_runAfter (descending : Bool) (last : α) (items : List α) :
    FailsOnly law (runAfter below descending last items) := by
  induction items generalizing last with
  | nil => exact failsOnly_ok _
  | cons item items ih =>
      refine failsOnly_bind (hbelow item last) fun _ => failsOnly_ite ?_ (failsOnly_ok _)
      exact failsOnly_bind (ih item) fun _ => failsOnly_ok _

theorem failsOnly_firstRun (items : List α) : FailsOnly law (firstRun below items) := by
  unfold firstRun
  split
  · exact failsOnly_bind (hbelow _ _) fun _ =>
      failsOnly_bind (failsOnly_runAfter hbelow _ _ _) fun _ => failsOnly_ok _
  · exact failsOnly_ok _

theorem failsOnly_insertSorted (item : α) (run : List α) :
    FailsOnly law (insertSorted below item run) := by
  fun_induction insertSorted below item run with
  | case1 run hdrop => exact failsOnly_ok [item]
  | case2 run middle after hdrop before ihbefore ihafter =>
      refine failsOnly_bind (hbelow item middle) fun _ => failsOnly_ite ?_ ?_
      · exact failsOnly_bind ihbefore fun _ => failsOnly_ok _
      · exact failsOnly_bind ihafter fun _ => failsOnly_ok _

theorem failsOnly_longRun (least : Nat) (items : List α) :
    FailsOnly law (longRun below least items) := by
  refine failsOnly_bind (failsOnly_firstRun hbelow items) fun _ => ?_
  refine failsOnly_bind (failsOnly_foldlM fun item _ run => ?_) fun _ => failsOnly_ok _
  exact failsOnly_insertSorted hbelow item run

/-! ## Pieces -/

theorem failsOnly_mergeLast (waiting : Waiting α) : FailsOnly law (mergeLast below waiting) := by
  unfold mergeLast
  split
  · exact failsOnly_bind (failsOnly_mergeRuns hbelow _ _ _) fun _ => failsOnly_ok _
  · exact failsOnly_ok _

theorem failsOnly_mergeDeeper (limit fuel : Nat) (waiting : Waiting α) :
    FailsOnly law (mergeDeeper below limit fuel waiting) := by
  induction fuel generalizing waiting with
  | zero =>
      unfold mergeDeeper
      exact failsOnly_ok _
  | succ fuel ih =>
      unfold mergeDeeper
      split
      · rename_i hfuel
        cases hfuel
        exact failsOnly_ite (failsOnly_bind (failsOnly_mergeLast hbelow _) fun _ => ih _)
          (failsOnly_ok _)
      · exact failsOnly_ok _

theorem failsOnly_addRun (size start : Nat) (run : List α) (waiting : Waiting α) :
    FailsOnly law (addRun below size start run waiting) := by
  unfold addRun
  split
  · refine failsOnly_bind (failsOnly_mergeDeeper hbelow _ _ _) fun _ => ?_
    split <;> exact failsOnly_ok _
  · exact failsOnly_ok _

theorem failsOnly_collect (size least fuel : Nat) (items : List α) (waiting : Waiting α) :
    FailsOnly law (collect below size least fuel items waiting) := by
  induction fuel generalizing items waiting with
  | zero =>
      unfold collect
      exact failsOnly_ok _
  | succ fuel ih =>
      unfold collect
      split
      · rename_i hfuel
        cases hfuel
        refine failsOnly_bind (failsOnly_longRun hbelow _ _) fun _ => ?_
        exact failsOnly_bind (failsOnly_addRun hbelow _ _ _ _) fun _ => ih _ _
      · exact failsOnly_ok _

theorem failsOnly_mergeAll (fuel : Nat) (waiting : Waiting α) :
    FailsOnly law (mergeAll below fuel waiting) := by
  induction fuel generalizing waiting with
  | zero =>
      unfold mergeAll
      exact failsOnly_ok _
  | succ fuel ih =>
      unfold mergeAll
      split
      · rename_i hfuel
        cases hfuel
        exact failsOnly_ite (failsOnly_bind (failsOnly_mergeLast hbelow _) fun _ => ih _)
          (failsOnly_bind (failsOnly_mergeLast hbelow _) fun _ => ih _)
      · rename_i hfuel
        cases hfuel
        exact failsOnly_bind (failsOnly_mergeLast hbelow _) fun _ => ih _
      · exact failsOnly_ok _

/-- Sorting fails with what a comparison fails with, and with nothing else. -/
theorem failsOnly_sortedWith (items : List α) : FailsOnly law (sortedWith below items) :=
  failsOnly_bind (failsOnly_collect hbelow _ _ _ _ _) fun _ => failsOnly_mergeAll hbelow _ _

end SqlAccess.Sorting
