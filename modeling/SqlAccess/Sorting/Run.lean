/-!
# Runs

A run is a part of a list that is in ascending order already.  `firstRun` splits
off the run at the start of a list, and `insertSorted` makes it longer.

Comparing two items may fault, so the definitions say which comparisons are made
and in which order.
-/

namespace SqlAccess.Sorting

variable {α ε : Type} (below : α → α → Except ε Bool)

/-- Splits off the items of which each one is below the item before it, or of
which none is; `last` is the item before the first one. -/
def runAfter (descending : Bool) (last : α) : List α → Except ε (List α × List α)
  | [] => .ok ([], [])
  | item :: items => do
    if (← below item last) == descending then
      let (run, others) ← runAfter descending item items
      return (item :: run, others)
    else return ([], item :: items)

/-- Splits off the run at the start, in ascending order: if the second item is
below the first one it descends, and is reversed. -/
def firstRun : List α → Except ε (List α × List α)
  | first :: second :: items => do
    let descending ← below second first
    let (run, others) ← runAfter below descending second items
    let run := first :: second :: run
    return (if descending then run.reverse else run, others)
  | items => .ok (items, [])

/-- Puts an item into a run, behind the items that it is not below.  Its place
is searched for by halves. -/
def insertSorted (item : α) (run : List α) : Except ε (List α) :=
  match _ : run.drop (run.length / 2) with
  | [] => .ok [item]
  | middle :: after => do
    let before := run.take (run.length / 2)
    if ← below item middle then return (← insertSorted item before) ++ middle :: after
    else return before ++ middle :: (← insertSorted item after)
termination_by run.length
decreasing_by
  · rename_i h
    have := congrArg List.length h
    simp at *
    omega
  · rename_i h
    have := congrArg List.length h
    simp at this
    omega

/-- Splits off a run of at least `least` items, as far as there are so many: one
that is too short takes up the items after it. -/
def longRun (least : Nat) (items : List α) : Except ε (List α × List α) := do
  let (run, others) ← firstRun below items
  let missing := least - run.length
  let run ← (others.take missing).foldlM (fun run item => insertSorted below item run) run
  return (run, others.drop missing)

end SqlAccess.Sorting
