import SqlAccess.Sorting.Merge
import SqlAccess.Sorting.Run

/-!
# Sorting by a comparison

A list is cut into runs, and runs that follow each other are merged (`sortedWith`).
Comparing two items may fault, and then the first fault that is met is the result.

Which runs are merged first is settled by the place of their middles: the list is
halved, its halves are halved and so on, and the boundary of two runs has the
depth (`depth`) at which a cut first comes between their middles.  Deeper
boundaries are merged first.
-/

namespace SqlAccess.Sorting

/-- A run, where it starts, and how deep its boundary to the next run is. -/
structure Piece (α : Type) where
  /-- Where the run starts in the list. -/
  start : Nat
  run : List α
  /-- The depth of the boundary after it. -/
  depth : Nat := 0

/-- The depth at which a cut first comes between two doubled positions `a` and
`b` of a list of `size` items. -/
def depthFrom : Nat → Nat → Nat → Nat → Nat
  | 0, _, _, _ => 0
  | fuel + 1, size, a, b =>
    if size ≤ a then depthFrom fuel size (2 * (a - size)) (2 * (b - size)) + 1
    else if size ≤ b then 1
    else depthFrom fuel size (2 * a) (2 * b) + 1

/-- The depth of the boundary between a piece and the `next` items after it. -/
def depth {α : Type} (size next : Nat) (piece : Piece α) : Nat :=
  let middle := 2 * piece.start + piece.run.length
  depthFrom (size + 1) size middle (middle + piece.run.length + next)

/-- The least length of a run in a list of `size` items: such that the number of
runs is close to a power of two, but not above it. -/
def leastRun (rest size : Nat) : Nat :=
  if size < 64 then size + rest else leastRun (max rest (size % 2)) (size / 2)
termination_by size

variable {α ε : Type} (below : α → α → Except ε Bool)

/-- Pieces that wait to be merged, the last one first, and the patience. -/
abbrev Waiting (α : Type) := List (Piece α) × Nat

/-- Merges the last piece into the one before it. -/
def mergeLast : Waiting α → Except ε (Waiting α)
  | (second :: first :: pieces, patience) => do
    let (run, patience) ← mergeRuns below patience first.run second.run
    return ({ first with run } :: pieces, patience)
  | waiting => .ok waiting

/-- Merges the last pieces as long as the boundary before them is deeper than a
given depth. -/
def mergeDeeper (limit : Nat) : Nat → Waiting α → Except ε (Waiting α)
  | fuel + 1, (second :: first :: pieces, patience) => do
    if limit < first.depth then
      mergeDeeper limit fuel (← mergeLast below (second :: first :: pieces, patience))
    else return (second :: first :: pieces, patience)
  | _, waiting => .ok waiting

/-- Adds a run to the waiting pieces. -/
def addRun (size start : Nat) (run : List α) : Waiting α → Except ε (Waiting α)
  | (last :: pieces, patience) => do
    let limit := depth size run.length last
    match ← mergeDeeper below limit size (last :: pieces, patience) with
    | (last :: pieces, patience) =>
      return ({ start, run } :: { last with depth := limit } :: pieces, patience)
    | ([], patience) => return ([{ start, run }], patience)
  | ([], patience) => .ok ([{ start, run }], patience)

/-- Cuts a list into runs and merges what is to be merged on the way. -/
def collect (size least : Nat) : Nat → List α → Waiting α → Except ε (Waiting α)
  | fuel + 1, item :: items, waiting => do
    let (run, others) ← longRun below least (item :: items)
    let waiting ← addRun below size (size - items.length - 1) run waiting
    collect size least fuel others waiting
  | _, _, waiting => .ok waiting

/-- Merges all waiting pieces.  The last piece waits once more if the one before
its neighbour is shorter than it. -/
def mergeAll : Nat → Waiting α → Except ε (List α)
  | fuel + 1, (third :: second :: first :: pieces, patience) => do
    if first.run.length < third.run.length then
      let (merged, patience) ← mergeLast below (second :: first :: pieces, patience)
      mergeAll fuel (third :: merged, patience)
    else mergeAll fuel (← mergeLast below (third :: second :: first :: pieces, patience))
  | fuel + 1, (second :: first :: pieces, patience) => do
    mergeAll fuel (← mergeLast below (second :: first :: pieces, patience))
  | _, (pieces, _) => .ok (pieces.reverse.flatMap Piece.run)

/-- A list in ascending order; items of which none is below another one keep
their order. -/
def sortedWith (items : List α) : Except ε (List α) := do
  let size := items.length
  let waiting ← collect below size (leastRun 0 size) size items ([], initialPatience)
  mergeAll below size waiting

end SqlAccess.Sorting
