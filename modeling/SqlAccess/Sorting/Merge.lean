import SqlAccess.Sorting.Gallop

/-!
# Merging runs

Two runs that follow each other are merged into one, and of items of which none
is below the other those of the first run come first.  Items are taken one by one
until so many in a row come from one of the runs that galloping promises to be
faster; galloping ends when it takes few items at a time.  The number of items in
a row that lets it begin (the patience) changes with its success, and is handed
on from merge to merge.
-/

namespace SqlAccess.Sorting

variable {α ε : Type} (below : α → α → Except ε Bool)

/-- The patience at the start, and the number of items that galloping has to take
at a time in order to go on. -/
def initialPatience : Nat := 7

mutual

/-- Merges from the start, one by one.  `merged` holds what is merged, the latest
first; `firsts` and `seconds` are how many items came last in a row from the
first and from the second run. -/
def mergeUp (fuel patience firsts seconds : Nat) (merged xs ys : List α) :
    Except ε (List α × Nat) :=
  match fuel, xs, ys with
  | fuel + 1, x :: x' :: xs, y :: ys => do
    if ← below y x then
      if ys.isEmpty then return (merged.reverse ++ y :: x :: x' :: xs, patience)
      else if patience ≤ seconds + 1 then
        mergeUpByLeaps fuel patience (y :: merged) (x :: x' :: xs) ys
      else mergeUp fuel patience 0 (seconds + 1) (y :: merged) (x :: x' :: xs) ys
    else
      if xs.isEmpty then return (merged.reverse ++ x :: y :: ys ++ [x'], patience)
      else if patience ≤ firsts + 1 then
        mergeUpByLeaps fuel patience (x :: merged) (x' :: xs) (y :: ys)
      else mergeUp fuel patience (firsts + 1) 0 (x :: merged) (x' :: xs) (y :: ys)
  | _, xs, ys => .ok (merged.reverse ++ ys ++ xs, patience)

/-- Merges from the start by leaps. -/
def mergeUpByLeaps (fuel patience : Nat) (merged xs ys : List α) : Except ε (List α × Nat) :=
  match fuel, ys with
  | fuel + 1, y :: ys => do
    let taken ← gallopUp (fun x => below y x) xs.toArray
    let merged := (xs.take taken).reverse ++ merged
    match xs.drop taken with
    | [] => return (merged.reverse ++ y :: ys, patience)
    | [x] => return (merged.reverse ++ y :: ys ++ [x], patience)
    | x :: xs =>
      if ys.isEmpty then return (merged.reverse ++ y :: x :: xs, patience)
      let taken' ← gallopUp (fun y => do return !(← below y x)) ys.toArray
      let merged := (ys.take taken').reverse ++ y :: merged
      let ys := ys.drop taken'
      if ys.isEmpty then return (merged.reverse ++ x :: xs, patience)
      else if xs.length = 1 then return (merged.reverse ++ x :: ys ++ xs, patience)
      else if initialPatience ≤ taken ∨ initialPatience ≤ taken' then
        mergeUpByLeaps fuel (patience - if 1 < patience then 1 else 0) (x :: merged) xs ys
      else mergeUp fuel (patience + 1) 0 0 (x :: merged) xs ys
  | _, ys => .ok (merged.reverse ++ ys ++ xs, patience)

end

mutual

/-- Merges from the end, one by one.  `merged` holds what is merged, and both
runs are given backwards. -/
def mergeDown (fuel patience firsts seconds : Nat) (xs ys merged : List α) :
    Except ε (List α × Nat) :=
  match fuel, xs, ys with
  | fuel + 1, x :: xs, y :: y' :: ys => do
    if ← below y x then
      if xs.isEmpty then return ((y :: y' :: ys).reverse ++ x :: merged, patience)
      else if patience ≤ firsts + 1 then
        mergeDownByLeaps fuel patience xs (y :: y' :: ys) (x :: merged)
      else mergeDown fuel patience (firsts + 1) 0 xs (y :: y' :: ys) (x :: merged)
    else
      if ys.isEmpty then return (y' :: (x :: xs).reverse ++ y :: merged, patience)
      else if patience ≤ seconds + 1 then
        mergeDownByLeaps fuel patience (x :: xs) (y' :: ys) (y :: merged)
      else mergeDown fuel patience 0 (seconds + 1) (x :: xs) (y' :: ys) (y :: merged)
  | _, xs, ys => .ok (ys.reverse ++ xs.reverse ++ merged, patience)

/-- Merges from the end by leaps. -/
def mergeDownByLeaps (fuel patience : Nat) (xs ys merged : List α) : Except ε (List α × Nat) :=
  match fuel, ys with
  | fuel + 1, y :: ys => do
    let taken := xs.length - (← gallopDown (fun x => below y x) xs.reverse.toArray)
    let merged := (xs.take taken).reverse ++ merged
    match xs.drop taken with
    | [] => return ((y :: ys).reverse ++ merged, patience)
    | x :: xs =>
      if ys.length = 1 then return (ys ++ (x :: xs).reverse ++ y :: merged, patience)
      let taken' := ys.length -
        (← gallopDown (fun y => do return !(← below y x)) ys.reverse.toArray)
      let merged := (ys.take taken').reverse ++ y :: merged
      let ys := ys.drop taken'
      if ys.length ≤ 1 then return (ys ++ (x :: xs).reverse ++ merged, patience)
      else if xs.isEmpty then return (ys.reverse ++ x :: merged, patience)
      else if initialPatience ≤ taken ∨ initialPatience ≤ taken' then
        mergeDownByLeaps fuel (patience - if 1 < patience then 1 else 0) xs ys (x :: merged)
      else mergeDown fuel (patience + 1) 0 0 xs ys (x :: merged)
  | _, ys => .ok (ys.reverse ++ xs.reverse ++ merged, patience)

end

/-- Merges two runs.  What of the first run is not above the start of the second
one stays in place, and so does what of the second run is not below the end of
the first one; the shorter one of the remainders says from which end the rest is
merged. -/
def mergeRuns (patience : Nat) (xs ys : List α) : Except ε (List α × Nat) := do
  match ys with
  | [] => return (xs, patience)
  | y :: _ =>
    let before ← gallopUp (fun x => below y x) xs.toArray
    let rest := xs.drop before
    match rest.getLast? with
    | none => return (xs ++ ys, patience)
    | some last =>
      let count ← gallopDown (fun y => do return !(← below y last)) ys.toArray
      let front := ys.take count
      if front.isEmpty then return (xs ++ ys, patience)
      let fuel := rest.length + front.length
      let (merged, patience) ←
        if rest.length ≤ front.length then
          match front with
          | [] => pure (rest, patience)
          | y :: front =>
            if front.isEmpty then pure (y :: rest, patience)
            else if rest.length = 1 then pure (y :: front ++ rest, patience)
            else mergeUp below fuel patience 0 0 [y] rest front
        else
          let back := rest.dropLast
          if front.length = 1 then pure (front ++ rest, patience)
          else mergeDown below fuel patience 0 0 back.reverse front.reverse [last]
      return (xs.take before ++ merged ++ ys.drop count, patience)

end SqlAccess.Sorting
