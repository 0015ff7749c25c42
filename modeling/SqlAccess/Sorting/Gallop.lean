/-!
# Galloping

Where in a sorted array a condition begins to hold, searched for by leaps of
doubling width from one of the ends, and then by halves between the last two
leaps.  Testing the condition may fault.
-/

namespace SqlAccess.Sorting

variable {α ε : Type} (holds : α → Except ε Bool)

/-- Where the condition begins to hold between two positions, by halves. -/
def bisect (items : Array α) (low high : Nat) : Except ε Nat :=
  if low < high then do
    let middle := low + (high - low) / 2
    match items[middle]? with
    | none => return high
    | some item =>
      if ← holds item then bisect items low middle else bisect items (middle + 1) high
  else .ok high
termination_by high - low

/-- Leaps from distance to distance as long as a test allows it.  Gives the last
distance that it allows and the one after that, which is at most `most`. -/
def leap (goesOn : Nat → Except ε Bool) (most last next : Nat) : Except ε (Nat × Nat) :=
  if next < most then do
    if ← goesOn next then leap goesOn most next (2 * next + 1) else return (last, next)
  else .ok (last, most)
termination_by most - next

/-- Whether the condition holds at a position; it does outside of the array. -/
def holdsAt (items : Array α) (position : Nat) : Except ε Bool :=
  match items[position]? with
  | some item => holds item
  | none => .ok true

/-- Where the condition begins to hold, searched for from the start. -/
def gallopUp (items : Array α) : Except ε Nat := do
  if ← holdsAt holds items 0 then return 0
  let (last, next) ← leap (fun position => do return !(← holdsAt holds items position))
    items.size 0 1
  bisect holds items (last + 1) next

/-- Where the condition begins to hold, searched for from the end. -/
def gallopDown (items : Array α) : Except ε Nat := do
  let top := items.size - 1
  if !(← holdsAt holds items top) then return items.size
  let (last, next) ← leap (fun distance => holdsAt holds items (top - distance)) items.size 0 1
  bisect holds items (items.size - next) (top - last)

end SqlAccess.Sorting
