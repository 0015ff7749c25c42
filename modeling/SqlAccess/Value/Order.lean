import SqlAccess.Fault
import SqlAccess.Value.Equality

/-!
# Order of values

Numbers are ordered by size, texts and runs of bytes from left to right, and
lists by the first place in which they differ.  No other two values have an
order, and it is a fault to compare them.
-/

namespace SqlAccess.Value

mutual

/-- Whether a value is below another one.  Of two numbers of which one is no
number, neither is. -/
def isBelow : Value → Value → Except Fault Bool
  | text x, text y => .ok (x < y)
  | blob x, blob y => .ok (x < y)
  | list xs, list ys => itemsBelow xs ys
  | x, y =>
    match number? x, number? y with
    | some m, some n => .ok (m.isBelow n)
    | _, _ => .error (.mistake (.unordered "<" x.kindName y.kindName))

/-- Whether a list is below another one: its first item that differs is, or it
ends before any item differs. -/
def itemsBelow : List Value → List Value → Except Fault Bool
  | x :: xs, y :: ys => if same x y then itemsBelow xs ys else isBelow x y
  | [], _ :: _ => .ok true
  | _, [] => .ok false

end

end SqlAccess.Value
