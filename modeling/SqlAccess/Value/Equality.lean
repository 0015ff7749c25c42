import SqlAccess.Value

/-!
# Equality of values

Numbers are equal when they have the same numeric value, whatever their kind,
and the number that is no number equals nothing.  Lists are compared item by
item.  The order of an object's entries does not matter.
-/

namespace SqlAccess.Value

mutual

/-- Whether two values are equal. -/
def same : Value → Value → Bool
  | null, null => true
  | text x, text y => x == y
  | blob x, blob y => x == y
  | list xs, list ys => sameItems xs ys
  | object xs, object ys => xs.length == ys.length && sameEntries xs ys
  | x, y =>
    match number? x, number? y with
    | some m, some n => m.equals n
    | _, _ => false

/-- Whether two lists have equal items. -/
def sameItems : List Value → List Value → Bool
  | [], [] => true
  | x :: xs, y :: ys => same x y && sameItems xs ys
  | _, _ => false

/-- Whether each entry has an equal entry of the same name in `ys`. -/
def sameEntries : List (String × Value) → List (String × Value) → Bool
  | [], _ => true
  | (name, x) :: xs, ys =>
    (match ys.lookup name with
      | some y => same x y
      | none => false) && sameEntries xs ys

end

end SqlAccess.Value
