/-!
# Listings

SQL writes every enumeration the same way: the parts in order, with a comma and
a blank between two of them.  Messages put an "and" before the last part.
-/

namespace SqlAccess.Text

/-- The parts in order, separated by commas. -/
def listing (parts : List String) : String :=
  ", ".intercalate parts

@[simp] theorem listing_nil : listing [] = "" := rfl

@[simp] theorem toList_listing (parts : List String) :
    (listing parts).toList = [',', ' '].intercalate (parts.map String.toList) := by
  simp [listing, String.toList_intercalate]

/-- A listing of `count` placeholders. -/
def placeholders (count : Nat) : String :=
  listing (List.replicate count "?")

/-- The parts in order, as a sentence enumerates them. -/
def conjunction : List String → String
  | [first, second] => s!"{first} and {second}"
  | first :: second :: parts =>
    listing (first :: second :: parts).dropLast ++ ", and " ++ (second :: parts).getLastD ""
  | parts => listing parts

example : conjunction ["a", "b", "c"] = "a, b, and c" := by decide

end SqlAccess.Text
