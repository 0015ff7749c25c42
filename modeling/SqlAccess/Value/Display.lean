import SqlAccess.Value
import SqlAccess.Text.Quoted
import SqlAccess.Text.Listing
import SqlAccess.Number.Floating.Display
import SqlAccess.Number.Integer

/-!
# Values as text

`quoted` is the unambiguous form: texts and bytes stand between quotes.
`display` is the plain form: a text stands for itself, and everything else is
written as by `quoted`.

Both forms say how a value is written, if it is written at all: that no integer in
it may have too many digits for this is `isWritable`.
-/

namespace SqlAccess.Value

open SqlAccess.Text (listing)

mutual

/-- The unambiguous form of a value. -/
def quoted : Value → String
  | null => "None"
  | bool flag => if flag then "True" else "False"
  | int number => toString number
  | real number => number.display
  | text content => Text.quoted content
  | blob bytes => Text.quotedBytes bytes
  | list items => "[" ++ listing (quotedItems items) ++ "]"
  | object entries => "\x7b" ++ listing (quotedEntries entries) ++ "\x7d"

/-- The unambiguous forms of a list's items. -/
def quotedItems : List Value → List String
  | [] => []
  | item :: items => quoted item :: quotedItems items

/-- The unambiguous forms of an object's entries. -/
def quotedEntries : List (String × Value) → List String
  | [] => []
  | (name, value) :: entries =>
    (Text.quoted name ++ ": " ++ quoted value) :: quotedEntries entries

end

/-- The plain form of a value. -/
def display : Value → String
  | text content => content
  | value => quoted value

mutual

/-- Whether a value can be written: an integer with too many digits cannot, and
neither can anything that has one in it. -/
def isWritable : Value → Bool
  | int number => Number.isWritable number
  | list items => areWritable items
  | object entries => haveWritable entries
  | _ => true

/-- Whether all items of a list can be written. -/
def areWritable : List Value → Bool
  | [] => true
  | item :: items => isWritable item && areWritable items

/-- Whether the values of all entries of an object can be written. -/
def haveWritable : List (String × Value) → Bool
  | [] => true
  | (_, value) :: entries => isWritable value && haveWritable entries

end

@[simp] theorem isWritable_int (number : Int) :
    (int number).isWritable = Number.isWritable number := by
  rw [isWritable]

@[simp] theorem display_text (content : String) : display (.text content) = content := rfl

example : quoted (.list [.text "it's", .null, .bool true]) = "[\"it's\", None, True]" := by
  decide +kernel

end SqlAccess.Value
