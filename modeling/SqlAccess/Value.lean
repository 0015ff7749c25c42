import SqlAccess.Number.Floating

/-!
# Values

What a column can hold and what a statement can be given as a parameter, and
besides these the lists and objects in which loosely typed descriptions arrive.
-/

namespace SqlAccess

/-- A value. -/
inductive Value where
  /-- The absent value. -/
  | null
  /-- A truth value. -/
  | bool (flag : Bool)
  /-- An integer of any size. -/
  | int (number : Int)
  /-- A floating-point number. -/
  | real (number : Floating)
  /-- A text. -/
  | text (content : String)
  /-- A run of bytes. -/
  | blob (bytes : List UInt8)
  /-- A sequence of values. -/
  | list (items : List Value)
  /-- Named values; the names are distinct and have an order. -/
  | object (entries : List (String × Value))
  deriving Repr

namespace Value

instance : Inhabited Value := ⟨null⟩

/-- The numeric value, without rounding; truth values count as one and zero. -/
def number? : Value → Option Floating
  | bool flag => some (.ofInt flag.toInt)
  | int number => some (.ofInt number)
  | real number => some number
  | _ => none

/-- Whether the value counts as true: everything does except the absent value,
the numbers equal to zero, and what is empty. -/
def truth : Value → Bool
  | null => false
  | bool flag => flag
  | int number => number != 0
  | real number => !number.isZero
  | text content => content != ""
  | blob bytes => !bytes.isEmpty
  | list items => !items.isEmpty
  | object entries => !entries.isEmpty

/-- Whether the value is the absent one. -/
def isNull : Value → Bool
  | null => true
  | _ => false

/-! ## Sequences

Texts, runs of bytes, lists and objects can stand where a sequence is asked
for: a text is the sequence of its characters, a run of bytes the sequence of
their numbers, and an object the sequence of its names. -/

/-- The items of a value that is a sequence. -/
def items? : Value → Option (List Value)
  | text content => some (content.toList.map fun c => text (String.ofList [c]))
  | blob bytes => some (bytes.map fun byte => int byte.toNat)
  | list items => some items
  | object entries => some (entries.map fun entry => text entry.1)
  | _ => none

/-! ## Kinds -/

/-- The name under which messages speak of a value's kind. -/
def kindName : Value → String
  | null => "NoneType"
  | bool _ => "bool"
  | int _ => "int"
  | real _ => "float"
  | text _ => "str"
  | blob _ => "bytes"
  | list _ => "list"
  | object _ => "dict"

end Value

end SqlAccess
