import SqlAccess.Fault
import SqlAccess.Number.Integer
import SqlAccess.Statement.Control
import SqlAccess.Text.Literal

/-!
# Conversions that can fail

Taking a value as a sequence, as something with a length, as a pair, or as an
integer.  Each conversion says which kinds it takes and faults on the others.

Before a value gets into a text it has to be checked that it can be written
(`checkWritable`).
-/

namespace SqlAccess.Value

/-- Checks that a value can be written. -/
def checkWritable (value : Value) : Except Fault Unit :=
  if value.isWritable then .ok () else .error (.misfit .longInteger)

theorem checkWritable_eq_ok {value : Value} (h : value.isWritable = true) :
    value.checkWritable = .ok () :=
  if_pos h

theorem checkWritable_eq_error {value : Value} (h : value.isWritable = false) :
    value.checkWritable = .error (.misfit .longInteger) :=
  if_neg (Bool.eq_false_iff.mp h)

/-- The items of a sequence. -/
def sequence (value : Value) : Except Fault (List Value) :=
  match value.items? with
  | some items => .ok items
  | none => .error (.mistake (.notSequence value.kindName))

/-- The items of a value that has a length. -/
def sized (value : Value) : Except Fault (List Value) :=
  match value.items? with
  | some items => .ok items
  | none => .error (.mistake (.noLength value.kindName))

/-- The two items of a pair. -/
def pair (value : Value) : Except Fault (Value × Value) :=
  match value.items? with
  | some [first, second] => .ok (first, second)
  | some items =>
    .error (.misfit (if items.length < 2 then .shortPair items.length else .longPair))
  | none => .error (.mistake (.notPair value.kindName))

/-- The text of a listed item, which has to be a text. -/
def listed (position : Nat) : Value → Except Fault String
  | text content => .ok content
  | value => .error (.mistake (.notText position value.kindName))

/-- The texts of listed items, from a position on. -/
def listedFrom (position : Nat) : List Value → Except Fault (List String)
  | [] => .ok []
  | item :: items => do
    let first ← listed position item
    let others ← listedFrom (position + 1) items
    return first :: others

/-- The integer that was read from a text, whose quoted form is `quoted`.  No
more than 200 characters of that form are told. -/
def ofReading (quoted : String) : Number.IntegerReading → Except Fault Int
  | .number number => .ok number
  | .malformed => .error (.misfit (.notInteger (String.ofList (quoted.toList.take 200))))
  | .oversize size => .error (.misfit (.longNumeral size))

/-- The integer of a value: a number without its fraction, a truth value as one
or zero, or the number that a text or ASCII bytes denote. -/
def toInteger : Value → Except Fault Int
  | bool flag => .ok flag.toInt
  | int number => .ok number
  | real (.finite negative mantissa exponent) =>
    .ok (Floating.truncate negative mantissa exponent)
  | real (.infinite _) => .error .infiniteInteger
  | real .nan => .error (.misfit .noNumber)
  | text content => ofReading (Text.quoted content) (Number.readInteger content.toList)
  | blob bytes =>
    ofReading (Text.quotedBytes (bytes.take 200))
      (if bytes.all (· < 128) then
        Number.readInteger (bytes.map fun byte => Char.ofNat byte.toNat)
      else .malformed)
  | value => .error (.mistake (.noInteger value.kindName))

/-- The literal that stands for a value between quotes, both of which have to be
texts. -/
def literalWithin (quote value : Value) : Except Fault String :=
  match value, quote with
  | text content, text mark => .ok (Text.literalWithin mark content)
  | text _, _ | blob _, _ => .error (.mistake (.notText 0 quote.kindName))
  | _, _ => .error (.unknownCall value.kindName "replace")

/-- Whether a value names an insertion, judged by its first word.  Bytes have
words too, but name none. -/
def isInsertion (value : Value) : Except Fault Bool :=
  match value with
  | text sql => .ok (Statement.isInsertion ⟨sql, []⟩)
  | blob _ => .ok false
  | _ => .error (.unknownCall value.kindName "strip")

/-- Whether a value is below a number; values that are no numbers have no
order to it. -/
def lessThan (value : Value) (bound : Int) : Except Fault Bool :=
  match value.number? with
  | some x => .ok (x.isBelow (.ofInt bound))
  | none => .error (.mistake (.unordered "<" value.kindName "int"))

/-- Whether a value is above a number; values that are no numbers have no
order to it. -/
def greaterThan (value : Value) (bound : Int) : Except Fault Bool :=
  match value.number? with
  | some x => .ok ((Floating.ofInt bound).isBelow x)
  | none => .error (.mistake (.unordered ">" value.kindName "int"))

end SqlAccess.Value
