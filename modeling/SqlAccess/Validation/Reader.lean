import SqlAccess.Value
import SqlAccess.Path
import SqlAccess.Text.Case
import SqlAccess.Number.Integer
import SqlAccess.Number.Floating.Reading
import SqlAccess.Validation.Checked

/-!
# Readers of loosely typed fields

A reader turns a value of any kind into a typed one, or says what is wrong with
it.  Readers are lenient where no information is lost: bytes that encode a text
are that text, numerals and the usual words stand for numbers and truth values,
and a number without fraction is an integer.
-/

namespace SqlAccess

/-- A reader of a field. -/
abbrev Reader (α : Type) := Value → Checked α

namespace Reader

variable {α : Type}

open SqlAccess.Number (twoTo)

/-- The text that bytes encode. -/
def decoded? (bytes : List UInt8) : Option String :=
  String.fromUTF8? ⟨bytes.toArray⟩

/-- Takes any value as it is. -/
def anything : Reader Value :=
  .valid

/-- Reads a text. -/
def text : Reader String
  | .text content => .valid content
  | .blob bytes =>
    match decoded? bytes with
    | some content => .valid content
    | none => .issue .notUnicode
  | _ => .issue .notText

/-- Reads a field whose absent value has a meaning of its own. -/
def optional (reader : Reader α) : Reader (Option α)
  | .null => .valid none
  | value => some <$> reader value

/-- Reads a list. -/
def list (reader : Reader α) : Reader (List α)
  | .list items => .listFrom reader 0 items
  | _ => .issue .notList

/-! ## Truth values -/

/-- The truth value that a word names, in any letter case. -/
def flagWord? (word : String) : Option Bool :=
  let lower := Text.asciiSmalls word
  if lower ∈ ["1", "t", "y", "yes", "on", "true"] then some true
  else if lower ∈ ["0", "f", "n", "no", "off", "false"] then some false
  else none

/-- Reads a word for a truth value. -/
def flagText (word : String) : Checked Bool :=
  match flagWord? word with
  | some flag => .valid flag
  | none => .issue .unreadableFlag

/-- Reads a truth value from an integer: one or zero.  An integer that is not
even a number of `64` bits is of the wrong kind. -/
def flagInteger (number : Int) : Checked Bool :=
  if number = 0 then .valid false
  else if number = 1 then .valid true
  else if -(twoTo 63 : Int) ≤ number ∧ number < twoTo 63 then .issue .unreadableFlag
  else .issue .notFlag

/-- Reads a truth value from a floating-point number: one or zero.  A number
with a fraction, or of more than `63` bits, is of the wrong kind. -/
def flagReal : Floating → Checked Bool
  | .finite negative mantissa exponent =>
    let number := Floating.truncate negative mantissa exponent
    if !(Floating.finite negative mantissa exponent).isIntegral then .issue .notFlag
    else if twoTo 63 ≤ number.natAbs then .issue .notFlag
    else flagInteger number
  | _ => .issue .notFlag

/-- Reads a truth value: itself, one or zero, or a word for it. -/
def flag : Reader Bool
  | .bool b => .valid b
  | .int number => flagInteger number
  | .real x => flagReal x
  | .text word => flagText word
  | .blob bytes =>
    match decoded? bytes with
    | some word => flagText word
    | none => .issue .unreadableFlag
  | _ => .issue .notFlag

/-! ## Numbers -/

/-- Reads an integer numeral. -/
def integerText (numeral : String) : Checked Int :=
  match Number.readField numeral.toList with
  | .number value => .valid value
  | .malformed => .issue .unreadableInteger
  | .oversize _ => .issue .oversizeInteger

/-- Reads an integer from a floating-point number without fraction and of at
most 63 bits. -/
def integerReal : Floating → Checked Int
  | .finite negative mantissa exponent =>
    let x := Floating.finite negative mantissa exponent
    if !x.isIntegral then .issue .fractional
    else
      let number := Floating.truncate negative mantissa exponent
      if number.natAbs < twoTo 63 then .valid number else .issue .oversizeInteger
  | _ => .issue .notFinite

/-- Reads an integer. -/
def integer : Reader Int
  | .int number => .valid number
  | .bool b => .valid b.toInt
  | .real x => integerReal x
  | .text numeral => integerText numeral
  | .blob bytes =>
    match decoded? bytes with
    | some numeral => integerText numeral
    | none => .issue .unreadableInteger
  | _ => .issue .notInteger

/-- Reads a numeral. -/
def numberText (numeral : String) : Checked Floating :=
  match Floating.ofField? numeral with
  | some x => .valid x
  | none => .issue .unreadableNumber

/-- Reads a number in double precision. -/
def number : Reader Floating
  | .real x => .valid x
  | .bool b => .valid (.nearest b.toInt)
  | .int n =>
    let x := Floating.nearest n
    if x.isFinite then .valid x else .issue .notNumber
  | .text numeral => numberText numeral
  | .blob bytes =>
    match decoded? bytes with
    | some numeral => numberText numeral
    | none => .issue .unreadableNumber
  | _ => .issue .notNumber

/-- Reads a number that is zero or more. -/
def nonNegative (value : Value) : Checked Floating :=
  (number value).andThen fun x =>
    if x = .nan ∨ x.isBelow (.ofInt 0) then .issue .belowBound else .valid x

/-! ## Words and paths -/

/-- Reads one of the words that a table gives a meaning to. -/
def word (meaning : String → Option α) : Reader α
  | .text content =>
    match meaning content with
    | some a => .valid a
    | none => .issue .notAllowed
  | _ => .issue .notAllowed

/-- Reads a path. -/
def path : Reader Path
  | .text content => .valid (.ofText content)
  | _ => .issue .notPath

end Reader

/-! ## Objects -/

/-- The fields of an object. -/
abbrev Fields := List (String × Value)

namespace Fields

variable {α : Type}

/-- Reads a field that has to be there. -/
def required (fields : Fields) (name : String) (reader : Reader α) : Checked α :=
  match fields.lookup name with
  | some value => (reader value).under name
  | none => (Checked.issue .missing).under name

/-- Reads a field that has a default. -/
def withDefault (fields : Fields) (name : String) (default : α) (reader : Reader α) : Checked α :=
  match fields.lookup name with
  | some value => (reader value).under name
  | none => .valid default

/-- One issue for every field whose name is not among the known ones. -/
def unknown (known : List String) (fields : Fields) : List Issue :=
  (fields.filter fun field => !known.contains field.1).map fun field => ⟨[field.1], .unknownField⟩

end Fields

/-- Reads an object whose fields have the given names. -/
def Reader.object {α : Type} (known : List String) (build : Fields → Checked α) : Reader α
  | .object fields =>
    match Fields.unknown known fields with
    | [] => build fields
    | issues =>
      .apply (.apply (.valid fun a _ => a) (build fields)) (.invalid issues : Checked Unit)
  | _ => .issue .notObject

end SqlAccess
