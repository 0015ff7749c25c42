import SqlAccess.Text.Blank
import SqlAccess.Number.Digit
import SqlAccess.Number.Power

/-!
# Integer numerals

Two notations are read.  A plain numeral (`readInteger`) is a digit group of any
scripts with an optional sign.  A loosely typed field takes a field numeral
(`readField`): ASCII digits with an optional sign, and perhaps a fraction that
consists of zeros.  Zeros that lead its digits are dropped, together with the low
lines after them; without a minus before the zeros, one may follow them.

Numbers of more than `greatestSize` digits are neither read nor written.
-/

namespace SqlAccess.Number

open SqlAccess.Text (isSpace trimChars)

/-- What comes of reading a text as an integer. -/
inductive IntegerReading where
  /-- The integer that the text denotes. -/
  | number (value : Int)
  /-- The text is no numeral. -/
  | malformed
  /-- The text is a numeral of too many digits. -/
  | oversize (size : Nat)
  deriving DecidableEq, Repr

/-- The greatest number of digits with which an integer is read or written. -/
def greatestSize : Nat := 4300

/-- Whether an integer is written, for which it must not have too many digits.  The
bound is a number that proofs had better not compute, so that this is irreducible. -/
@[irreducible] def isWritable (number : Int) : Bool :=
  number.natAbs < tenTo greatestSize

/-- The integer of a sign and a digit group, given by its value and its size. -/
def IntegerReading.ofDigits (negative : Bool) (value size : Nat) : IntegerReading :=
  if greatestSize < size then .oversize size else .number (signed negative value)

/-! ## Plain numerals -/

/-- Reads a plain numeral; space around it is allowed.  Zeros count as digits
wherever they stand, and digits that are too many are so whatever follows them. -/
def readInteger (chars : List Char) : IntegerReading :=
  let (negative, body) := splitSign (trimChars isSpace chars)
  let (group, other) := body.span fun c => c = '_' ∨ (digit? c).isSome
  match digits? digit? group with
  | some (value, size) =>
    if other ≠ [] ∧ size ≤ greatestSize then .malformed else .ofDigits negative value size
  | none => .malformed

/-! ## Field numerals -/

/-- Whether a character is an ASCII digit other than zero. -/
def isNonzero (c : Char) : Bool :=
  '1' ≤ c && c ≤ '9'

/-- Drops zeros and low lines up to a digit or a minus, a point, or the end.  The
last one of them is kept before a point and at the end. -/
def afterZeros (last : Char) : List Char → Option (List Char)
  | [] => some [last]
  | c :: rest =>
    if c = '0' ∨ c = '_' then afterZeros c rest
    else if c = '.' then some (last :: c :: rest)
    else if isNonzero c ∨ c = '-' then some (c :: rest)
    else none

/-- A field numeral without the zeros that lead it. -/
def withoutLeadingZeros? : List Char → Option (List Char)
  | [] => none
  | c :: rest =>
    if c = '0' then afterZeros c rest
    else if isNonzero c ∨ c = '-' then some (c :: rest)
    else none

/-- A field numeral without a fraction of zeros. -/
def withoutZeroFraction (chars : List Char) : List Char :=
  match chars.span (· ≠ '.') with
  | (whole, _ :: zeros) => if zeros ≠ [] ∧ zeros.all (· = '0') then whole else chars
  | _ => chars

/-- A field numeral without a plus before it, which no minus may follow. -/
def withoutPlus? : List Char → Option (List Char)
  | '+' :: '-' :: _ => none
  | '+' :: rest => some rest
  | chars => some chars

/-- Reads digits without a sign: a zero alone, or digits of which the first one
is no zero.  Digits that are too many are so whatever follows them. -/
def readDigits (negative : Bool) : List Char → IntegerReading
  | ['0'] => .number 0
  | [] => .malformed
  | c :: rest =>
    let (digits, other) := (c :: rest).span fun c => (asciiDigit? c).isSome
    if !isNonzero c then .malformed
    else if greatestSize < digits.length then .oversize digits.length
    else if other ≠ [] then .malformed
    else
      match digits? asciiDigit? digits with
      | some (value, size) => .ofDigits negative value size
      | none => .malformed

/-- Reads a numeral in its normal form: digits after an optional minus. -/
def readNormal : List Char → IntegerReading
  | '-' :: digits => readDigits true digits
  | digits => readDigits false digits

/-- A field numeral without a sign in its normal form: no zeros lead it, it has no
fraction, and no low lines stand between its digits. -/
def normalize? (chars : List Char) : Option (List Char) :=
  (withoutLeadingZeros? chars).map fun significant =>
    let whole := withoutZeroFraction significant
    (joined? whole).getD whole

/-- A field numeral in its normal form.  A minus that begins it stays in front. -/
def normalizeSigned? : List Char → Option (List Char)
  | '-' :: rest => (normalize? rest).map ('-' :: ·)
  | chars => normalize? chars

/-- Reads a field numeral; space around it is allowed.  Only of a numeral that is
in its normal form already is it said that its digits are too many. -/
def readField (chars : List Char) : IntegerReading :=
  match readNormal chars with
  | .malformed =>
    match (withoutPlus? (trimChars isSpace chars)).bind normalizeSigned? with
    | none => .malformed
    | some normal =>
      match readNormal normal with
      | .number value => .number value
      | _ => .malformed
  | reading => reading

example : readInteger " +1_0\n".toList = .number 10 := by decide
example : readField "007.00".toList = .number 7 := by decide
example : readField "5.".toList = .malformed := by decide
example : readField " -0_7\t".toList = .number (-7) := by decide
example : readField "-_7".toList = .malformed := by decide
example : readField "0_-3".toList = .number (-3) := by decide
example : readField "1_0.0_0".toList = .malformed := by decide

end SqlAccess.Number
