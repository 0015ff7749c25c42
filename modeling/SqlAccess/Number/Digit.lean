/-!
# Decimal digits

Every script that writes numbers in base ten has ten digits in a row of code
points; the table lists the zeros.
-/

namespace SqlAccess.Number

/-- The code points of the zeros of all scripts. -/
def zeros : List Nat :=
  [0x30, 0x660, 0x6F0, 0x7C0, 0x966, 0x9E6, 0xA66, 0xAE6, 0xB66, 0xBE6, 0xC66, 0xCE6, 0xD66,
   0xDE6, 0xE50, 0xED0, 0xF20, 0x1040, 0x1090, 0x17E0, 0x1810, 0x1946, 0x19D0, 0x1A80, 0x1A90,
   0x1B50, 0x1BB0, 0x1C40, 0x1C50, 0xA620, 0xA8D0, 0xA900, 0xA9D0, 0xA9F0, 0xAA50, 0xABF0,
   0xFF10, 0x104A0, 0x10D30, 0x11066, 0x110F0, 0x11136, 0x111D0, 0x112F0, 0x11450, 0x114D0,
   0x11650, 0x116C0, 0x11730, 0x118E0, 0x11950, 0x11C50, 0x11D50, 0x11DA0, 0x16A60, 0x16AC0,
   0x16B50, 0x1D7CE, 0x1D7D8, 0x1D7E2, 0x1D7EC, 0x1D7F6, 0x1E140, 0x1E2F0, 0x1E950, 0x1FBF0]

/-- The value of a decimal digit of any script. -/
def digit? (c : Char) : Option Nat :=
  (zeros.find? fun first => first ≤ c.toNat && c.toNat ≤ first + 9).map (c.toNat - ·)

/-- The value of an ASCII digit. -/
def asciiDigit? (c : Char) : Option Nat :=
  if '0' ≤ c ∧ c ≤ '9' then some (c.toNat - '0'.toNat) else none

/-- Reads the digits after a first one, whose value so far is `value` with
`count` digits.  A single low line may stand between two digits. -/
def digitsFrom (digit : Char → Option Nat) (value count : Nat) :
    List Char → Option (Nat × Nat)
  | [] => some (value, count)
  | '_' :: c :: rest => do
    let d ← digit c
    digitsFrom digit (10 * value + d) (count + 1) rest
  | c :: rest => do
    let d ← digit c
    digitsFrom digit (10 * value + d) (count + 1) rest

/-- The value and the number of the digits of a non-empty digit group. -/
def digits? (digit : Char → Option Nat) : List Char → Option (Nat × Nat)
  | [] => none
  | c :: rest => do
    let d ← digit c
    digitsFrom digit d 1 rest

/-- Splits off a leading sign; the flag tells a minus. -/
def splitSign : List Char → Bool × List Char
  | '-' :: rest => (true, rest)
  | '+' :: rest => (false, rest)
  | chars => (false, chars)

/-- The characters without low lines, provided that there are some and that each
of them stands alone between two other characters. -/
def joined? (chars : List Char) : Option (List Char) :=
  let low := chars.map (· == '_')
  if !low.contains true || low.head? == some true || low.getLast? == some true then none
  else if (low.zip (low.drop 1)).contains (true, true) then none
  else some (chars.filter (· != '_'))

/-- Applies a sign. -/
def signed (negative : Bool) (magnitude : Nat) : Int :=
  if negative then -(magnitude : Int) else magnitude

example : digits? asciiDigit? "1_000".toList = some (1000, 4) := by decide
example : digits? asciiDigit? "1__0".toList = none := by decide
example : digits? digit? "٣_٤".toList = some (34, 2) := by decide
example : joined? "i_nf".toList = some "inf".toList := by decide
example : joined? "1__0".toList = none := by decide

end SqlAccess.Number
