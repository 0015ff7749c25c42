import SqlAccess.Number.Floating
import SqlAccess.Number.Integer

/-!
# Floating-point numerals

A numeral is a sign, digits with a point among, before or after them, and a
power of ten, of which all but the digits may be missing; or a name of infinity
or of the number that is no number, in any letter case.  It denotes the double
nearest to its value.

A plain numeral (`ofPlain?`) has digits of any scripts, and single low lines
between them.  A field numeral (`ofField?`) has ASCII digits; single low lines
may stand anywhere inside of it, but then no space may surround it.
-/

namespace SqlAccess.Floating

open SqlAccess.Number SqlAccess.Text

/-- The double nearest to `± digits · 10 ^ exponent`.  A power so large or so
small that the result is settled without it is not computed: the number of bits
says between which powers of ten the digits lie. -/
def ofDecimal (negative : Bool) (digits : Nat) (exponent : Int) : Floating :=
  if digits = 0 then finite negative 0 minExponent
  else if exponent + digits.log2 / 4 > 400 then infinite negative
  else if exponent + digits.log2 / 3 + 1 < -400 then finite negative 0 minExponent
  else round negative (digits * tenTo exponent.toNat) (tenTo (-exponent).toNat)

/-- The value and the number of the digits of a digit group that may be empty. -/
def group? (digit : Char → Option Nat) : List Char → Option (Nat × Nat)
  | [] => some (0, 0)
  | chars => digits? digit chars

/-- The power of ten after its mark. -/
def power? (digit : Char → Option Nat) : List Char → Option Int
  | [] => some 0
  | _ :: chars => do
    let (negative, body) := splitSign chars
    let (value, _) ← digits? digit body
    return signed negative value

/-- Reads the part of a numeral that follows its sign. -/
def magnitude? (digit : Char → Option Nat) (negative : Bool) (chars : List Char) :
    Option Floating :=
  let name := String.ofList (chars.map Char.toLower)
  if name = "inf" ∨ name = "infinity" then some (infinite negative)
  else if name = "nan" then some nan
  else do
    let (decimal, power) := chars.span fun c => c ≠ 'e' ∧ c ≠ 'E'
    let (whole, fraction) := decimal.span (· ≠ '.')
    let (wholeValue, wholeSize) ← group? digit whole
    let (fractionValue, fractionSize) ← group? digit (fraction.drop 1)
    if wholeSize + fractionSize = 0 then none
    else
      let exponent ← power? digit power
      return ofDecimal negative (wholeValue * tenTo fractionSize + fractionValue)
        (exponent - fractionSize)

/-- Reads a numeral without space around it. -/
def signed? (digit : Char → Option Nat) (chars : List Char) : Option Floating :=
  let (negative, body) := splitSign chars
  magnitude? digit negative body

/-- Reads a plain numeral; space around it is allowed. -/
def ofPlain? (text : String) : Option Floating :=
  signed? digit? (trimChars isSpace text.toList)

/-- Reads a field numeral without low lines. -/
def ofUnbroken? (chars : List Char) : Option Floating :=
  if chars.contains '_' then none else signed? asciiDigit? chars

/-- Reads a field numeral; space around it is allowed unless there are low lines
inside of it. -/
def ofField? (text : String) : Option Floating :=
  (ofUnbroken? (trimChars isSpace text.toList)).orElse fun _ =>
    (joined? text.toList).bind ofUnbroken?

end SqlAccess.Floating
