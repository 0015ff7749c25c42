import SqlAccess.Number.Floating.Shortest

/-!
# The text of a floating-point number

The digits are those of the shortest decimal that is read back as the number.
A `Layout` says how they are written: which numbers are positional and which
have a power of ten.
-/

namespace SqlAccess.Floating

/-- How a number is laid out. -/
structure Layout where
  /-- The least position of the point, counted from before the first digit, at
  which a number is still written without a power of ten. -/
  leastPoint : Int
  greatestPoint : Int
  /-- The least number of digits of a power of ten. -/
  powerWidth : Nat

/-- Numbers from `0.0001` up to below `10 ^ 16` are positional, and a power of
ten has at least two digits. -/
def Layout.display : Layout := ⟨-3, 16, 2⟩

/-- A number in base ten, padded with zeros to a width. -/
def padded (width number : Nat) : List Char :=
  let digits := Nat.toDigits 10 number
  List.replicate (width - digits.length) '0' ++ digits

/-- Digits with the point after `point` of them; one digit stands on each side. -/
def positional (digits : List Char) (point : Int) : List Char :=
  if point ≤ 0 then ['0', '.'] ++ List.replicate (-point).toNat '0' ++ digits
  else
    let size := point.toNat
    let fraction := digits.drop size
    digits.take size ++ List.replicate (size - digits.length) '0' ++ ['.'] ++
      (if fraction.isEmpty then ['0'] else fraction)

/-- Digits with a point after the first one and a power of ten. -/
def scientific (width : Nat) (digits : List Char) (power : Int) : List Char :=
  let fraction := digits.drop 1
  digits.take 1 ++ (if fraction.isEmpty then [] else '.' :: fraction) ++
    ['e', if power < 0 then '-' else '+'] ++ padded width power.natAbs

/-- The layout of a decimal number. -/
def Layout.write (layout : Layout) (decimal : Decimal) : List Char :=
  let all := Nat.toDigits 10 decimal.digits
  let digits := (all.reverse.dropWhile (· = '0')).reverse
  let point := decimal.exponent + all.length
  if layout.leastPoint ≤ point ∧ point ≤ layout.greatestPoint then positional digits point
  else scientific layout.powerWidth digits (point - 1)

/-- The text of a number. -/
def display : Floating → String
  | nan => "nan"
  | infinite negative => if negative then "-inf" else "inf"
  | finite negative mantissa exponent =>
    let body :=
      if mantissa = 0 then ['0', '.', '0'] else Layout.display.write (shortest mantissa exponent)
    String.ofList (if negative then '-' :: body else body)

example : display (finite true 0 minExponent) = "-0.0" := by decide
example : display (finite false 4503599627370496 (-51)) = "2.0" := by decide +kernel

end SqlAccess.Floating
