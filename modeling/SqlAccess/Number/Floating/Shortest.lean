import SqlAccess.Number.Floating

/-!
# The shortest decimal

Every decimal in a certain interval around a double is read back as that
double.  `shortest` takes the decimal of fewest digits in the interval, and the
nearest one to the double among those.  For a given number of digits only the
two neighbours of the double on the decimal grid matter: if any point of the
grid lies in the interval, so does one of them.
-/

namespace SqlAccess.Floating

open SqlAccess.Number (twoTo tenTo)

/-- A decimal number `digits · 10 ^ exponent`. -/
structure Decimal where
  /-- The digits, read as an integer. -/
  digits : Nat
  exponent : Int
  deriving DecidableEq, Repr

/-- A positive rational number `numerator / denominator`. -/
structure Ratio where
  numerator : Nat
  denominator : Nat
  deriving DecidableEq, Repr

/-- `mantissa · 2 ^ exponent` as a ratio. -/
def Ratio.ofBinary (mantissa : Nat) (exponent : Int) : Ratio :=
  ⟨mantissa * twoTo exponent.toNat, twoTo (-exponent).toNat⟩

/-- `digits · 10 ^ exponent` as a ratio. -/
def Decimal.ratio (decimal : Decimal) : Ratio :=
  ⟨decimal.digits * tenTo decimal.exponent.toNat, tenTo (-decimal.exponent).toNat⟩

/-- Whether the first ratio is smaller than the second one. -/
def Ratio.isBelow (x y : Ratio) : Bool :=
  x.numerator * y.denominator < y.numerator * x.denominator

/-- The exponent of the leading decimal digit of a ratio. -/
def Ratio.leadingExponent (x : Ratio) : Int :=
  let whole := x.numerator / x.denominator
  if whole ≠ 0 then ((Nat.toDigits 10 whole).length : Int) - 1
  else
    let places := (Nat.toDigits 10 (x.denominator / x.numerator)).length
    if x.numerator * tenTo (places - 1) = x.denominator then 1 - (places : Int) else -(places : Int)

/-- The interval of ratios that round to the double `mantissa · 2 ^ exponent`.
Below a power of two the gap to the next double is half as wide. -/
def roundingInterval (mantissa : Nat) (exponent : Int) : Ratio × Ratio :=
  let narrow := mantissa = twoTo (precision - 1) ∧ minExponent < exponent
  let low := if narrow then 4 * mantissa - 1 else 4 * mantissa - 2
  (.ofBinary low (exponent - 2), .ofBinary (4 * mantissa + 2) (exponent - 2))

/-- Whether a ratio lies in an interval; its ends count when `closed`. -/
def liesIn (closed : Bool) (interval : Ratio × Ratio) (x : Ratio) : Bool :=
  if closed then !x.isBelow interval.1 && !interval.2.isBelow x
  else interval.1.isBelow x && x.isBelow interval.2

/-- The grid point with the given exponent that is nearest to `x` among the two
neighbours of `x` that are accepted; of two at the same distance, the one with
an even last digit. -/
def nearestNeighbour? (accept : Decimal → Bool) (x : Ratio) (exponent : Int) : Option Decimal :=
  let numerator := x.numerator * tenTo (-exponent).toNat
  let denominator := x.denominator * tenTo exponent.toNat
  let below : Decimal := ⟨numerator / denominator, exponent⟩
  let above : Decimal := ⟨numerator / denominator + 1, exponent⟩
  let nearest : Decimal := ⟨divideNearest numerator denominator, exponent⟩
  match accept below, accept above with
  | true, true => some nearest
  | true, false => some below
  | false, true => some above
  | false, false => none

/-- The shortest decimal that is read back as the double
`mantissa · 2 ^ exponent`, which is not zero. -/
def shortest (mantissa : Nat) (exponent : Int) : Decimal :=
  let value := Ratio.ofBinary mantissa exponent
  let interval := roundingInterval mantissa exponent
  let accept := fun decimal : Decimal => liesIn (mantissa % 2 == 0) interval decimal.ratio
  let leading := value.leadingExponent
  let found := (List.range 17).findSome? fun extra : Nat =>
    nearestNeighbour? accept value (leading - extra)
  found.getD ⟨mantissa, exponent⟩

example : shortest 4503599627370496 (-52) = ⟨1, 0⟩ := by decide +kernel
example : shortest 1 (-1074) = ⟨5, -324⟩ := by decide +kernel

end SqlAccess.Floating
