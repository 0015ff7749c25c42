import SqlAccess.Number.Power

/-!
# Floating-point numbers

A floating-point number is `± mantissa · 2 ^ exponent`, an infinity, or the
number that is no number.  Numbers that are read or computed are in double
precision: the mantissa has at most 53 bits, and the exponent lies between
`-1074` and `971` (`round`).  Comparison and truncation are exact, and they
make sense for any mantissa, so an integer of any size can be compared through
`ofInt` without being rounded.
-/

namespace SqlAccess

/-- A floating-point number. -/
inductive Floating where
  /-- The result of an operation without a result. -/
  | nan
  /-- An infinity. -/
  | infinite (negative : Bool)
  /-- The number `± mantissa · 2 ^ exponent`. -/
  | finite (negative : Bool) (mantissa : Nat) (exponent : Int)
  deriving DecidableEq, Repr

namespace Floating

open SqlAccess.Number (twoTo)

/-- The least exponent of double precision. -/
def minExponent : Int := -1074

/-- The greatest exponent of double precision. -/
def maxExponent : Int := 971

/-- The number of bits of a mantissa. -/
def precision : Nat := 53

/-- An integer as a floating-point number, exactly. -/
def ofInt (n : Int) : Floating :=
  finite (n < 0) n.natAbs 0

/-- `n · 2 ^ k`, rounded toward zero. -/
def shift (n : Nat) (k : Int) : Nat :=
  if 0 ≤ k then n * twoTo k.toNat else n / twoTo (-k).toNat

/-- The quotient rounded to the nearest integer, a tie to the even one. -/
def divideNearest (numerator denominator : Nat) : Nat :=
  let quotient := numerator / denominator
  let twice := 2 * (numerator % denominator)
  if twice < denominator ∨ (twice = denominator ∧ quotient % 2 = 0) then quotient
  else quotient + 1

/-- The double nearest to `± numerator / denominator`, a tie to the one with an
even mantissa; beyond the greatest double it is infinite. -/
def round (negative : Bool) (numerator denominator : Nat) : Floating :=
  if numerator = 0 then finite negative 0 minExponent
  else
    let guess := (numerator.log2 : Int) - denominator.log2 - (precision - 1)
    let fits := fun exponent : Int =>
      shift denominator (max exponent 0) * twoTo (precision - 1) ≤
        shift numerator (max (-exponent) 0)
    let exponent := max (if fits guess then guess else guess - 1) minExponent
    let mantissa :=
      divideNearest (shift numerator (max (-exponent) 0)) (shift denominator (max exponent 0))
    let (mantissa, exponent) :=
      if mantissa = twoTo precision then (twoTo (precision - 1), exponent + 1)
      else (mantissa, exponent)
    if maxExponent < exponent then infinite negative else finite negative mantissa exponent

/-- The double nearest to an integer. -/
def nearest (n : Int) : Floating :=
  round (n < 0) n.natAbs 1

/-! ## Questions -/

/-- Whether the number is neither infinite nor the number that is no number. -/
def isFinite : Floating → Bool
  | finite .. => true
  | _ => false

/-- Whether the number is a zero of either sign. -/
def isZero : Floating → Bool
  | finite _ mantissa _ => mantissa == 0
  | _ => false

/-- Whether the number is an integer. -/
def isIntegral : Floating → Bool
  | finite _ mantissa exponent => exponent ≥ 0 || mantissa % twoTo (-exponent).toNat == 0
  | _ => false

/-- A finite number without its fraction. -/
def truncate (negative : Bool) (mantissa : Nat) (exponent : Int) : Int :=
  let magnitude := shift mantissa exponent
  if negative then -(magnitude : Int) else magnitude

/-! ## Comparison -/

/-- The numerator over the denominator `2 ^ (-base)`, for `base ≤ exponent`. -/
def scaled (base : Int) (negative : Bool) (mantissa : Nat) (exponent : Int) : Int :=
  let magnitude := mantissa * twoTo (exponent - base).toNat
  if negative then -(magnitude : Int) else magnitude

/-- How two numbers compare; the number that is no number does not. -/
def compare? : Floating → Floating → Option Ordering
  | nan, _ => none
  | _, nan => none
  | infinite s, infinite t => some (if s = t then .eq else if s then .lt else .gt)
  | infinite s, finite .. => some (if s then .lt else .gt)
  | finite .., infinite t => some (if t then .gt else .lt)
  | finite s m e, finite t n f =>
    let base := min e f
    some (Ord.compare (scaled base s m e) (scaled base t n f))

/-- Whether two numbers are equal; zeros of both signs are. -/
def equals (x y : Floating) : Bool :=
  compare? x y == some .eq

/-- Whether the first number is smaller than the second one. -/
def isBelow (x y : Floating) : Bool :=
  compare? x y == some .lt

end Floating

end SqlAccess
