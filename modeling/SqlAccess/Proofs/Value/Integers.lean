import SqlAccess.Value.Conversion
import SqlAccess.Value.Equality
import SqlAccess.Value.Order

/-!
# Integers among values

Integers are compared through exact floating-point numbers, which compare like
the integers themselves (`compare?_ofInt`).  So two integers are the same value
when they are equal, and one is less than another when it is smaller.
-/

namespace SqlAccess

namespace Floating

theorem scaled_ofInt (number : Int) :
    scaled 0 (decide (number < 0)) number.natAbs 0 = number := by
  have hpower : Number.twoTo ((0 : Int) - 0).toNat = 1 := rfl
  rw [scaled, hpower, Nat.mul_one]
  split
  · rename_i hnegative
    have hneg : number < 0 := by simpa using hnegative
    omega
  · rename_i hnegative
    have hneg : ¬ number < 0 := by simpa using hnegative
    omega

theorem compare?_ofInt (left right : Int) :
    compare? (ofInt left) (ofInt right) = some (compare left right) := by
  have hbase : min (0 : Int) 0 = 0 := rfl
  simp only [ofInt, compare?, hbase, scaled_ofInt]

end Floating

namespace Value

theorem same_int (left right : Int) : same (int left) (int right) = decide (left = right) := by
  have hsame : same (int left) (int right) =
      Floating.equals (.ofInt left) (.ofInt right) := by
    simp only [same, number?]
  rw [hsame, Floating.equals, Floating.compare?_ofInt, Bool.eq_iff_iff]
  simp

theorem lessThan_int (number bound : Int) :
    lessThan (int number) bound = .ok (decide (number < bound)) := by
  have hless : lessThan (int number) bound =
      .ok (Floating.isBelow (.ofInt number) (.ofInt bound)) := rfl
  rw [hless, Floating.isBelow, Floating.compare?_ofInt]
  refine congrArg Except.ok ?_
  rw [Bool.eq_iff_iff]
  simp [Int.compare_eq_lt]

theorem isBelow_int (number bound : Int) :
    isBelow (int number) (int bound) = .ok (decide (number < bound)) :=
  lessThan_int number bound

theorem greaterThan_int (number bound : Int) :
    greaterThan (int number) bound = .ok (decide (bound < number)) := by
  have hgreater : greaterThan (int number) bound =
      .ok (Floating.isBelow (.ofInt bound) (.ofInt number)) := rfl
  rw [hgreater, Floating.isBelow, Floating.compare?_ofInt]
  refine congrArg Except.ok ?_
  rw [Bool.eq_iff_iff]
  simp [Int.compare_eq_lt]

end Value

end SqlAccess
