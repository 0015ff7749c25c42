/-!
# Powers of the two bases

Binary and decimal numbers scale by powers of two and of ten.
-/

namespace SqlAccess.Number

/-- A power of two. -/
def twoTo (exponent : Nat) : Nat :=
  Nat.pow 2 exponent

/-- A power of ten. -/
def tenTo (exponent : Nat) : Nat :=
  Nat.pow 10 exponent

theorem tenTo_pos (exponent : Nat) : 0 < tenTo exponent :=
  Nat.pow_pos (by decide)

example : twoTo 10 = 1024 := by decide

end SqlAccess.Number
