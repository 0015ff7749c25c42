import SqlAccess.Number.Digit
import SqlAccess.Number.Floating.Display
import SqlAccess.Proofs.Text.Segment

/-!
# The characters of numerals

An integer is written with digits and perhaps a minus, and is read back from these
(`readNumeral_toString`).  A finite number may have a point and a power of ten besides.
None of the characters means anything to a reader of statements.
-/

namespace SqlAccess

/-- A character of a numeral. -/
def IsNumeric (c : Char) : Prop :=
  c.isDigit = true ∨ c ∈ ['.', 'e', '+', '-']

instance : DecidablePred IsNumeric := fun _ => inferInstanceAs (Decidable (_ ∨ _))

theorem IsNumeric.isOrdinary {c : Char} (h : IsNumeric c) : Text.IsOrdinary c := by
  rcases h with hdigit | hsign
  · refine ⟨?_, ?_, ?_, ?_, ?_⟩ <;> (rintro rfl; exact absurd hdigit (by decide))
  · have hall : ∀ c ∈ ['.', 'e', '+', '-'], Text.IsOrdinary c := by simp [Text.IsOrdinary]
    exact hall c hsign

theorem isNumeric_of_mem_toDigits {number : Nat} {c : Char} (h : c ∈ Nat.toDigits 10 number) :
    IsNumeric c :=
  .inl (Nat.isDigit_of_mem_toDigits (by decide) (by decide) h)

theorem isNumeric_of_mem_toString {number : Int} {c : Char}
    (h : c ∈ (toString number).toList) : IsNumeric c := by
  rw [Int.toString_eq_repr, Int.repr_eq_if] at h
  split at h
  · rw [Nat.toList_repr] at h
    exact isNumeric_of_mem_toDigits h
  · rw [String.toList_append, List.mem_append, Nat.toList_repr] at h
    rcases h with hminus | hdigit
    · have hall : ∀ c ∈ "-".toList, IsNumeric c := by simp [IsNumeric]
      exact hall c hminus
    · exact isNumeric_of_mem_toDigits hdigit

/-! ## Reading an integer back -/

open Number (splitSign signed)

/-- The integer of a numeral in base ten. -/
def readNumeral (chars : List Char) : Option Int :=
  let (negative, digits) := splitSign chars
  if digits ≠ [] ∧ digits.all Char.isDigit then
    some (signed negative (Nat.ofDigitChars 10 digits 0))
  else none

example : readNumeral "-12".toList = some (-12) := by decide
example : readNumeral "1'".toList = none := by decide

theorem splitSign_toDigits (number : Nat) :
    splitSign (Nat.toDigits 10 number) = (false, Nat.toDigits 10 number) := by
  have hall := fun c (hc : c ∈ Nat.toDigits 10 number) =>
    Nat.isDigit_of_mem_toDigits (by decide) (by decide) hc
  cases hdigits : Nat.toDigits 10 number with
  | nil => rfl
  | cons c rest =>
      have hdigit : c.isDigit = true := hall c (by simp [hdigits])
      unfold splitSign
      split
      · rename_i hsign
        rw [(List.cons.inj hsign).1] at hdigit
        exact absurd hdigit (by decide)
      · rename_i hsign
        rw [(List.cons.inj hsign).1] at hdigit
        exact absurd hdigit (by decide)
      · rfl

theorem readNumeral_toString (number : Int) :
    readNumeral (toString number).toList = some number := by
  have hdigits : ∀ size : Nat, Nat.toDigits 10 size ≠ [] ∧
      (Nat.toDigits 10 size).all Char.isDigit = true := fun size =>
    ⟨Nat.toDigits_ne_nil, List.all_eq_true.mpr fun _ hc =>
      Nat.isDigit_of_mem_toDigits (by decide) (by decide) hc⟩
  rw [Int.toString_eq_repr, Int.repr_eq_if]
  split
  · rename_i hsign
    rw [Nat.toList_repr, readNumeral, splitSign_toDigits]
    simp only [hdigits, ne_eq, not_false_eq_true, and_self, if_true, signed, Bool.false_eq_true,
      if_false, Nat.ofDigitChars_ten_toDigits]
    exact congrArg some (Int.toNat_of_nonneg hsign)
  · rename_i hsign
    rw [String.toList_append, Nat.toList_repr]
    have hsplit : splitSign ("-".toList ++ Nat.toDigits 10 (-number).toNat) =
        (true, Nat.toDigits 10 (-number).toNat) := rfl
    rw [readNumeral, hsplit]
    simp only [hdigits, ne_eq, not_false_eq_true, and_self, if_true, signed,
      Nat.ofDigitChars_ten_toDigits]
    refine congrArg some ?_
    omega

namespace Floating

section

variable {digits : List Char} {c : Char}

theorem isNumeric_of_mem_zeros {count : Nat} (h : c ∈ List.replicate count '0') : IsNumeric c := by
  rw [List.eq_of_mem_replicate h]
  decide

theorem isNumeric_of_mem_padded {width number : Nat} (h : c ∈ padded width number) :
    IsNumeric c := by
  rw [padded, List.mem_append] at h
  rcases h with hzero | hdigit
  · exact isNumeric_of_mem_zeros hzero
  · exact isNumeric_of_mem_toDigits hdigit

theorem isNumeric_of_mem_positional (hdigits : ∀ c ∈ digits, IsNumeric c) {point : Int}
    (h : c ∈ positional digits point) : IsNumeric c := by
  have hpoint : ∀ c ∈ ['0', '.'], IsNumeric c := by simp [IsNumeric]
  unfold positional at h
  split at h
  · simp only [List.mem_append] at h
    rcases h with (hstart | hzero) | hdigit
    · exact hpoint c hstart
    · exact isNumeric_of_mem_zeros hzero
    · exact hdigits c hdigit
  · simp only [List.mem_append] at h
    rcases h with ((hwhole | hzero) | hstart) | hfraction
    · exact hdigits c (List.mem_of_mem_take hwhole)
    · exact isNumeric_of_mem_zeros hzero
    · exact hpoint c (List.mem_cons_of_mem _ hstart)
    · split at hfraction
      · exact hpoint c (List.mem_cons.mpr (.inl (List.mem_singleton.mp hfraction)))
      · exact hdigits c (List.mem_of_mem_drop hfraction)

theorem isNumeric_of_mem_scientific (hdigits : ∀ c ∈ digits, IsNumeric c) {width : Nat}
    {power : Int} (h : c ∈ scientific width digits power) : IsNumeric c := by
  have hnegative : ∀ c ∈ ['e', '-'], IsNumeric c := by simp [IsNumeric]
  have hpositive : ∀ c ∈ ['e', '+'], IsNumeric c := by simp [IsNumeric]
  simp only [scientific, List.mem_append] at h
  rcases h with ((hwhole | hfraction) | hpower) | hpadded
  · exact hdigits c (List.mem_of_mem_take hwhole)
  · split at hfraction
    · exact absurd hfraction List.not_mem_nil
    · rcases List.mem_cons.mp hfraction with rfl | hdigit
      · decide
      · exact hdigits c (List.mem_of_mem_drop hdigit)
  · split at hpower
    · exact hnegative c hpower
    · exact hpositive c hpower
  · exact isNumeric_of_mem_padded hpadded

theorem isNumeric_of_mem_write {layout : Layout} {decimal : Decimal}
    (h : c ∈ layout.write decimal) : IsNumeric c := by
  have hdigits : ∀ c ∈ ((Nat.toDigits 10 decimal.digits).reverse.dropWhile (· = '0')).reverse,
      IsNumeric c := by
    intro c hc
    have hmem := (List.dropWhile_sublist _).subset (List.mem_reverse.mp hc)
    exact isNumeric_of_mem_toDigits (List.mem_reverse.mp hmem)
  simp only [Layout.write] at h
  split at h
  · exact isNumeric_of_mem_positional hdigits h
  · exact isNumeric_of_mem_scientific hdigits h

end

theorem isNumeric_of_mem_display {number : Floating} (hfinite : number.isFinite = true) {c : Char}
    (h : c ∈ number.display.toList) : IsNumeric c := by
  cases number with
  | nan => cases hfinite
  | infinite negative => cases hfinite
  | finite negative mantissa exponent =>
      have hzero : ∀ c ∈ ['0', '.', '0'], IsNumeric c := by simp [IsNumeric]
      have hbody : ∀ c ∈ (if mantissa = 0 then ['0', '.', '0']
          else Layout.display.write (shortest mantissa exponent)), IsNumeric c := by
        intro c hc
        split at hc
        · exact hzero c hc
        · exact isNumeric_of_mem_write hc
      rw [display, String.toList_ofList] at h
      split at h
      · rcases List.mem_cons.mp h with rfl | hmem
        · decide
        · exact hbody c hmem
      · exact hbody c h

end Floating

end SqlAccess
