import SqlAccess.Proofs.Fault.Failing
import SqlAccess.Sorting.Gallop

/-!
# Where a search ends

A condition turns at a position of an array if it holds from there on, and nowhere before
(`Turns`).  Each of the searches finds the position at which the condition turns: by halves
between two positions around it (`bisect_eq`), and by leaps from either end of the array
(`gallopUp_eq`, `gallopDown_eq`).

A leap ends between two distances that the turn lies between, so it is known of a leap only
that it does (`exists_leap_eq`).
-/

namespace SqlAccess.Sorting

variable {α ε : Type} {holds : α → Except ε Bool} {items : Array α} {turn : Nat}

/-- A condition holds from a position on, and nowhere before. -/
structure Turns (holds : α → Except ε Bool) (items : Array α) (turn : Nat) : Prop where
  le_size : turn ≤ items.size
  holds_eq : ∀ position item, items[position]? = some item →
    holds item = .ok (decide (turn ≤ position))

/-- Outside of the array the condition counts as holding. -/
theorem Turns.holdsAt_eq (h : Turns holds items turn) (position : Nat) :
    holdsAt holds items position = .ok (decide (turn ≤ position)) := by
  unfold holdsAt
  cases hitem : items[position]? with
  | some item => exact h.holds_eq position item hitem
  | none =>
      have hsize : items.size ≤ position := Array.getElem?_eq_none_iff.mp hitem
      rw [decide_eq_true (Nat.le_trans h.le_size hsize)]

/-! ## Halves -/

theorem bisect_eq (h : Turns holds items turn) {low high : Nat} (hlow : low ≤ turn)
    (hhigh : turn ≤ high) (hsize : high ≤ items.size) : bisect holds items low high = .ok turn := by
  fun_induction bisect holds items low high with
  | case1 low high hlt middle hnone =>
      have hout : items.size ≤ middle := Array.getElem?_eq_none_iff.mp hnone
      have hmiddle : middle = low + (high - low) / 2 := rfl
      omega
  | case2 low high hlt middle item hsome ihlow ihhigh =>
      have hmiddle : middle = low + (high - low) / 2 := rfl
      rw [h.holds_eq middle item hsome]
      by_cases hturn : turn ≤ middle
      · rw [decide_eq_true hturn]
        exact ihlow hlow hturn (by omega)
      · rw [decide_eq_false hturn]
        exact ihhigh (by omega) hhigh hsize
  | case3 low high hle =>
      exact congrArg Except.ok (by omega)

/-! ## Leaps -/

/-- Leaps that are allowed up to a limit end on both sides of it. -/
theorem exists_leap_eq {goesOn : Nat → Except ε Bool} {most limit : Nat}
    (hgoesOn : ∀ position, position < most → goesOn position = .ok (decide (position < limit)))
    (hlimit : limit ≤ most) (last next : Nat) (hlast : last < limit) (hnext : last < next) :
    ∃ near far, leap goesOn most last next = .ok (near, far) ∧ near < limit ∧ limit ≤ far ∧
      far ≤ most := by
  fun_induction leap goesOn most last next with
  | case1 last next hlt ih =>
      rw [hgoesOn next hlt]
      by_cases hgoes : next < limit
      · rw [decide_eq_true hgoes]
        exact ih hgoes (by omega)
      · rw [decide_eq_false hgoes]
        exact ⟨last, next, rfl, hlast, by omega, by omega⟩
  | case2 last next hle => exact ⟨last, most, rfl, hlast, hlimit, Nat.le_refl most⟩

theorem gallopUp_eq (h : Turns holds items turn) : gallopUp holds items = .ok turn := by
  unfold gallopUp
  rw [h.holdsAt_eq 0]
  by_cases hstart : turn = 0
  · rw [hstart]
    rfl
  have hgoesOn : ∀ position, position < items.size →
      (do return !(← holdsAt holds items position) : Except ε Bool) =
        .ok (decide (position < turn)) := by
    intro position _
    rw [h.holdsAt_eq position]
    refine congrArg Except.ok ?_
    rw [← decide_not, decide_eq_decide]
    omega
  have hle := h.le_size
  obtain ⟨near, far, hleap, hnear, hfar, hmost⟩ :=
    exists_leap_eq hgoesOn hle 0 1 (by omega) (by omega)
  rw [decide_eq_false (by omega), hleap]
  exact bisect_eq h (by omega) hfar hmost

theorem gallopDown_eq (h : Turns holds items turn) : gallopDown holds items = .ok turn := by
  unfold gallopDown
  have hle := h.le_size
  dsimp only
  rw [h.holdsAt_eq]
  by_cases htop : turn ≤ items.size - 1
  · rw [decide_eq_true htop]
    change (leap _ _ 0 1 >>= fun _ => _) = _
    by_cases hempty : items.size = 0
    · have hleap : leap (fun distance => holdsAt holds items (items.size - 1 - distance))
          items.size 0 1 = .ok (0, items.size) := by
        rw [leap, if_neg (by omega)]
      rw [hleap]
      exact bisect_eq h (by omega) (by omega) (by omega)
    -- distances are counted from the end, so the limit is how many items the condition holds of
    have hgoesOn : ∀ distance, distance < items.size →
        holdsAt holds items (items.size - 1 - distance) =
          .ok (decide (distance < items.size - turn)) := by
      intro distance hdistance
      rw [h.holdsAt_eq]
      refine congrArg Except.ok (decide_eq_decide.mpr ?_)
      omega
    obtain ⟨near, far, hleap, hnear, hfar, hmost⟩ :=
      exists_leap_eq hgoesOn (Nat.sub_le _ _) 0 1 (by omega) (by omega)
    rw [hleap]
    exact bisect_eq h (by omega) (by omega) (by omega)
  · rw [decide_eq_false htop]
    exact congrArg Except.ok (by omega)

/-! ## Lists -/

/-- A condition turns behind the items that it does not hold of. -/
theorem turns_append {before after : List α}
    (hbefore : ∀ item ∈ before, holds item = .ok false)
    (hafter : ∀ item ∈ after, holds item = .ok true) :
    Turns holds (before ++ after).toArray before.length where
  le_size := by simp
  holds_eq position item hitem := by
    rw [List.getElem?_toArray] at hitem
    by_cases hposition : before.length ≤ position
    · rw [List.getElem?_append_right hposition] at hitem
      rw [hafter item (List.mem_of_getElem? hitem), decide_eq_true hposition]
    · rw [List.getElem?_append_left (by omega)] at hitem
      rw [hbefore item (List.mem_of_getElem? hitem), decide_eq_false hposition]

end SqlAccess.Sorting
