import SqlAccess.Query.Refinement

/-!
# Reading plain data

What was put into plain data is read again as it was: a list item by item, and a part that may
be absent unless its plain data would be absent themselves.
-/

namespace SqlAccess

open Reader

namespace Checked

variable {α β : Type}

theorem under_eq_valid_iff {part : String} {checked : Checked α} {a : α} :
    checked.under part = .valid a ↔ checked = .valid a := by
  cases checked <;> simp [under]

theorem listFrom_map {check : β → Checked α} {dump : α → β}
    (hdump : ∀ a, check (dump a) = .valid a) (position : Nat) (items : List α) :
    listFrom check position (items.map dump) = .valid items := by
  induction items generalizing position with
  | nil => rfl
  | cons item items ih =>
      rw [List.map_cons, listFrom, hdump, ih]
      rfl

end Checked

theorem optional_ofOption {α : Type} {reader : Reader α} {dump : α → Value}
    (hread : ∀ a, reader (dump a) = .valid a) (hnull : ∀ a, dump a ≠ .null) (part : Option α) :
    optional reader (.ofOption dump part) = .valid part := by
  cases part with
  | none => rfl
  | some a =>
      have hsome : optional reader (dump a) = some <$> reader (dump a) := by
        unfold Reader.optional
        split
        · rename_i habsent
          exact absurd habsent (hnull a)
        · rfl
      rw [Value.ofOption, Option.map_some, Option.getD_some, hsome, hread]
      rfl

/-! ## Texts -/

theorem text_eq (content : String) : text (.text content) = .valid content := rfl

theorem list_text_eq (texts : List String) : list text (.list (texts.map .text)) = .valid texts :=
  Checked.listFrom_map text_eq 0 texts

theorem optional_text_eq (content : Option String) :
    optional text (.ofOption .text content) = .valid content :=
  optional_ofOption text_eq (fun _ => nofun) content

end SqlAccess
