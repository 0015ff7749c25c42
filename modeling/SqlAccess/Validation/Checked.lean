import SqlAccess.Validation.Issue

/-!
# Checked results

A checked result is a value, or the issues that prevented one.  Independent
checks are combined with `<*>`, which gathers the issues of both sides, so a
description is reported on as a whole.
-/

namespace SqlAccess

/-- A value or the issues found on the way to it. -/
inductive Checked (α : Type) where
  /-- Nothing is wrong. -/
  | valid (value : α)
  /-- Something is wrong. -/
  | invalid (issues : List Issue)

namespace Checked

variable {α β : Type}

/-- Applies a checked function to a checked argument. -/
def apply : Checked (α → β) → Checked α → Checked β
  | valid f, valid a => valid (f a)
  | valid _, invalid issues => invalid issues
  | invalid issues, valid _ => invalid issues
  | invalid first, invalid second => invalid (first ++ second)

instance : Applicative Checked where
  pure := valid
  seq f a := apply f (a ())

@[simp] theorem pure_eq (a : α) : (pure a : Checked α) = valid a := rfl

@[simp] theorem seq_eq (f : Checked (α → β)) (a : Checked α) : f <*> a = apply f a := rfl

@[simp] theorem map_eq (f : α → β) (a : Checked α) : f <$> a = apply (valid f) a := rfl

/-- A single issue at the present place. -/
def issue (kind : IssueKind) : Checked α :=
  invalid [⟨[], kind⟩]

/-- Moves the issues from a part to the whole that holds it under a name. -/
def under (part : String) : Checked α → Checked α
  | valid a => valid a
  | invalid issues => invalid (issues.map fun issue => { issue with path := part :: issue.path })

/-- A further check on a value that has been read. -/
def andThen : Checked α → (α → Checked β) → Checked β
  | valid a, next => next a
  | invalid issues, _ => invalid issues

/-- Checks all items of a list, from the given position on. -/
def listFrom (check : β → Checked α) (position : Nat) : List β → Checked (List α)
  | [] => valid []
  | item :: items =>
    List.cons <$> (check item).under (toString position) <*> listFrom check (position + 1) items

end Checked

end SqlAccess
