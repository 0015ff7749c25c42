import SqlAccess.Validation.Checked
import SqlAccess.Fault

/-!
# Refusing descriptions

An operation that is given a description with issues refuses it with a fault
that reports all of them.
-/

namespace SqlAccess

/-- A checked result as a result that can fault. -/
def Checked.toExcept {α : Type} : Checked α → Except Fault α
  | valid a => .ok a
  | invalid issues => .error (.invalid issues)

@[simp] theorem Checked.toExcept_valid {α : Type} (a : α) : (valid a).toExcept = .ok a := rfl

end SqlAccess
