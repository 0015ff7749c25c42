import Mathlib.Logic.Relation
import SqlAccess.Proofs.Action.Keeps
import SqlAccess.Session.Opening

/-!
# What can be reached

Client code changes a session by moves: batches, opening, closing and registering
databases, and what it does in the world outside besides.  A scope says which
statements it submits, and what it may do besides.  A session is reached from
another one if moves of the scope lead to it, in any number and order.

A property that each move keeps holds of all that is reached from a session that has
it (`Stable.of_reaches`), so it is enough to look at the single moves.
-/

namespace SqlAccess

variable {ω : Type}

/-- What client code may do. -/
structure Scope (ω : Type) where
  /-- Which statements are submitted to the database of a name. -/
  submits : Config → String → Statement → Prop
  /-- How the world outside changes otherwise. -/
  drifts : ω → ω → Prop

variable [Engine ω]

/-- A single move. -/
inductive Move (scope : Scope ω) : Session ω → Session ω → Prop where
  | batch (session : Session ω) {database : String} {statements : List Statement} :
      (∀ statement ∈ statements, scope.submits session.registry.config database statement) →
      Move scope session (Action.runBatch database statements session).2
  | opening (session : Session ω) (database : String) :
      Move scope session (Action.opened database session).2
  | closing (session : Session ω) (database : String) :
      Move scope session (Action.closed database session).2
  | registering (session : Session ω) (database : String) :
      Move scope session (Action.connection database session).2
  | drifting (session : Session ω) {outside : ω} :
      scope.drifts session.outside outside → Move scope session { session with outside }

theorem Move.mono {scope wider : Scope ω} {before after : Session ω}
    (hmove : Move scope before after)
    (hsubmits : ∀ config database statement,
      scope.submits config database statement → wider.submits config database statement)
    (hdrifts : ∀ first last, scope.drifts first last → wider.drifts first last) :
    Move wider before after := by
  cases hmove with
  | batch h => exact .batch before fun statement hmem => hsubmits _ _ _ (h statement hmem)
  | opening database => exact .opening before database
  | closing database => exact .closing before database
  | registering database => exact .registering before database
  | drifting h => exact .drifting before (hdrifts _ _ h)

/-- Moves lead from one session to the other. -/
abbrev Reaches (scope : Scope ω) : Session ω → Session ω → Prop :=
  Relation.ReflTransGen (Move scope)

/-- A property of sessions that each move keeps. -/
def Stable (scope : Scope ω) (kept : Session ω → Prop) : Prop :=
  ∀ {before after}, Move scope before after → kept before → kept after

namespace Stable

variable {scope : Scope ω} {kept : Session ω → Prop}

theorem of_reaches (hstable : Stable scope kept) {before after : Session ω}
    (hreaches : Reaches scope before after) (h : kept before) : kept after := by
  induction hreaches with
  | refl => exact h
  | tail _ hmove ih => exact hstable hmove ih

/-- Being reached is such a property. -/
theorem reaches (scope : Scope ω) (start : Session ω) : Stable scope (Reaches scope start) :=
  fun hmove hreaches => hreaches.tail hmove

end Stable

end SqlAccess
