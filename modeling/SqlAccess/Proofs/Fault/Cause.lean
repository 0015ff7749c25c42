import SqlAccess.Migration
import SqlAccess.Transaction

/-!
# Causes

A fault can be made from another one, which is then its cause.  What the library makes
from an error of the engine, when it opens a database, runs a batch or a migration, is
never an error of the engine, and keeps it among its causes.

A fault that is no error of the engine but has one among its causes says that a
database could not be opened, that a statement or a transaction failed, or that a
migration was given up (`category_of_hasCause`).
-/

namespace SqlAccess

namespace Fault

/-- The fault is not an error of the engine itself. -/
def NotEngine (fault : Fault) : Prop :=
  fault.isEngineError = false

/-- The fault is a given one, or was made from it, directly or through others. -/
inductive HasCause (cause : Fault) : Fault → Prop where
  | itself : HasCause cause cause
  | made {fault next : Fault} : fault.cause? = some next → HasCause cause next →
      HasCause cause fault

/-- The categories of the faults that are made from others. -/
def Category.ofMade : List Category :=
  [.connectionOpen, .statementFailure, .execution, .migration]

theorem category_of_hasCause {cause fault : Fault} (h : HasCause cause fault)
    (hcause : cause.isEngineError = true) (hfault : fault.NotEngine) :
    fault.category ∈ Category.ofMade := by
  cases h with
  | itself => simp [NotEngine, hcause] at hfault
  | made hnext h =>
      cases fault with
      | openFailed | statementFailed | transactionFailed | hookFailed =>
          simp [category, Category.ofMade]
      | invalidEnvironment issues =>
          -- this one is made from issues, behind which there is nothing
          cases hnext
          cases h with
          | itself => cases hcause
          | made hnext => cases hnext
      | _ => cases hnext

end Fault

open Fault

/-! ## What is made from a fault -/

/-- A conversion that gives no error of the engine, and leaves a fault as it is or
makes it the cause of what it gives. -/
structure Translates (convert : Fault → Fault) : Prop where
  notEngine (fault : Fault) : (convert fault).NotEngine
  cause?_eq (fault : Fault) : convert fault = fault ∨ (convert fault).cause? = some fault

theorem Translates.hasCause {convert : Fault → Fault} (h : Translates convert)
    {cause fault : Fault} (hcause : HasCause cause fault) : HasCause cause (convert fault) := by
  rcases h.cause?_eq fault with heq | hmade
  · rw [heq]
    exact hcause
  · exact .made hmade hcause

/-- It is enough to make something of the errors of the engine. -/
theorem translates_ite_engine {make : Fault → Fault} (hmake : ∀ fault, (make fault).NotEngine)
    (hcause : ∀ fault, (make fault).cause? = some fault) :
    Translates fun fault => if fault.isEngineError then make fault else fault where
  notEngine fault := by
    split
    · exact hmake fault
    · exact Bool.eq_false_iff.mpr ‹_›
  cause?_eq fault := by
    split
    · exact .inr (hcause fault)
    · exact .inl rfl

namespace Action

theorem translates_openingFault (database : String) : Translates (openingFault database) where
  notEngine fault := by
    unfold openingFault
    split
    · rfl
    · rename_i hopens
      unfold NotEngine isEngineError
      unfold preventsOpening at hopens
      split at hopens <;> simp_all
  cause?_eq fault := by
    unfold openingFault
    split
    · exact .inr rfl
    · exact .inl rfl

theorem translates_statementFault (position : Nat) (statement : Statement) :
    Translates (statementFault position statement) :=
  translates_ite_engine (fun _ => rfl) fun _ => rfl

theorem translates_transactionFault (database : String) :
    Translates (transactionFault database) :=
  translates_ite_engine (fun _ => rfl) fun _ => rfl

end Action

theorem Migration.translates_hookFault (hook : Hook) (versions : Versions) :
    Translates (hookFault hook versions) where
  notEngine fault := by
    unfold hookFault
    split
    · rename_i hfailure
      unfold isMigrationFailure at hfailure
      split at hfailure
      · rfl
      · rfl
      · rfl
      · cases hfailure
    · rfl
  cause?_eq fault := by
    unfold hookFault
    split
    · exact .inl rfl
    · exact .inr rfl

end SqlAccess
