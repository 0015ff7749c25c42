import SqlAccess.Transaction
import SqlAccess.Proofs.Action.Ends

/-!
# Transactional engines

What an engine has to do with the data of a database for transactions to mean
anything.  Nothing is said of how it does it: an engine is any state machine
whose state tells, for each connection, the data that the connection sees.

A connection is either `idle`, and then its data are durable, or `active`, and
then the data with which the transaction began are kept as a snapshot.  The laws
are those of the four kinds of statement that a connection runs:

* `BEGIN IMMEDIATE` fails without effect, or takes the snapshot;
* a statement that does not control transactions has an effect on the data, or
  it fails, and then its own effect is undone or the whole transaction is given
  up;
* `COMMIT` makes the data durable, or it fails, and then the transaction is still
  open or it is given up;
* `ROLLBACK` succeeds and goes back to the snapshot.

Which statements control transactions is for the engine to say.  The effect of a
statement is a relation, since it may depend on more than the data.
-/

namespace SqlAccess

/-- What a connection sees of the data of its database. -/
inductive TransactionState (δ : Type) where
  /-- There is no transaction. -/
  | idle (data : δ)
  /-- There is a transaction, which began with the snapshot. -/
  | active (snapshot data : δ)

namespace TransactionState

variable {δ : Type}

/-- Whether there is a transaction. -/
def isActive : TransactionState δ → Bool
  | idle _ => false
  | active _ _ => true

/-- The data that would be left if the connection broke off. -/
def durable : TransactionState δ → δ
  | idle data => data
  | active snapshot _ => snapshot

/-- A property of all the data that a connection sees or goes back to. -/
def All (holds : δ → Prop) : TransactionState δ → Prop
  | idle data => holds data
  | active snapshot data => holds snapshot ∧ holds data

theorem exists_idle_of_not_isActive {state : TransactionState δ} (h : state.isActive = false) :
    ∃ data, state = idle data := by
  cases state with
  | idle data => exact ⟨data, rfl⟩
  | active snapshot data => cases h

theorem exists_active_of_isActive {state : TransactionState δ} (h : state.isActive = true) :
    ∃ snapshot data, state = active snapshot data := by
  cases state with
  | idle data => cases h
  | active snapshot data => exact ⟨snapshot, data, rfl⟩

/-- The state in which a failed statement leaves a transaction: it is still open,
or it was given up. -/
def FailedFrom (snapshot data : δ) (state : TransactionState δ) : Prop :=
  state = active snapshot data ∨ state = idle snapshot

end TransactionState

/-- An engine with transactions on data of type `δ`. -/
structure TransactionalEngine (ω δ : Type) [Engine ω] where
  /-- What a connection sees of the data. -/
  state : Handle → ω → TransactionState δ
  controls : Statement → Prop
  /-- What a statement may answer, and what it may make of the data. -/
  effect : Statement → δ → ResultSet → δ → Prop
  inTransaction_eq : ∀ handle world,
    Engine.inTransaction handle world = (state handle world).isActive
  /-- The law of `BEGIN IMMEDIATE`. -/
  begins : ∀ {handle world data}, state handle world = .idle data →
    Ends (fun _ after => state handle after = .active data data)
      (fun _ after => state handle after = .idle data)
      (Engine.execute handle .beginning world)
  /-- The law of the statements that do not control transactions. -/
  runs : ∀ {handle world snapshot data statement},
    state handle world = .active snapshot data → ¬ controls statement →
    Ends (fun result after => ∃ changed, effect statement data result changed ∧
        state handle after = .active snapshot changed)
      (fun _ after => (state handle after).FailedFrom snapshot data)
      (Engine.execute handle statement world)
  /-- The law of `COMMIT`. -/
  commits : ∀ {handle world snapshot data}, state handle world = .active snapshot data →
    Ends (fun _ after => state handle after = .idle data)
      (fun _ after => (state handle after).FailedFrom snapshot data)
      (Engine.execute handle .commit world)
  /-- The law of `ROLLBACK`. -/
  rollsBack : ∀ {handle world snapshot data}, state handle world = .active snapshot data →
    Ends (fun _ after => state handle after = .idle snapshot) (fun _ _ => False)
      (Engine.execute handle .rollback world)
  /-- The row marker is a statement of a transaction like others. -/
  not_controls_rowMarker : ¬ controls .rowMarker
  /-- The table of the row marker belongs to the connection and not to the data. -/
  eq_of_effect_rowMarker : ∀ {data result changed},
    effect .rowMarker data result changed → changed = data

namespace TransactionalEngine

variable {ω δ : Type} [Engine ω]

/-- The data that a connection leaves behind if it breaks off. -/
def durable (engine : TransactionalEngine ω δ) (handle : Handle) (world : ω) : δ :=
  (engine.state handle world).durable

/-- The effects of statements one after the other, from left to right, with the
outcomes that their answers give. -/
inductive Composed (engine : TransactionalEngine ω δ) :
    List Statement → List Outcome → δ → δ → Prop where
  | nil (data : δ) : Composed engine [] [] data data
  | cons {statement : Statement} {statements : List Statement} {outcomes : List Outcome}
      {result : ResultSet} {data changed last : δ} :
      engine.effect statement data result changed →
      Composed engine statements outcomes changed last →
      Composed engine (statement :: statements)
        (.ofResult statement.isInsertion result :: outcomes) data last

end TransactionalEngine

end SqlAccess
