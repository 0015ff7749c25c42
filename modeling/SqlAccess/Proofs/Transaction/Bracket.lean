import SqlAccess.Proofs.Engine.Exchange
import SqlAccess.Proofs.Statement.Plain

/-!
# Brackets

A transaction is a bracket in the exchanges of its connection.  It begins with
`BEGIN IMMEDIATE`, and if this is refused that is all of it.  Otherwise the
statements of a batch follow, with the row marker before each insertion, and a
commit.  When one of these fails nothing more of them is sent, and the bracket is
closed by a rollback if the connection is still in the transaction by then, and by
the failure if it is not (`Bracket`).

What a reply may say about transactions is a matter of the engine, and a regular one
does not claim that a connection is in a transaction when it cannot be
(`Exchange.IsRegular`).  Then no connection is in a transaction behind a bracket
(`Bracket.flagAfterAll_eq`).
-/

namespace SqlAccess

/-! ## Statements one after the other -/

/-- The statements were sent one after the other, and all of them succeeded. -/
inductive Passes : List Statement → List Exchange → Prop where
  | nil : Passes [] []
  | cons {statement : Statement} {reply : Reply} {statements : List Statement}
      {exchanges : List Exchange} :
      reply.fault = none → Passes statements exchanges →
        Passes (statement :: statements) (⟨statement, reply⟩ :: exchanges)

/-- The statements were sent one after the other, up to one that failed. -/
inductive Fails : List Statement → List Exchange → Prop where
  | here {statement : Statement} {reply : Reply} {statements : List Statement} :
      reply.fault.isSome → Fails (statement :: statements) [⟨statement, reply⟩]
  | later {statement : Statement} {reply : Reply} {statements : List Statement}
      {exchanges : List Exchange} :
      reply.fault = none → Fails statements exchanges →
        Fails (statement :: statements) (⟨statement, reply⟩ :: exchanges)

section

variable {first second : List Statement} {exchanges more : List Exchange}

theorem Passes.append (h : Passes first exchanges) (hmore : Passes second more) :
    Passes (first ++ second) (exchanges ++ more) := by
  induction h with
  | nil => exact hmore
  | cons hreply _ ih => exact .cons hreply ih

theorem Passes.length_eq {statements : List Statement} (h : Passes statements exchanges) :
    statements.length = exchanges.length := by
  induction h with
  | nil => rfl
  | cons _ _ ih => exact congrArg (· + 1) ih

theorem Passes.forall_fault_eq {statements : List Statement} (h : Passes statements exchanges) :
    ∀ exchange ∈ exchanges, exchange.reply.fault = none := by
  induction h with
  | nil => exact fun _ hmem => absurd hmem List.not_mem_nil
  | cons hreply _ ih => exact List.forall_mem_cons.mpr ⟨hreply, ih⟩

theorem Fails.exists_fault {statements : List Statement} (h : Fails statements exchanges) :
    ∃ exchange ∈ exchanges, exchange.reply.fault.isSome := by
  induction h with
  | here hfault => exact ⟨_, List.mem_cons_self, hfault⟩
  | later _ _ ih =>
      obtain ⟨exchange, hmem, hfault⟩ := ih
      exact ⟨exchange, List.mem_cons_of_mem _ hmem, hfault⟩

theorem Passes.forall_statement_mem {statements : List Statement}
    (h : Passes statements exchanges) :
    ∀ exchange ∈ exchanges, exchange.statement ∈ statements := by
  induction h with
  | nil => exact fun _ hmem => absurd hmem List.not_mem_nil
  | cons _ _ ih =>
      exact List.forall_mem_cons.mpr
        ⟨List.mem_cons_self, fun exchange hmem => List.mem_cons_of_mem _ (ih exchange hmem)⟩

theorem Fails.forall_statement_mem {statements : List Statement} (h : Fails statements exchanges) :
    ∀ exchange ∈ exchanges, exchange.statement ∈ statements := by
  induction h with
  | here _ => exact List.forall_mem_singleton.mpr List.mem_cons_self
  | later _ _ ih =>
      exact List.forall_mem_cons.mpr
        ⟨List.mem_cons_self, fun exchange hmem => List.mem_cons_of_mem _ (ih exchange hmem)⟩

theorem Passes.of_append {first second : List Statement} {exchanges : List Exchange}
    (h : Passes (first ++ second) exchanges) :
    ∃ start rest, exchanges = start ++ rest ∧ Passes first start ∧ Passes second rest := by
  induction first generalizing exchanges with
  | nil => exact ⟨[], exchanges, rfl, .nil, h⟩
  | cons statement first ih =>
      obtain _ | ⟨hreply, hrest⟩ := h
      obtain ⟨start, rest, rfl, hstart, hsecond⟩ := ih hrest
      exact ⟨_, rest, rfl, .cons hreply hstart, hsecond⟩

theorem Passes.append_fails (h : Passes first exchanges) (hmore : Fails second more) :
    Fails (first ++ second) (exchanges ++ more) := by
  induction h with
  | nil => exact hmore
  | cons hreply _ ih => exact .later hreply ih

theorem Fails.append_right (h : Fails first exchanges) (second : List Statement) :
    Fails (first ++ second) exchanges := by
  induction h with
  | here hfault => exact .here hfault
  | later hreply _ ih => exact .later hreply ih

end

/-! ## Regular engines -/

/-- A reply that does not claim that the connection is in a transaction. -/
def Reply.IsIdle (reply : Reply) : Prop :=
  reply.inTransaction ≠ some true

instance : DecidablePred Reply.IsIdle := fun _ => inferInstanceAs (Decidable (_ ≠ _))

/-- The same of what a connection is used for.  After the closing it does not matter. -/
def Use.IsIdle : Use → Prop
  | .exchange sent => sent.reply.IsIdle
  | .closing _ => True

instance : DecidablePred Use.IsIdle
  | .exchange _ => inferInstanceAs (Decidable (Reply.IsIdle _))
  | .closing _ => inferInstanceAs (Decidable True)

/-- What is asked of an engine for the statements that bracket a transaction: a
beginning that is refused leaves the connection out of a transaction, a commit and a
rollback that succeed take it out of one, and no rollback fails. -/
structure Exchange.IsRegular (exchange : Exchange) : Prop where
  refused : exchange.statement.sql = Statement.beginning.sql → exchange.reply.fault.isSome →
    exchange.reply.IsIdle
  committed : exchange.statement.sql = Statement.commit.sql → exchange.reply.fault.isNone →
    exchange.reply.IsIdle
  rolledBack : exchange.statement.sql = Statement.rollback.sql →
    exchange.reply.fault.isNone ∧ exchange.reply.IsIdle

instance : DecidablePred Exchange.IsRegular := fun exchange =>
  decidable_of_iff
    ((exchange.statement.sql = Statement.beginning.sql → exchange.reply.fault.isSome →
        exchange.reply.IsIdle) ∧
      (exchange.statement.sql = Statement.commit.sql → exchange.reply.fault.isNone →
        exchange.reply.IsIdle) ∧
      (exchange.statement.sql = Statement.rollback.sql →
        exchange.reply.fault.isNone ∧ exchange.reply.IsIdle))
    ⟨fun ⟨hrefused, hcommitted, hrolledBack⟩ => ⟨hrefused, hcommitted, hrolledBack⟩,
      fun ⟨hrefused, hcommitted, hrolledBack⟩ => ⟨hrefused, hcommitted, hrolledBack⟩⟩

/-- A new connection is in no transaction, and exchanges are regular. -/
def Event.IsRegular {ν : Type} : Event ν → Prop
  | .call (.connect _ _) reply => reply.IsIdle
  | .call (.execute _ statement) reply => Exchange.IsRegular ⟨statement, reply⟩
  | .call (.close _) _ => True
  | .note _ => True

instance {ν : Type} : DecidablePred (@Event.IsRegular ν)
  | .call (.connect _ _) _ => inferInstanceAs (Decidable (Reply.IsIdle _))
  | .call (.execute _ _) _ => inferInstanceAs (Decidable (Exchange.IsRegular _))
  | .call (.close _) _ => inferInstanceAs (Decidable True)
  | .note _ => inferInstanceAs (Decidable True)

namespace Exchange

theorem getD_of_isIdle {reply : Reply} (h : reply.IsIdle) :
    reply.inTransaction.getD false = false := by
  unfold Reply.IsIdle at h
  match reply.inTransaction, h with
  | none, _ => rfl
  | some false, _ => rfl
  | some true, h => exact absurd rfl h

/-- An exchange that failed does only what the reply says. -/
theorem flagAfter_of_fault {exchange : Exchange} (hfault : exchange.reply.fault.isSome)
    (flag : Bool) : exchange.flagAfter flag = exchange.reply.inTransaction.getD flag := by
  unfold flagAfter
  rw [if_pos hfault]
  cases exchange.reply.inTransaction <;> rfl

/-- So does a plain statement. -/
theorem flagAfter_of_isPlain {exchange : Exchange} (hplain : exchange.statement.IsPlain)
    (flag : Bool) : exchange.flagAfter flag = exchange.reply.inTransaction.getD flag := by
  obtain ⟨hbeginning, hcommit, hrollback⟩ := Statement.isPlain_iff.mp hplain
  have hneither : ¬ (exchange.statement.sql = Statement.commit.sql ∨
      exchange.statement.sql = Statement.rollback.sql) := not_or.mpr ⟨hcommit, hrollback⟩
  unfold flagAfter
  rw [if_neg hbeginning, if_neg hneither, ite_self]
  cases exchange.reply.inTransaction <;> rfl

/-- A transaction ends by a commit or a rollback that succeeds. -/
theorem flagAfter_of_ending {exchange : Exchange} (hreply : exchange.reply.fault = none)
    (hidle : exchange.reply.IsIdle)
    (hending : exchange.statement.sql = Statement.commit.sql ∨
      exchange.statement.sql = Statement.rollback.sql) (flag : Bool) :
    exchange.flagAfter flag = false := by
  have hbeginning : exchange.statement.sql ≠ Statement.beginning.sql := by
    rcases hending with h | h <;> rw [h] <;> decide
  have hflag : exchange.flagAfter flag = exchange.reply.inTransaction.getD false := by
    unfold flagAfter
    rw [hreply, if_neg (by decide), if_neg hbeginning, if_pos hending]
    cases exchange.reply.inTransaction <;> rfl
  rw [hflag, getD_of_isIdle hidle]

end Exchange

open Exchange (flagAfterAll)

/-- Plain statements that succeed begin no transaction on a regular engine. -/
theorem Passes.flagAfterAll_eq {statements : List Statement} {exchanges : List Exchange}
    (h : Passes statements exchanges) (hplain : ∀ statement ∈ statements, statement.IsPlain)
    (hidle : ∀ exchange ∈ exchanges, exchange.reply.IsIdle) :
    flagAfterAll exchanges false = false := by
  induction h with
  | nil => rfl
  | cons hreply _ ih =>
      rw [List.forall_mem_cons] at hplain hidle
      rw [flagAfterAll, List.foldl_cons, Exchange.flagAfter_of_isPlain hplain.1,
        Exchange.getD_of_isIdle hidle.1]
      exact ih hplain.2 hidle.2

/-! ## Brackets -/

/-- What is sent for a statement in a transaction: before an insertion, the row
marker. -/
def Statement.marked (statement : Statement) : List Statement :=
  if statement.isInsertion then [.rowMarker, statement] else [statement]

/-- The exchanges of one transaction with plain statements. -/
inductive Bracket : List Exchange → Prop where
  /-- The beginning was refused. -/
  | refused {reply : Reply} : reply.fault.isSome → Bracket [⟨.beginning, reply⟩]
  /-- All statements succeeded, and so did the commit. -/
  | committed {statements : List Statement} {began ended : Reply} {exchanges : List Exchange} :
      (∀ statement ∈ statements, statement.IsPlain) → began.fault = none →
        Passes (statements.flatMap Statement.marked) exchanges → ended.fault = none →
          Bracket (⟨.beginning, began⟩ :: exchanges ++ [⟨.commit, ended⟩])
  /-- A statement or the commit failed while the transaction went on, and it was
  rolled back. -/
  | rolledBack {statements : List Statement} {began ended : Reply} {exchanges : List Exchange} :
      (∀ statement ∈ statements, statement.IsPlain) → began.fault = none →
        Fails (statements.flatMap Statement.marked ++ [.commit]) exchanges →
          flagAfterAll (⟨.beginning, began⟩ :: exchanges) false = true → ended.fault = none →
            Bracket (⟨.beginning, began⟩ :: exchanges ++ [⟨.rollback, ended⟩])
  /-- A statement or the commit failed, and the transaction was over. -/
  | givenUp {statements : List Statement} {began : Reply} {exchanges : List Exchange} :
      (∀ statement ∈ statements, statement.IsPlain) → began.fault = none →
        Fails (statements.flatMap Statement.marked ++ [.commit]) exchanges →
          flagAfterAll (⟨.beginning, began⟩ :: exchanges) false = false →
            Bracket (⟨.beginning, began⟩ :: exchanges)

/-- No connection is in a transaction behind a bracket. -/
theorem Bracket.flagAfterAll_eq {exchanges : List Exchange} (h : Bracket exchanges)
    (hregular : ∀ exchange ∈ exchanges, exchange.IsRegular) :
    flagAfterAll exchanges false = false := by
  cases h with
  | @refused reply hfault =>
      have hidle : reply.IsIdle := (hregular _ List.mem_cons_self).refused rfl hfault
      exact (Exchange.flagAfter_of_fault hfault false).trans (Exchange.getD_of_isIdle hidle)
  | @committed statements began ended exchanges _ _ _ hended =>
      have hlast := hregular _ (List.mem_append_right _ List.mem_cons_self)
      have hidle : ended.IsIdle := hlast.committed rfl (Option.isNone_iff_eq_none.mpr hended)
      rw [Exchange.flagAfterAll_append]
      exact Exchange.flagAfter_of_ending hended hidle (.inl rfl) _
  | @rolledBack statements began ended exchanges _ _ _ _ hended =>
      have hlast := hregular _ (List.mem_append_right _ List.mem_cons_self)
      have hidle : ended.IsIdle := (hlast.rolledBack rfl).2
      rw [Exchange.flagAfterAll_append]
      exact Exchange.flagAfter_of_ending hended hidle (.inr rfl) _
  | givenUp _ _ _ hflag => exact hflag

end SqlAccess
