import SqlAccess.Engine.Script

/-!
# Exchanges with a scripted engine

An exchange is a statement on a connection together with the reply to it.  Whether
the connection is in a transaction afterwards is decided by the exchange and by
whether it was before (`Exchange.flagAfter`), and no other connection is concerned.
The journal grows by the exchange and by nothing else.

In the journal the exchanges of a connection stand among those of others.  What
became of one connection are its `uses`: its exchanges and the closing, in order.
-/

namespace SqlAccess

/-- A statement and the reply to it. -/
structure Exchange where
  statement : Statement
  reply : Reply

namespace Exchange

/-- Whether a connection is in a transaction after an exchange. -/
def flagAfter (exchange : Exchange) (flag : Bool) : Bool :=
  match exchange.reply.inTransaction with
  | some isActive => isActive
  | none =>
    if exchange.reply.fault.isSome then flag
    else if exchange.statement.sql = Statement.beginning.sql then true
    else if exchange.statement.sql = Statement.commit.sql ∨
        exchange.statement.sql = Statement.rollback.sql then false
    else flag

/-- Whether a connection is in a transaction after exchanges. -/
def flagAfterAll (exchanges : List Exchange) (flag : Bool) : Bool :=
  exchanges.foldl (fun flag exchange => exchange.flagAfter flag) flag

@[simp] theorem flagAfterAll_append (first second : List Exchange) (flag : Bool) :
    flagAfterAll (first ++ second) flag = flagAfterAll second (flagAfterAll first flag) :=
  List.foldl_append

/-- The entry of an exchange in the journal. -/
def event {ν : Type} (handle : Handle) (exchange : Exchange) : Event ν :=
  .call (.execute handle exchange.statement) exchange.reply

end Exchange

/-- What a connection was used for. -/
inductive Use where
  /-- A statement was run. -/
  | exchange (exchange : Exchange)
  /-- The connection was closed. -/
  | closing (reply : Reply)

/-- The connection that an entry of the journal is about. -/
def Event.handle? {ν : Type} : Event ν → Option Handle
  | .call (.execute handle _) _ => some handle
  | .call (.close handle) _ => some handle
  | .call (.connect _ _) _ => none
  | .note _ => none

/-- The use of a connection that an entry of the journal tells of. -/
def Event.use? {ν : Type} (handle : Handle) : Event ν → Option Use
  | .call (.execute other statement) reply =>
    if other = handle then some (.exchange ⟨statement, reply⟩) else none
  | .call (.close other) reply => if other = handle then some (.closing reply) else none
  | .call (.connect _ _) _ => none
  | .note _ => none

/-- What a connection was used for, in order. -/
def uses {ν : Type} (handle : Handle) (journal : List (Event ν)) : List Use :=
  journal.filterMap (Event.use? handle)

section

variable {ν : Type} {handle other : Handle}

@[simp] theorem uses_append (handle : Handle) (first second : List (Event ν)) :
    uses handle (first ++ second) = uses handle first ++ uses handle second :=
  List.filterMap_append

theorem uses_isPrefix_append (handle : Handle) (first second : List (Event ν)) :
    uses handle first <+: uses handle (first ++ second) := by
  rw [uses_append]
  exact List.prefix_append _ _

theorem uses_map_event_self (handle : Handle) (exchanges : List Exchange) :
    uses handle (exchanges.map (Exchange.event handle) : List (Event ν)) =
      exchanges.map .exchange := by
  induction exchanges with
  | nil => rfl
  | cons exchange exchanges ih =>
      have huse : Event.use? handle (Exchange.event handle exchange : Event ν) =
          some (.exchange exchange) := if_pos rfl
      rw [List.map_cons, uses, List.filterMap_cons, huse, List.map_cons, ← ih]
      rfl

theorem uses_eq_nil {journal : List (Event ν)}
    (h : ∀ event ∈ journal, event.handle? ≠ some handle) : uses handle journal = [] := by
  refine List.filterMap_eq_nil_iff.mpr fun event hevent => ?_
  match event, h event hevent with
  | .call (.execute _ _) _, hne => exact if_neg fun heq => hne (congrArg some heq)
  | .call (.close _) _, hne => exact if_neg fun heq => hne (congrArg some heq)
  | .call (.connect _ _) _, _ => rfl
  | .note _, _ => rfl

theorem uses_map_event_of_ne (h : other ≠ handle) (exchanges : List Exchange) :
    uses other (exchanges.map (Exchange.event handle) : List (Event ν)) = [] := by
  refine uses_eq_nil (List.forall_mem_map.mpr fun exchange _ => ?_)
  exact fun heq => h (Option.some.inj heq).symm

theorem uses_map_note (handle : Handle) (notes : List ν) :
    uses handle (notes.map .note : List (Event ν)) = [] :=
  uses_eq_nil (List.forall_mem_map.mpr fun _ _ => nofun)

end

/-! ## Flags -/

namespace Script

variable {ν : Type} {script : Script ν} {handle other : Handle}

theorem contains_setActive (script : Script ν) (handle other : Handle) (isActive : Bool) :
    (script.setActive handle isActive).active.contains other =
      if other = handle then isActive else script.active.contains other := by
  unfold setActive
  cases isActive with
  | true => by_cases h : other = handle <;> simp [h]
  | false => by_cases h : other = handle <;> simp [h]

theorem contains_obey (script : Script ν) (handle other : Handle) (reply : Reply) :
    (script.obey handle reply).active.contains other =
      if other = handle then reply.inTransaction.getD (script.active.contains handle)
      else script.active.contains other := by
  cases hflag : reply.inTransaction with
  | none =>
      simp only [obey, hflag, Option.getD_none]
      split
      · rename_i hother
        rw [hother]
      · rfl
  | some isActive =>
      simp only [obey, hflag, Option.getD_some]
      exact contains_setActive script handle other isActive

theorem contains_follow (script : Script ν) (handle other : Handle) (statement : Statement) :
    (script.follow handle statement).active.contains other =
      if other = handle then
        if statement.sql = Statement.beginning.sql then true
        else if statement.sql = Statement.commit.sql ∨
          statement.sql = Statement.rollback.sql then false
        else script.active.contains handle
      else script.active.contains other := by
  unfold follow
  split
  · exact contains_setActive script handle other true
  · split
    · exact contains_setActive script handle other false
    · split
      · rename_i h
        rw [h]
      · rfl

@[simp] theorem journal_obey (script : Script ν) (handle : Handle) (reply : Reply) :
    (script.obey handle reply).journal = script.journal := by
  unfold obey
  split <;> rfl

@[simp] theorem connected_obey (script : Script ν) (handle : Handle) (reply : Reply) :
    (script.obey handle reply).connected = script.connected := by
  unfold obey
  split <;> rfl

@[simp] theorem replies_obey (script : Script ν) (handle : Handle) (reply : Reply) :
    (script.obey handle reply).replies = script.replies := by
  unfold obey
  split <;> rfl

@[simp] theorem journal_follow (script : Script ν) (handle : Handle) (statement : Statement) :
    (script.follow handle statement).journal = script.journal := by
  unfold follow
  split
  · rfl
  · split <;> rfl

@[simp] theorem connected_follow (script : Script ν) (handle : Handle) (statement : Statement) :
    (script.follow handle statement).connected = script.connected := by
  unfold follow
  split
  · rfl
  · split <;> rfl

@[simp] theorem replies_follow (script : Script ν) (handle : Handle) (statement : Statement) :
    (script.follow handle statement).replies = script.replies := by
  unfold follow
  split
  · rfl
  · split <;> rfl

/-! ## Statements -/

/-- The reply that comes next. -/
def nextReply (script : Script ν) : Reply :=
  script.replies.headD {}

section

variable (script : Script ν) (handle : Handle) (statement : Statement)

/-- A statement takes the next reply, follows it if it succeeds, and obeys it. -/
theorem execute_eq :
    script.execute handle statement =
      (Reply.answer script.nextReply script.nextReply.result,
        (if script.nextReply.fault.isNone then
          (script.take (.execute handle statement)).2.follow handle statement
        else (script.take (.execute handle statement)).2).obey handle script.nextReply) := rfl

theorem journal_execute :
    (script.execute handle statement).2.journal =
      script.journal ++ [Exchange.event handle ⟨statement, script.nextReply⟩] := by
  rw [execute_eq, journal_obey]
  split
  · rw [journal_follow]
    rfl
  · rfl

theorem connected_execute :
    (script.execute handle statement).2.connected = script.connected := by
  rw [execute_eq, connected_obey]
  split
  · rw [connected_follow]
    rfl
  · rfl

theorem replies_execute :
    (script.execute handle statement).2.replies = script.replies.tail := by
  rw [execute_eq, replies_obey]
  split
  · rw [replies_follow]
    rfl
  · rfl

theorem inTransaction_execute (other : Handle) :
    Engine.inTransaction other (script.execute handle statement).2 =
      if other = handle then
        Exchange.flagAfter ⟨statement, script.nextReply⟩ (Engine.inTransaction handle script)
      else Engine.inTransaction other script := by
  have hactive : (script.take (.execute handle statement)).2.active = script.active := rfl
  simp only [Engine.inTransaction, execute_eq, contains_obey, Exchange.flagAfter]
  cases hfault : script.nextReply.fault with
  | some fault =>
      -- a statement that fails is not followed, so the reply alone decides
      split
      · cases script.nextReply.inTransaction <;> rfl
      · rfl
  | none =>
      simp only [Option.isNone_none, if_true, contains_follow, hactive]
      split
      · cases script.nextReply.inTransaction <;> rfl
      · rfl

end

/-! ## Connecting and closing -/

/-- The handle that the next connection gets, if it comes about. -/
def nextHandle (script : Script ν) : Handle :=
  ⟨script.connected + 1⟩

section

variable (script : Script ν) (path : String) (timeout : Floating) (handle : Handle)

theorem connect_eq :
    script.connect path timeout =
      (Reply.answer script.nextReply script.nextHandle,
        ({ (script.take (.connect path timeout)).2 with
          connected := script.connected + 1 } : Script ν).obey script.nextHandle
            script.nextReply) := rfl

theorem journal_connect :
    (script.connect path timeout).2.journal =
      script.journal ++ [.call (.connect path timeout) script.nextReply] := by
  rw [connect_eq, journal_obey]
  rfl

theorem connected_connect :
    (script.connect path timeout).2.connected = script.connected + 1 := by
  rw [connect_eq, connected_obey]

theorem inTransaction_connect (other : Handle) :
    Engine.inTransaction other (script.connect path timeout).2 =
      if other = script.nextHandle then
        script.nextReply.inTransaction.getD (Engine.inTransaction script.nextHandle script)
      else Engine.inTransaction other script := by
  rw [connect_eq]
  exact contains_obey _ _ _ _

theorem close_eq :
    script.close handle = (Reply.answer script.nextReply (),
      (script.take (.close handle)).2.obey handle script.nextReply) := rfl

theorem journal_close :
    (script.close handle).2.journal =
      script.journal ++ [.call (.close handle) script.nextReply] := by
  rw [close_eq, journal_obey]
  rfl

theorem connected_close : (script.close handle).2.connected = script.connected := by
  rw [close_eq, connected_obey]
  rfl

theorem inTransaction_close {other : Handle} (h : other ≠ handle) :
    Engine.inTransaction other (script.close handle).2 = Engine.inTransaction other script := by
  rw [close_eq]
  exact (contains_obey _ _ _ _).trans (if_neg h)

end

end Script

end SqlAccess
