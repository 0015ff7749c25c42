import SqlAccess.Proofs.Engine.Exchange

/-!
# How a script advances

A script advances by entries of its journal if these are all that was asked of the
engine since, and if they took its replies in order: the first entry the reply that came
next, and so on (`Script.Advances`).  So the entries determine which replies are left, and
where one script advances from another, what is asked then takes up where the first
one stopped (`Advances.trans`).
-/

namespace SqlAccess

variable {ν : Type}

/-- The reply that an entry of the journal tells of. -/
def Event.reply? : Event ν → Option Reply
  | .call _ reply => some reply
  | .note _ => none

/-- The fault that an entry of the journal tells of. -/
def Event.fault? (event : Event ν) : Option Fault :=
  event.reply?.bind Reply.fault

/-- The statement that an entry of the journal sends. -/
def Event.statement? : Event ν → Option Statement
  | .call (.execute _ statement) _ => some statement
  | _ => none

namespace Script

/-- The entries are all that was asked since, and they took the replies one after the
other. -/
structure Advances (before : Script ν) (entries : List (Event ν)) (after : Script ν) :
    Prop where
  journal_eq : after.journal = before.journal ++ entries
  reply_eq : ∀ index event, entries[index]? = some event →
    event.reply? = some (before.replies.getD index {})
  replies_eq : after.replies = before.replies.drop entries.length

section

variable {before between after : Script ν} {entries more : List (Event ν)}

theorem Advances.refl (script : Script ν) : Advances script [] script where
  journal_eq := (List.append_nil _).symm
  reply_eq index event hevent := by simp at hevent
  replies_eq := rfl

theorem Advances.trans (h : Advances before entries between)
    (hmore : Advances between more after) : Advances before (entries ++ more) after where
  journal_eq := by rw [hmore.journal_eq, h.journal_eq, List.append_assoc]
  reply_eq index event hevent := by
    rcases Nat.lt_or_ge index entries.length with hlt | hge
    · rw [List.getElem?_append_left hlt] at hevent
      exact h.reply_eq index event hevent
    · rw [List.getElem?_append_right hge] at hevent
      have hindex : entries.length + (index - entries.length) = index := by omega
      rw [hmore.reply_eq _ event hevent, h.replies_eq, List.getD_eq_getElem?_getD,
        List.getElem?_drop, hindex, List.getD_eq_getElem?_getD]
  replies_eq := by
    rw [hmore.replies_eq, h.replies_eq, List.drop_drop, List.length_append]

/-- A script advances by one entry if it takes the next reply for it. -/
theorem advances_singleton {call : Call}
    (hjournal : after.journal = before.journal ++ [.call call before.nextReply])
    (hreplies : after.replies = before.replies.tail) :
    Advances before [.call call before.nextReply] after where
  journal_eq := hjournal
  reply_eq index event hevent := by
    obtain ⟨rfl, rfl⟩ : index = 0 ∧ event = .call call before.nextReply := by
      cases index with
      | zero => exact ⟨rfl, (Option.some.inj hevent).symm⟩
      | succ index => simp at hevent
    rw [Event.reply?, nextReply, List.headD_eq_head?_getD, List.getD_eq_getElem?_getD,
      List.head?_eq_getElem?]
  replies_eq := by rw [hreplies, List.length_singleton, List.drop_one]

end

variable (script : Script ν)

theorem advances_execute (handle : Handle) (statement : Statement) :
    Advances script [Exchange.event handle ⟨statement, script.nextReply⟩]
      (script.execute handle statement).2 :=
  advances_singleton (journal_execute script handle statement)
    (replies_execute script handle statement)

theorem advances_connect (path : String) (timeout : Floating) :
    Advances script [.call (.connect path timeout) script.nextReply]
      (script.connect path timeout).2 := by
  refine advances_singleton (journal_connect script path timeout) ?_
  rw [connect_eq, replies_obey]
  rfl

theorem advances_close (handle : Handle) :
    Advances script [.call (.close handle) script.nextReply] (script.close handle).2 := by
  refine advances_singleton (journal_close script handle) ?_
  rw [close_eq, replies_obey]
  rfl

end Script

/-! ## Entries of exchanges -/

theorem fault?_event (handle : Handle) (exchange : Exchange) :
    (Exchange.event handle exchange : Event ν).fault? = exchange.reply.fault := rfl

theorem forall_fault?_map_event {handle : Handle} {exchanges : List Exchange} :
    (∀ event ∈ (exchanges.map (Exchange.event handle) : List (Event ν)), event.fault? = none) ↔
      ∀ exchange ∈ exchanges, exchange.reply.fault = none :=
  List.forall_mem_map

theorem exists_exchange_of_statement? {handle : Handle} {exchanges : List Exchange}
    {event : Event ν} {statement : Statement}
    (hevent : event ∈ exchanges.map (Exchange.event handle))
    (hsent : event.statement? = some statement) :
    ∃ exchange ∈ exchanges, exchange.statement = statement := by
  obtain ⟨exchange, hmem, rfl⟩ := List.mem_map.mp hevent
  exact ⟨exchange, hmem, Option.some.inj hsent⟩

end SqlAccess
