import Mathlib.Data.List.Infix
import SqlAccess.Proofs.Registry.Handle
import SqlAccess.Proofs.Workload.Bracket
import SqlAccess.Proofs.Workload.Surface

/-!
# The life of a connection

A connection is set up, then it serves one transaction after the other, and in the
end it is closed; or its setup fails, and it is closed at once (`Life`).  So there is
nothing on it besides the setup and the brackets of transactions.

The invariant is `Orderly`: all connections live like this, and those in the registry
are set up, idle, and each registered under a single name.  A move touches a single
connection, so what has to be shown for it is what became of that one
(`Orderly.of_touched`).
-/

namespace SqlAccess.Workload

open SqlAccess.Action
open Exchange (flagAfterAll)

/-! ## Lives -/

/-- The exchanges of a connection that was set up: those of the setup, and then one
bracket after the other. -/
def Serves (config : Config) (exchanges : List Exchange) : Prop :=
  ∃ (setup : List Exchange) (brackets : List (List Exchange)), Passes config.setup setup ∧
    (∀ bracket ∈ brackets, Bracket bracket) ∧ exchanges = setup ++ brackets.flatten

theorem Serves.append {config : Config} {exchanges more : List Exchange}
    (h : Serves config exchanges) (hmore : Bracket more) : Serves config (exchanges ++ more) := by
  obtain ⟨setup, brackets, hsetup, hbrackets, rfl⟩ := h
  refine ⟨setup, brackets ++ [more], hsetup, ?_, ?_⟩
  · exact List.forall_mem_append.mpr ⟨hbrackets, by simpa using hmore⟩
  · rw [List.flatten_concat, List.append_assoc]

/-- What a connection is used for. -/
inductive Life (config : Config) : List Use → Prop where
  | unused : Life config []
  | serving {exchanges : List Exchange} : Serves config exchanges →
      Life config (exchanges.map .exchange)
  | closed {exchanges : List Exchange} {reply : Reply} : Serves config exchanges →
      Life config (exchanges.map .exchange ++ [.closing reply])
  /-- The setup failed. -/
  | abandoned {exchanges : List Exchange} {reply : Reply} : Fails config.setup exchanges →
      Life config (exchanges.map .exchange ++ [.closing reply])

/-! ## Regular engines -/

/-- The engine was regular in all that is in the journal, and no connection was in a
transaction while it was set up. -/
structure Regular (config : Config) (journal : List (Event Note)) : Prop where
  events : ∀ event ∈ journal, event.IsRegular
  setup : ∀ handle, ∀ use ∈ (uses handle journal).take config.setup.length, use.IsIdle

theorem Regular.of_isPrefix {config : Config} {first journal : List (Event Note)}
    (h : Regular config journal) (hfirst : first <+: journal) : Regular config first where
  events event hevent := h.events event (hfirst.subset hevent)
  setup handle use huse :=
    h.setup handle use
      (((hfirst.filterMap (Event.use? handle)).take config.setup.length).subset huse)

theorem Regular.isRegular {config : Config} {start : List (Event Note)} {handle : Handle}
    {exchanges : List Exchange}
    (h : Regular config (start ++ exchanges.map (Exchange.event handle))) :
    ∀ exchange ∈ exchanges, exchange.IsRegular :=
  fun exchange hexchange =>
    h.events (exchange.event handle)
      (List.mem_append_right _ (List.mem_map_of_mem hexchange))

/-! ## Moves touch one connection -/

/-- At most one connection was touched, and the journal has only grown. -/
structure Touched (handle : Handle) (before after : Session World) : Prop where
  connected_le : (scriptOf before).connected ≤ (scriptOf after).connected
  journal_isPrefix : (scriptOf before).journal <+: (scriptOf after).journal
  uses_eq : ∀ other, other ≠ handle →
    uses other (scriptOf after).journal = uses other (scriptOf before).journal
  flag_eq : ∀ other, other ≠ handle →
    Engine.inTransaction other after.outside = Engine.inTransaction other before.outside

section

variable {handle other : Handle} {before between after session : Session World} {config : Config}
  {exchanges : List Exchange}

theorem Touched.trans (h : Touched handle before between) (h' : Touched handle between after) :
    Touched handle before after where
  connected_le := Nat.le_trans h.connected_le h'.connected_le
  journal_isPrefix := h.journal_isPrefix.trans h'.journal_isPrefix
  uses_eq other hother := (h'.uses_eq other hother).trans (h.uses_eq other hother)
  flag_eq other hother := (h'.flag_eq other hother).trans (h.flag_eq other hother)

theorem Since.uses_eq (h : Since handle before exchanges after) :
    uses handle (scriptOf after).journal =
      uses handle (scriptOf before).journal ++ exchanges.map .exchange := by
  rw [h.journal_eq, uses_append, uses_map_event_self]

theorem Since.touched (h : Since handle before exchanges after) : Touched handle before after where
  connected_le := Nat.le_of_eq h.connected_eq.symm
  journal_isPrefix := by
    rw [h.journal_eq]
    exact List.prefix_append _ _
  uses_eq other hother := by
    rw [h.journal_eq, uses_append, uses_map_event_of_ne hother, List.append_nil]
  flag_eq := h.others_eq

/-- A connection was asked for, and what the engine replied. -/
structure Joins (before : Session World) (reply : Reply) (after : Session World) : Prop where
  registry_eq : after.registry = before.registry
  connected_eq : (scriptOf after).connected = (scriptOf before).connected + 1
  journal_eq : ∃ path timeout, (scriptOf after).journal =
    (scriptOf before).journal ++ [.call (.connect path timeout) reply]
  flag_eq : Engine.inTransaction (scriptOf before).nextHandle after.outside =
    reply.inTransaction.getD (Engine.inTransaction (scriptOf before).nextHandle before.outside)
  others_eq : ∀ other, other ≠ (scriptOf before).nextHandle →
    Engine.inTransaction other after.outside = Engine.inTransaction other before.outside

theorem ends_connect (path : String) (timeout : Floating) (session : Session World) :
    Ends (fun handle after => handle = (scriptOf session).nextHandle ∧
        ∃ reply, reply.fault = none ∧ Joins session reply after)
      (fun _ after => ∃ reply, reply.fault.isSome ∧ Joins session reply after)
      (connect path timeout session) := by
  have hjoins : Joins session (scriptOf session).nextReply (connect path timeout session).2 :=
    { registry_eq := rfl
      connected_eq := Script.connected_connect _ _ _
      journal_eq := ⟨path, timeout, Script.journal_connect _ _ _⟩
      flag_eq := (Script.inTransaction_connect _ _ _ _).trans (if_pos rfl)
      others_eq := fun other hother =>
        (Script.inTransaction_connect _ _ _ other).trans (if_neg hother) }
  exact ends_answer (fun hnone => ⟨rfl, _, hnone, hjoins⟩) fun _ hfault =>
    ⟨_, Option.isSome_of_eq_some hfault, hjoins⟩

theorem Joins.uses_eq {reply : Reply} (h : Joins before reply after) (other : Handle) :
    uses other (scriptOf after).journal = uses other (scriptOf before).journal := by
  obtain ⟨path, timeout, hjournal⟩ := h.journal_eq
  rw [hjournal, uses_append]
  exact List.append_nil _

theorem Joins.touched {reply : Reply} (h : Joins before reply after) :
    Touched (scriptOf before).nextHandle before after where
  connected_le := by rw [h.connected_eq]; exact Nat.le_succ _
  journal_isPrefix := by
    obtain ⟨path, timeout, hjournal⟩ := h.journal_eq
    rw [hjournal]
    exact List.prefix_append _ _
  uses_eq other _ := h.uses_eq other
  flag_eq := h.others_eq

theorem close_snd_registry (handle : Handle) (session : Session World) :
    (close handle session).2.registry = session.registry := rfl

theorem close_snd_connected (handle : Handle) (session : Session World) :
    (scriptOf (close handle session).2).connected = (scriptOf session).connected :=
  Script.connected_close _ _

theorem close_snd_journal (handle : Handle) (session : Session World) :
    (scriptOf (close handle session).2).journal =
      (scriptOf session).journal ++ [.call (.close handle) (scriptOf session).nextReply] :=
  Script.journal_close _ _

theorem touched_close (handle : Handle) (session : Session World) :
    Touched handle session (close handle session).2 where
  connected_le := Nat.le_of_eq (close_snd_connected handle session).symm
  journal_isPrefix := by
    rw [close_snd_journal]
    exact List.prefix_append _ _
  uses_eq other hother := by
    have hnone : uses other ([.call (.close handle) (scriptOf session).nextReply] :
        List (Event Note)) = [] :=
      uses_eq_nil (by simpa [Event.handle?] using hother.symm)
    rw [close_snd_journal, uses_append, hnone, List.append_nil]
  flag_eq _ hother := Script.inTransaction_close _ _ hother

theorem uses_close (handle : Handle) (session : Session World) :
    uses handle (scriptOf (close handle session).2).journal =
      uses handle (scriptOf session).journal ++ [.closing (scriptOf session).nextReply] := by
  have hclosing : uses handle ([.call (.close handle) (scriptOf session).nextReply] :
      List (Event Note)) = [.closing (scriptOf session).nextReply] :=
    List.filterMap_cons_some (if_pos rfl)
  rw [close_snd_journal, uses_append, hclosing]

end

/-! ## The invariant -/

/-- A connection is set up, and its transactions are over. -/
structure Serving (config : Config) (session : Session World) (handle : Handle) : Prop where
  number_le : handle.number ≤ (scriptOf session).connected
  serves : ∃ exchanges, Serves config exchanges ∧
    uses handle (scriptOf session).journal = exchanges.map .exchange
  flag_eq : Engine.inTransaction handle session.outside = false

/-- All connections live as they should, and those in the registry are set up, idle,
and registered once. -/
structure Orderly (config : Config) (session : Session World) : Prop where
  lives : ∀ handle, Life config (uses handle (scriptOf session).journal)
  fresh : ∀ handle, (scriptOf session).connected < handle.number →
    uses handle (scriptOf session).journal = [] ∧
      Engine.inTransaction handle session.outside = false
  serving : ∀ name handle, session.registry.handle? name = some handle →
    Serving config session handle
  injective : ∀ name other handle, session.registry.handle? name = some handle →
    session.registry.handle? other = some handle → name = other

section

variable {config : Config} {before after session : Session World} {handle other : Handle}

theorem Serving.of_touched (h : Serving config before other)
    (htouched : Touched handle before after) (hother : other ≠ handle) :
    Serving config after other where
  number_le := Nat.le_trans h.number_le htouched.connected_le
  serves := by rw [htouched.uses_eq other hother]; exact h.serves
  flag_eq := (htouched.flag_eq other hother).trans h.flag_eq

/-- A registered connection is none that is still to come. -/
theorem Orderly.ne_nextHandle (h : Orderly config session) {name : String}
    (hname : session.registry.handle? name = some handle) :
    handle ≠ (scriptOf session).nextHandle := by
  rintro rfl
  exact Nat.not_succ_le_self _ (h.serving name _ hname).number_le

/-- If a single connection was touched, it is enough to look at that one. -/
theorem Orderly.of_touched (h : Orderly config before) (htouched : Touched handle before after)
    (hnumber : handle.number ≤ (scriptOf after).connected)
    (hlife : Life config (uses handle (scriptOf after).journal))
    (hregistered : ∀ name other, after.registry.handle? name = some other →
      other ≠ handle ∧ before.registry.handle? name = some other ∨
        other = handle ∧ Serving config after handle)
    (hinjective : ∀ name other, after.registry.handle? name = some handle →
      after.registry.handle? other = some handle → name = other) :
    Orderly config after where
  lives other := by
    by_cases hother : other = handle
    · rw [hother]
      exact hlife
    · rw [htouched.uses_eq other hother]
      exact h.lives other
  fresh other hother := by
    -- the connection that was touched has a number that was given out
    have hne : other ≠ handle := by
      rintro rfl
      exact Nat.not_le_of_lt hother hnumber
    rw [htouched.uses_eq other hne, htouched.flag_eq other hne]
    exact h.fresh other (Nat.lt_of_le_of_lt htouched.connected_le hother)
  serving name other hother := by
    rcases hregistered name other hother with ⟨hne, hbefore⟩ | ⟨rfl, hserving⟩
    · exact (h.serving name other hbefore).of_touched htouched hne
    · exact hserving
  injective name name' other hname hname' := by
    rcases hregistered name other hname with ⟨hne, hbefore⟩ | ⟨rfl, -⟩
    · rcases hregistered name' other hname' with ⟨-, hbefore'⟩ | ⟨heq, -⟩
      · exact h.injective name name' other hbefore hbefore'
      · exact absurd heq hne
    · exact hinjective name name' hname hname'

/-- If this is the connection that comes next, it is not registered. -/
theorem Orderly.of_touched_next (h : Orderly config before)
    (htouched : Touched (scriptOf before).nextHandle before after)
    (hregistry : after.registry = before.registry)
    (hconnected : (scriptOf after).connected = (scriptOf before).connected + 1)
    (hlife : Life config (uses (scriptOf before).nextHandle (scriptOf after).journal)) :
    Orderly config after := by
  refine h.of_touched htouched (Nat.le_of_eq hconnected.symm) hlife ?_ ?_
  · intro name other hname
    rw [hregistry] at hname
    exact .inl ⟨h.ne_nextHandle hname, hname⟩
  · intro name other hname _
    rw [hregistry] at hname
    exact absurd rfl (h.ne_nextHandle hname)

/-- If nothing was touched that the invariant is about, it stays. -/
theorem Orderly.congr (h : Orderly config before)
    (hhandle : ∀ name, after.registry.handle? name = before.registry.handle? name)
    (hconnected : (scriptOf after).connected = (scriptOf before).connected)
    (huses : ∀ handle, uses handle (scriptOf after).journal = uses handle (scriptOf before).journal)
    (hflag : ∀ handle, Engine.inTransaction handle after.outside =
      Engine.inTransaction handle before.outside) : Orderly config after where
  lives handle := by rw [huses]; exact h.lives handle
  fresh handle hnumber := by
    rw [huses, hflag]
    exact h.fresh handle (hconnected ▸ hnumber)
  serving name handle hname := by
    have hserving := h.serving name handle (hhandle name ▸ hname)
    exact
      { number_le := hconnected ▸ hserving.number_le
        serves := by rw [huses]; exact hserving.serves
        flag_eq := (hflag handle).trans hserving.flag_eq }
  injective name other handle hname hother :=
    h.injective name other handle (hhandle name ▸ hname) (hhandle other ▸ hother)

end

end SqlAccess.Workload
