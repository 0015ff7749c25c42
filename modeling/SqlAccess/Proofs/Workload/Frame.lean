import SqlAccess.Proofs.Engine.Connection
import SqlAccess.Proofs.Workload.Life

/-!
# What concerns a single database

All databases share one registry and one engine.  What is done with the database of one
name leaves those of all other names alone: it asks the engine for nothing but a
connection to the path of that name, and for something on its connection
(`Concerns`), and so no other connection changes, whatever the engine replies and
whatever fails.

This is said relative to a session at the start (`Frames`).  The connection of the name
may be closed and opened again, so there are several that it may have: the one at the
start, and those that came about since (`Belongs`).  Their numbers tell them apart from
the connections that other names had at the start.  Each request to the engine and each
change of the registry keeps this, so everything that is made of them does
(`frames_keptOn`), and statements need not be plain for it (`keeps_runBatch_frames`).
-/

namespace SqlAccess

variable {ν : Type} {handle : Handle}

/-- What came about in a journal came about in each longer one. -/
theorem CameAbout.append {journal : List (Event ν)} (h : CameAbout handle journal)
    (more : List (Event ν)) : CameAbout handle (journal ++ more) := by
  obtain ⟨index, reply, hnumber, hreply, hfault⟩ := h
  have hindex := (List.getElem?_eq_some_iff.mp hreply).1
  refine ⟨index, reply, hnumber, ?_, hfault⟩
  rw [joinings_append, List.getElem?_append_left hindex, hreply]

theorem CameAbout.number_le {journal : List (Event ν)} (h : CameAbout handle journal) :
    handle.number ≤ (joinings journal).length := by
  obtain ⟨index, reply, hnumber, hreply, -⟩ := h
  have hindex := (List.getElem?_eq_some_iff.mp hreply).1
  omega

/-! ## Other names in a registry -/

namespace Registry

/-- The connections of all names but one, in the order of their registration. -/
def others (registry : Registry) (name : String) : List Connection :=
  registry.connections.filter fun connection => connection.name ≠ name

theorem mem_others {registry : Registry} {name : String} {connection : Connection} :
    connection ∈ registry.others name ↔
      connection ∈ registry.connections ∧ connection.name ≠ name := by
  rw [others, List.mem_filter, decide_eq_true_eq]

@[simp] theorem others_register (registry : Registry) (name : String) :
    (registry.register name).others name = registry.others name := by
  unfold register others
  split
  · rfl
  · rw [List.filter_append, List.filter_singleton, connection_name]
    simp

@[simp] theorem others_setHandle (registry : Registry) (name : String) (handle : Option Handle) :
    (registry.setHandle name handle).others name = registry.others name := by
  unfold setHandle others
  induction registry.connections with
  | nil => rfl
  | cons connection connections ih =>
      by_cases hname : connection.name = name <;> simp_all

end Registry

namespace Workload

open SqlAccess.Action

/-! ## The frame -/

/-- The connection is the one that the name had at the start, or came about later. -/
def Belongs (name : String) (start : Session World) (journal : List (Event Note))
    (handle : Handle) : Prop :=
  start.registry.handle? name = some handle ∨
    (scriptOf start).connected < handle.number ∧ CameAbout handle journal

/-- What the engine was asked for concerns the database of a name. -/
def Concerns (name : String) (start : Session World) (journal : List (Event Note)) :
    Event Note → Prop
  | .call (.connect path timeout) _ =>
      path = start.registry.path name ∧ timeout = start.registry.config.timeout
  | .call (.execute handle _) _ => Belongs name start journal handle
  | .call (.close handle) _ => Belongs name start journal handle
  | .note _ => True

/-- All that happened since the start concerns the database of a name. -/
structure Frames (name : String) (start now : Session World) : Prop where
  entries : ∃ entries, (scriptOf now).journal = (scriptOf start).journal ++ entries ∧
    ∀ event ∈ entries, Concerns name start (scriptOf now).journal event
  joinings_length : (joinings (scriptOf now).journal).length = (scriptOf now).connected
  connected_le : (scriptOf start).connected ≤ (scriptOf now).connected
  /-- No connection of another name was touched. -/
  flag_eq : ∀ handle, handle.number ≤ (scriptOf start).connected →
    start.registry.handle? name ≠ some handle →
      Engine.inTransaction handle now.outside = Engine.inTransaction handle start.outside
  config_eq : now.registry.config = start.registry.config
  path_eq : now.registry.path name = start.registry.path name
  current : ∀ handle, now.registry.handle? name = some handle →
    Belongs name start (scriptOf now).journal handle
  others_eq : now.registry.others name = start.registry.others name

/-- Besides, the connection belongs to the name. -/
def Holds (name : String) (start : Session World) (handle : Handle) (now : Session World) : Prop :=
  Frames name start now ∧ Belongs name start (scriptOf now).journal handle

section

variable {name : String} {start now after session : Session World}
  {journal more : List (Event Note)} {handle other : Handle}

theorem Belongs.append (h : Belongs name start journal handle) (more : List (Event Note)) :
    Belongs name start (journal ++ more) handle :=
  h.imp_right fun ⟨hnumber, hcame⟩ => ⟨hnumber, hcame.append more⟩

theorem Concerns.append {event : Event Note} (h : Concerns name start journal event)
    (more : List (Event Note)) : Concerns name start (journal ++ more) event := by
  match event, h with
  | .call (.connect _ _) _, h => exact h
  | .call (.execute _ _) _, h => exact Belongs.append h more
  | .call (.close _) _, h => exact Belongs.append h more
  | .note _, h => exact h

/-- A connection that belongs to the name is none that another name had at the start. -/
theorem Belongs.ne (h : Belongs name start journal handle)
    (hnumber : other.number ≤ (scriptOf start).connected)
    (hother : start.registry.handle? name ≠ some other) : other ≠ handle := by
  rintro rfl
  rcases h with hhandle | ⟨hlater, -⟩
  · exact hother hhandle
  · exact Nat.not_le_of_lt hlater hnumber

theorem Frames.refl (hlength : (joinings (scriptOf start).journal).length =
    (scriptOf start).connected) : Frames name start start where
  entries := ⟨[], (List.append_nil _).symm, nofun⟩
  joinings_length := hlength
  connected_le := Nat.le_refl _
  flag_eq _ _ _ := rfl
  config_eq := rfl
  path_eq := rfl
  current _ hhandle := .inl hhandle
  others_eq := rfl

/-! ### Requests to the engine -/

/-- The journal goes on with what concerns the name, and only its connections were
touched. -/
theorem Frames.of_journal (h : Frames name start now) (hregistry : after.registry = now.registry)
    (hjournal : (scriptOf after).journal = (scriptOf now).journal ++ more)
    (hlength : (joinings (scriptOf after).journal).length = (scriptOf after).connected)
    (hconnected : (scriptOf now).connected ≤ (scriptOf after).connected)
    (hmore : ∀ event ∈ more, Concerns name start (scriptOf after).journal event)
    (hflag : ∀ handle, handle.number ≤ (scriptOf start).connected →
      start.registry.handle? name ≠ some handle →
        Engine.inTransaction handle after.outside = Engine.inTransaction handle now.outside) :
    Frames name start after where
  entries := by
    obtain ⟨entries, hentries, hof⟩ := h.entries
    refine ⟨entries ++ more, by rw [hjournal, hentries, List.append_assoc], ?_⟩
    refine List.forall_mem_append.mpr ⟨fun event hevent => ?_, hmore⟩
    rw [hjournal]
    exact (hof event hevent).append more
  joinings_length := hlength
  connected_le := Nat.le_trans h.connected_le hconnected
  flag_eq handle hnumber hother :=
    (hflag handle hnumber hother).trans (h.flag_eq handle hnumber hother)
  config_eq := by rw [hregistry, h.config_eq]
  path_eq := by rw [hregistry, h.path_eq]
  current handle hhandle := by
    rw [hregistry] at hhandle
    rw [hjournal]
    exact (h.current handle hhandle).append more
  others_eq := by rw [hregistry, h.others_eq]

theorem Frames.of_since {exchanges : List Exchange} (h : Frames name start now)
    (hbelongs : Belongs name start (scriptOf now).journal handle)
    (hsince : Since handle now exchanges after) : Frames name start after := by
  have hjournal := hsince.journal_eq
  refine h.of_journal hsince.registry_eq hjournal ?_ (Nat.le_of_eq hsince.connected_eq.symm) ?_ ?_
  · rw [hjournal, joinings_append, joinings_map_event, List.append_nil, hsince.connected_eq]
    exact h.joinings_length
  · rw [hjournal]
    exact List.forall_mem_map.mpr fun _ _ => hbelongs.append _
  · intro other hnumber hother
    exact hsince.others_eq other (hbelongs.ne hnumber hother)

theorem Frames.of_close (h : Frames name start now)
    (hbelongs : Belongs name start (scriptOf now).journal handle) :
    Frames name start (close handle now).2 := by
  have hjournal := close_snd_journal handle now
  have hconnected := close_snd_connected handle now
  refine h.of_journal rfl hjournal ?_ (Nat.le_of_eq hconnected.symm) ?_ ?_
  · rw [hjournal, hconnected, joinings_append, ← h.joinings_length]
    exact congrArg List.length (List.append_nil _)
  · rw [hjournal]
    exact List.forall_mem_singleton.mpr (hbelongs.append _)
  · intro other hnumber hother
    exact (touched_close handle now).flag_eq other (hbelongs.ne hnumber hother)

theorem connect_snd_journal (path : String) (timeout : Floating) (session : Session World) :
    (scriptOf (connect path timeout session).2).journal =
      (scriptOf session).journal ++ [.call (.connect path timeout) (scriptOf session).nextReply] :=
  Script.journal_connect _ _ _

theorem connect_snd_connected (path : String) (timeout : Floating) (session : Session World) :
    (scriptOf (connect path timeout session).2).connected = (scriptOf session).connected + 1 :=
  Script.connected_connect _ _ _

/-- A connection to the path of the name is asked for. -/
theorem Frames.of_connect (h : Frames name start now) :
    Frames name start
      (connect (start.registry.path name) start.registry.config.timeout now).2 := by
  have hjournal := connect_snd_journal (start.registry.path name) start.registry.config.timeout now
  have hconnected :=
    connect_snd_connected (start.registry.path name) start.registry.config.timeout now
  refine h.of_journal rfl hjournal ?_ (by omega) ?_ ?_
  · rw [hjournal, hconnected, joinings_append_connect, List.length_append, h.joinings_length]
    rfl
  · exact List.forall_mem_singleton.mpr ⟨rfl, rfl⟩
  · -- the number of the new connection is a later one than those at the start
    intro other hnumber _
    have hne : other ≠ (scriptOf now).nextHandle := by
      rintro rfl
      exact Nat.not_le_of_lt (Nat.lt_succ_of_le h.connected_le) hnumber
    exact (Script.inTransaction_connect _ _ _ other).trans (if_neg hne)

/-- If the connection comes about, it belongs to the name. -/
theorem Frames.ends_connect (h : Frames name start now) :
    Ends (fun handle after => Holds name start handle after)
      (fun _ after => Frames name start after)
      (connect (start.registry.path name) start.registry.config.timeout now) := by
  have hbelongs : (scriptOf now).nextReply.fault = none →
      Belongs name start
        (scriptOf (connect (start.registry.path name) start.registry.config.timeout now).2).journal
        (scriptOf now).nextHandle := by
    intro hnone
    refine .inr ⟨Nat.lt_succ_of_le h.connected_le, ?_⟩
    rw [connect_snd_journal, cameAbout_append_connect, h.joinings_length]
    exact .inr ⟨rfl, hnone⟩
  exact ends_answer (fun hnone => ⟨h.of_connect, hbelongs hnone⟩) fun _ _ => h.of_connect

theorem Frames.of_quiet {outside : World} (h : Frames name start session)
    (hquiet : World.Quiet session.outside outside) :
    Frames name start { session with outside } := by
  obtain ⟨notes, hscript⟩ := hquiet
  have hjournal := congrArg Script.journal hscript
  have hconnected := congrArg Script.connected hscript
  have hflag := fun handle => congrArg (Engine.inTransaction handle) hscript
  refine h.of_journal rfl hjournal ?_ (Nat.le_of_eq hconnected.symm) ?_ ?_
  · rw [hjournal, hconnected, joinings_append, joinings_map_note, List.append_nil]
    exact h.joinings_length
  · exact List.forall_mem_map.mpr fun _ _ => trivial
  · exact fun handle _ _ => hflag handle

/-! ### Changes of the registry -/

theorem Frames.of_registry {registry : Registry} (h : Frames name start session)
    (hconfig : registry.config = session.registry.config)
    (hpath : registry.path name = session.registry.path name)
    (hothers : registry.others name = session.registry.others name)
    (hcurrent : ∀ handle, registry.handle? name = some handle →
      Belongs name start (scriptOf session).journal handle) :
    Frames name start { session with registry } where
  entries := h.entries
  joinings_length := h.joinings_length
  connected_le := h.connected_le
  flag_eq := h.flag_eq
  config_eq := hconfig.trans h.config_eq
  path_eq := hpath.trans h.path_eq
  current := hcurrent
  others_eq := hothers.trans h.others_eq

theorem Frames.register (h : Frames name start session) :
    Frames name start { session with registry := session.registry.register name } := by
  refine h.of_registry (Registry.config_register _ _) (Registry.path_register _ _ _)
    (Registry.others_register _ _) fun handle hhandle => h.current handle ?_
  rwa [Registry.handle?_register] at hhandle

theorem Frames.setHandle {handle? : Option Handle} (h : Frames name start session)
    (hbelongs : ∀ handle, handle? = some handle →
      Belongs name start (scriptOf session).journal handle) :
    Frames name start { session with registry := session.registry.setHandle name handle? } := by
  refine h.of_registry (Registry.config_setHandle _ _ _) (Registry.path_setHandle _ _ _ _)
    (Registry.others_setHandle _ _ _) fun handle hhandle => ?_
  rcases Registry.of_handle?_setHandle hhandle with ⟨-, hfound⟩ | ⟨hne, -⟩
  · exact hbelongs handle hfound
  · exact absurd rfl hne

/-! ## What is done with the database of the name -/

theorem keeps_execute_holds (statement : Statement) :
    Keeps (Holds name start handle) (execute handle statement : Action World ResultSet) := by
  rintro now ⟨hframes, hbelongs⟩
  have hsince := since_execute handle statement now
  refine ⟨hframes.of_since hbelongs hsince, ?_⟩
  rw [hsince.journal_eq]
  exact hbelongs.append _

theorem keeps_close_holds :
    Keeps (Holds name start handle) (close handle : Action World Unit) := by
  rintro now ⟨hframes, hbelongs⟩
  refine ⟨hframes.of_close hbelongs, ?_⟩
  rw [close_snd_journal]
  exact hbelongs.append _

theorem Frames.ends_openHandle (h : Frames name start now) :
    Ends (fun handle after => Holds name start handle after)
      (fun _ after => Frames name start after)
      (openHandle start.registry.config (start.registry.path name) now) := by
  refine ends_bind h.ends_connect fun handle between hholds => ?_
  have hsetup : Keeps (Holds name start handle)
      ((executeEach handle start.registry.config.setup).cleaning (close handle)) :=
    keeps_cleaning (keeps_executeEach fun statement _ => keeps_execute_holds statement)
      keeps_close_holds
  refine ends_bind ((hsetup.ends hholds).mono (fun _ _ h => h) fun _ _ h => h.1) ?_
  exact fun _ after hafter => hafter

theorem Frames.ends_opened (h : Frames name start now) :
    Ends (fun handle after => Holds name start handle after)
      (fun _ after => Frames name start after) (opened name now) := by
  cases hhandle : now.registry.handle? name with
  | some handle =>
      rw [opened_of_handle hhandle]
      exact ⟨h, h.current handle hhandle⟩
  | none =>
      rw [opened_of_no_handle hhandle, h.config_eq, h.path_eq]
      refine ends_bind (ends_converting h.register.ends_openHandle) ?_
      rintro handle after ⟨hframes, hbelongs⟩
      refine ⟨hframes.setHandle fun found hfound => ?_, hbelongs⟩
      obtain rfl := Option.some.inj hfound
      exact hbelongs

/-- A batch of any statements, whether or not the database is open. -/
theorem keeps_runBatch_frames (statements : List Statement) :
    Keeps (Frames name start) (runBatch name statements : Action World (List Outcome)) := by
  intro now h
  unfold runBatch
  split
  · exact h
  · refine ends_state_iff.mp (ends_bind h.ends_opened fun handle between hholds => ?_)
    have htransaction : Keeps (Holds name start handle)
        (transaction handle (runFrom handle 0 statements) : Action World (List Outcome)) :=
      keeps_transaction (fun statement _ => keeps_execute_holds statement)
        fun statement _ => keeps_execute_holds statement
    exact ends_state_iff.mpr (keeps_converting htransaction between hholds).1

theorem frames_keptOn (name : String) (start : Session World) :
    KeptOn (Frames name start) name where
  batch statements _ := keeps_runBatch_frames statements
  opening now h := ends_state_iff.mp (h.ends_opened.mono (fun _ _ h => h.1) fun _ _ h => h)
  closing now h := by
    cases hhandle : now.registry.handle? name with
    | none =>
        rw [closed_of_no_handle hhandle]
        exact h
    | some handle =>
        rw [closed_of_handle hhandle]
        have hdropped : Frames name start
            { now with registry := now.registry.setHandle name none } := h.setHandle nofun
        exact hdropped.of_close (h.current handle hhandle)
  registering now h := h.register

end

end Workload

end SqlAccess
