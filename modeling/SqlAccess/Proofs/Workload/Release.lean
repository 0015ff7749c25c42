import SqlAccess.Proofs.Workload.Opening

/-!
# Releasing all connections

The connections of a registry are closed one after the other in the order of their
registration, and each loses its handle before the engine is asked to close it.  So the
connection that the engine fails to close is open no more, and was asked to be closed like
those before it.  But it is the last one: the connections behind it stay open, and the
engine is never asked to close them (`Release.refused`).

This is an oversight of the library, which wants all connections to be closed at the end.
With two open connections and an engine that fails to close the first one, the second one
stays open (`closedAll_refusingFirst`).

Main result: whatever the registry and the replies are, the open connections fall into
those that were closed once and are open no more, and those behind them that were left
alone; there are none of the latter exactly if all went well or the last one of all failed
(`closedAll_release`).
-/

namespace SqlAccess

/-- The handles of the open connections, in the order of registration. -/
def Registry.openHandles (registry : Registry) : List Handle :=
  registry.connections.filterMap Connection.handle

namespace Workload

open SqlAccess.Action

/-- Connections are closed one after the other, up to the first one that the engine fails
to close; the others are left. -/
inductive Release : List Handle → List (Event Note) → List Handle → Except Fault Unit → Prop where
  | done : Release [] [] [] (.ok ())
  | closed {handle : Handle} {handles left : List Handle} {reply : Reply}
      {entries : List (Event Note)} {result : Except Fault Unit} :
      reply.fault = none → Release handles entries left result →
        Release (handle :: handles) (.call (.close handle) reply :: entries) left result
  | refused {handle : Handle} {handles : List Handle} {reply : Reply} {fault : Fault} :
      reply.fault = some fault →
        Release (handle :: handles) [.call (.close handle) reply] handles (.error fault)

section

variable {handles left : List Handle} {entries : List (Event Note)}
  {result : Except Fault Unit}

/-! ## What was closed and what was left -/

theorem closings_cons_close (handle other : Handle) (reply : Reply)
    (entries : List (Event Note)) :
    closings other (.call (.close handle) reply :: entries) =
      (if handle = other then 1 else 0) + closings other entries := by
  have hsingle : closings other ([] ++ [.call (.close handle) reply] : List (Event Note)) =
      0 + if handle = other then 1 else 0 := closings_append_close
  rw [← List.singleton_append, closings_append]
  exact congrArg (· + closings other entries) (hsingle.trans (Nat.zero_add _))

/-- The connections that were asked to be closed come first, and each of them was asked
once. -/
theorem Release.exists_closed (h : Release handles entries left result) (hnodup : handles.Nodup) :
    ∃ closed, handles = closed ++ left ∧
      ∀ handle, closings handle entries = if handle ∈ closed then 1 else 0 := by
  induction h with
  | done => exact ⟨[], rfl, fun _ => rfl⟩
  | @closed handle handles left reply entries result _ _ ih =>
      obtain ⟨hnew, hnodup⟩ := List.nodup_cons.mp hnodup
      obtain ⟨closed, rfl, hclosings⟩ := ih hnodup
      refine ⟨handle :: closed, rfl, fun other => ?_⟩
      rw [closings_cons_close, hclosings]
      by_cases hother : handle = other
      · have hnotMem : other ∉ closed := by
          rintro hmem
          exact hnew (hother ▸ List.mem_append_left _ hmem)
        simp [hother, hnotMem]
      · simp [hother, Ne.symm hother]
  | @refused handle handles reply fault _ =>
      refine ⟨[handle], rfl, fun other => ?_⟩
      rw [closings_cons_close]
      simp [closings, uses, eq_comm]

/-- If all went well, none is left. -/
theorem Release.left_eq_nil (h : Release handles entries left result) (hok : result = .ok ()) :
    left = [] := by
  induction h with
  | done => rfl
  | closed _ _ ih => exact ih hok
  | refused _ => cases hok

/-- If not, it is the last request that failed, and with this fault. -/
theorem Release.exists_refused {fault : Fault} (h : Release handles entries left result)
    (hfault : result = .error fault) :
    ∃ handle reply, entries.getLast? = some (.call (.close handle) reply) ∧
      reply.fault = some fault := by
  induction h with
  | done => cases hfault
  | @closed handle handles left reply entries result _ hrest ih =>
      obtain ⟨last, ended, hlast, hended⟩ := ih hfault
      refine ⟨last, ended, ?_, hended⟩
      rw [List.getLast?_cons, hlast]
      rfl
  | @refused handle handles reply fault hreply =>
      obtain rfl := Except.error.inj hfault
      exact ⟨handle, reply, rfl, hreply⟩

end

/-! ## Closing one connection after the other -/

section

variable {session : Session World} {first last : List Connection} {connection : Connection}

theorem connections_setHandle {registry : Registry} {handle : Option Handle}
    (hconnections : registry.connections = first ++ connection :: last)
    (hnodup : registry.names.Nodup) :
    (registry.setHandle connection.name handle).connections =
      first ++ { connection with handle } :: last := by
  rw [Registry.names, hconnections, List.map_append, List.map_cons, List.nodup_append] at hnodup
  obtain ⟨-, hlast, hfirst⟩ := hnodup
  have hkept : ∀ other ∈ first ++ last, other.name ≠ connection.name := by
    refine List.forall_mem_append.mpr ⟨fun other hother => ?_, fun other hother heq => ?_⟩
    · exact hfirst _ (List.mem_map_of_mem hother) _ List.mem_cons_self
    · exact (List.nodup_cons.mp hlast).1 (heq ▸ List.mem_map_of_mem hother)
  have hmap : ∀ others : List Connection, (∀ other ∈ others, other.name ≠ connection.name) →
      (others.map fun other =>
        if other.name = connection.name then { other with handle } else other) = others :=
    fun others hothers => (List.map_congr_left fun other hother =>
      if_neg (hothers other hother)).trans (List.map_id' others)
  obtain ⟨hfirst, hlast⟩ := List.forall_mem_append.mp hkept
  rw [Registry.setHandle, hconnections, List.map_append, List.map_cons, hmap first hfirst,
    hmap last hlast, if_pos rfl]

/-- Connections were released from a session to another one. -/
def Released (handles : List Handle) (before : Session World) (result : Except Fault Unit)
    (after : Session World) : Prop :=
  ∃ entries, (scriptOf before).Advances entries (scriptOf after) ∧
    Release handles entries after.registry.openHandles result

/-- The last connections of a registry are released if those before them are not open. -/
theorem ends_closedEach (hconnections : session.registry.connections = first ++ last)
    (hnodup : session.registry.names.Nodup)
    (hfirst : ∀ connection ∈ first, connection.handle = none) :
    Ends (fun _ => Released (last.filterMap Connection.handle) session (.ok ()))
      (fun fault => Released (last.filterMap Connection.handle) session (.error fault))
      (closedEach (last.map Connection.name) session) := by
  induction last generalizing first session with
  | nil =>
      have hnone : session.registry.openHandles = [] := by
        rw [Registry.openHandles, hconnections, List.append_nil]
        exact List.filterMap_eq_nil_iff.mpr hfirst
      refine ⟨[], .refl _, ?_⟩
      rw [hnone]
      exact .done
  | cons connection last ih =>
      have hhandle : session.registry.handle? connection.name = connection.handle :=
        Registry.handle?_of_mem hnodup (by simp [hconnections])
      have hfirst' : ∀ other ∈ first ++ [{ connection with handle := none }],
          other.handle = none :=
        List.forall_mem_append.mpr ⟨hfirst, List.forall_mem_singleton.mpr rfl⟩
      rw [List.map_cons, closedEach, bind_apply]
      cases hopen : connection.handle with
      | none =>
          have hsame : ({ connection with handle := none } : Connection) = connection := by
            rw [← hopen]
          rw [hsame] at hfirst'
          rw [closed_of_no_handle (hhandle.trans hopen), after_ok,
            List.filterMap_cons_none hopen]
          exact ih (by rw [hconnections, List.append_assoc]; rfl) hnodup hfirst'
      | some handle =>
          have hdropped : (session.registry.setHandle connection.name none).connections =
              (first ++ [{ connection with handle := none }]) ++ last := by
            rw [connections_setHandle hconnections hnodup, List.append_assoc]
            rfl
          rw [closed_of_handle (hhandle.trans hopen), List.filterMap_cons_some hopen,
            ← bind_apply]
          refine ends_bind ((ends_close_advances handle _).mono (fun _ _ h => h) ?_) ?_
          · rintro fault after ⟨hregistry, reply, hfault, hadvances⟩
            have hleft : after.registry.openHandles = last.filterMap Connection.handle := by
              rw [hregistry, Registry.openHandles, hdropped, List.filterMap_append,
                List.filterMap_eq_nil_iff.mpr hfirst', List.nil_append]
            refine ⟨_, hadvances, ?_⟩
            rw [hleft]
            exact .refused hfault
          · rintro _ between ⟨hregistry, reply, hnone, hadvances⟩
            have hnames : between.registry.names.Nodup := by
              rw [hregistry, Registry.names_setHandle]
              exact hnodup
            refine (ih (hregistry ▸ hdropped) hnames hfirst').mono ?_ ?_
            · rintro _ after ⟨entries, hmore, hrelease⟩
              exact ⟨_, hadvances.trans hmore, .closed hnone hrelease⟩
            · rintro fault after ⟨entries, hmore, hrelease⟩
              exact ⟨_, hadvances.trans hmore, .closed hnone hrelease⟩

theorem closedAll_released (hnodup : session.registry.names.Nodup) :
    Released session.registry.openHandles session (closedAll session).1 (closedAll session).2 := by
  have hreleased := ends_closedEach (List.nil_append session.registry.connections).symm hnodup nofun
  exact @ends_result_iff _ _ (Released session.registry.openHandles session) _ |>.mp hreleased

end

/-! ## Whole registries -/

section

variable {config : Config} {replies : List Reply} {family : Family} {session : Session World}

theorem Owned.nodup_openHandles (h : Owned config none session) :
    session.registry.openHandles.Nodup := by
  have hsame : ∀ connection ∈ session.registry.connections,
      ∀ other ∈ session.registry.connections, ∀ handle,
        connection.handle = some handle → other.handle = some handle → connection = other := by
    intro connection hmem other hother handle hhandle hsame
    rw [← Registry.handle?_of_mem h.nodup hmem] at hhandle
    rw [← Registry.handle?_of_mem h.nodup hother] at hsame
    exact List.inj_on_of_nodup_map h.nodup hmem hother (h.injective _ _ handle hhandle hsame)
  have hconnections : session.registry.connections.Nodup := h.nodup.of_map
  refine List.pairwise_filterMap.mpr (hconnections.imp_of_mem ?_)
  intro connection other hmem hother hne handle hhandle found hfound heq
  exact hne (hsame connection hmem other hother handle hhandle (heq ▸ hfound))

/-- In a session that any operations have led to, with any replies of the engine, the open
connections are closed in order, up to the first one that the engine fails to close: those
up to that one are asked to be closed once and are open no more, those behind it are never
asked and stay open.  If all goes well no connection is open at the end; otherwise the
fault is the one with which the last request failed. -/
theorem closedAll_release
    (hreaches : Reaches anyScope (newSession config replies family) session) :
    let ending := closedAll session
    let left := ending.2.registry.openHandles
    ∃ entries closed,
      (scriptOf session).Advances entries (scriptOf ending.2) ∧
      Release session.registry.openHandles entries left ending.1 ∧
      session.registry.openHandles = closed ++ left ∧
      (∀ handle ∈ closed, handle ∉ left ∧ closings handle entries = 1) ∧
      (∀ handle ∈ left, closings handle entries = 0) ∧
      (ending.1 = .ok () → left = []) ∧
      ∀ fault, ending.1 = .error fault → ∃ handle reply,
        entries.getLast? = some (.call (.close handle) reply) ∧ reply.fault = some fault := by
  intro ending left
  have hstable : Stable anyScope (Owned config none) := stable_owned config
  have howned := hstable.of_reaches hreaches (owned_newSession config replies family)
  have hnodup := howned.nodup_openHandles
  obtain ⟨entries, hadvances, hrelease⟩ := closedAll_released howned.nodup
  obtain ⟨closed, hhandles, hclosings⟩ := hrelease.exists_closed hnodup
  have hapart : ∀ handle ∈ closed, handle ∉ left := by
    rw [hhandles, List.nodup_append] at hnodup
    exact fun handle hclosed hleft => hnodup.2.2 handle hclosed handle hleft rfl
  refine ⟨entries, closed, hadvances, hrelease, hhandles, ?_, ?_, hrelease.left_eq_nil,
    fun fault => hrelease.exists_refused⟩
  · intro handle hclosed
    exact ⟨hapart handle hclosed, (hclosings handle).trans (if_pos hclosed)⟩
  · intro handle hleft
    exact (hclosings handle).trans (if_neg fun hclosed => hapart handle hclosed hleft)

/-- Two open databases, on an engine that fails to close the first connection. -/
def refusingFirst : Session World :=
  let refusal : Reply := { fault := some (.reported (.engine .operational) "unable to close") }
  let start := newSession {} (.replicate 6 {} ++ [refusal]) {}
  (opened "b.db" (opened "a.db" start).2).2

/-- The first connection is closed, the second one is left. -/
theorem closedAll_release_refusingFirst :
    let ending := closedAll refusingFirst
    let left := ending.2.registry.openHandles
    (refusingFirst.registry.openHandles = [⟨1⟩, ⟨2⟩] ∧ left = [⟨2⟩]) ∧
    ∃ entries closed,
      (scriptOf refusingFirst).Advances entries (scriptOf ending.2) ∧
      Release refusingFirst.registry.openHandles entries left ending.1 ∧
      refusingFirst.registry.openHandles = closed ++ left ∧
      (∀ handle ∈ closed, handle ∉ left ∧ closings handle entries = 1) ∧
      (∀ handle ∈ left, closings handle entries = 0) ∧
      (ending.1 = .ok () → left = []) ∧
      ∀ fault, ending.1 = .error fault → ∃ handle reply,
        entries.getLast? = some (.call (.close handle) reply) ∧ reply.fault = some fault := by
  have hreaches : Reaches anyScope (newSession {} _ {}) refusingFirst :=
    .tail (.single (.opening _ "a.db")) (.opening _ "b.db")
  exact ⟨⟨by decide +kernel, by decide +kernel⟩, closedAll_release hreaches⟩

/-- When all connections were to be closed, one is still open, and the engine was never
asked to close it. -/
theorem closedAll_refusingFirst :
    let ending := closedAll refusingFirst
    ¬ ((∀ connection ∈ ending.2.registry.connections, connection.isOpen = false) ∧
      ∀ handle ∈ refusingFirst.registry.openHandles,
        closings handle (scriptOf ending.2).journal = 1) ∧
    ending.1 = .error (.reported (.engine .operational) "unable to close") ∧
    ending.2.registry.openHandles = [⟨2⟩] ∧
    closings ⟨2⟩ (scriptOf ending.2).journal = 0 := by
  refine ⟨by decide +kernel, rfl, by decide +kernel, by decide +kernel⟩

end

end Workload

end SqlAccess
