import SqlAccess.Proofs.Engine.Connection
import SqlAccess.Proofs.Workload.Bracketing

/-!
# Who owns a connection

A connection of the engine that is open is owned: it is the handle of one name in the
registry.  While it is being set up or closed no name has it, and then it is in the
hands of the operation that does so.  So the invariant `Owned` says this of a session
and of a connection that is in hand, and each elementary step moves a connection from
one owner to another: it comes into being in hand (`Owned.of_joins`), is put into the
registry (`Owned.put`) and taken out again (`Owned.take`), and from the hand it is
closed (`Owned.of_close`).  Turns are made of these steps and leave nothing in hand
(`owned_turn`).

Main result: after any run, each connection that ever came about is the handle of
exactly one name and was never closed, or that of none and was closed exactly once,
and nothing was ever asked of a connection that was not open (`runGathered_owned`).
-/

namespace SqlAccess.Workload

open SqlAccess.Action

/-! ## The invariant -/

/-- Each open connection has one owner: a name in the registry, or who has it in
hand. -/
structure Owned (config : Config) (inHand : Option Handle) (session : Session World) : Prop where
  config_eq : session.registry.config = config
  nodup : session.registry.names.Nodup
  joinings_length : (joinings (scriptOf session).journal).length = (scriptOf session).connected
  disciplined : Disciplined (scriptOf session).journal
  isOpen_iff : ∀ handle, IsOpen handle (scriptOf session).journal ↔
    inHand = some handle ∨ ∃ name, session.registry.handle? name = some handle
  /-- What is in hand is not registered. -/
  apart : ∀ handle name, inHand = some handle → session.registry.handle? name ≠ some handle
  injective : ∀ name other handle, session.registry.handle? name = some handle →
    session.registry.handle? other = some handle → name = other
  setUp : ∀ name handle, session.registry.handle? name = some handle →
    ∃ setup, Passes config.setup setup ∧
      setup.map .exchange <+: uses handle (scriptOf session).journal

section

variable {config : Config} {inHand : Option Handle} {before after session : Session World}
  {handle : Handle} {name : String} {reply : Reply} {exchanges : List Exchange}

theorem Owned.isOpen_of_handle? (h : Owned config inHand session)
    (hname : session.registry.handle? name = some handle) :
    IsOpen handle (scriptOf session).journal :=
  (h.isOpen_iff handle).mpr (.inr ⟨name, hname⟩)

/-! ## Elementary steps -/

theorem Owned.register (h : Owned config inHand session) (name : String) :
    Owned config inHand { session with registry := session.registry.register name } where
  config_eq := (Registry.config_register _ _).trans h.config_eq
  nodup := Registry.nodup_names_register h.nodup name
  joinings_length := h.joinings_length
  disciplined := h.disciplined
  isOpen_iff handle := by
    simp only [Registry.handle?_register]
    exact h.isOpen_iff handle
  apart handle other := by
    simp only [Registry.handle?_register]
    exact h.apart handle other
  injective first second handle := by
    simp only [Registry.handle?_register]
    exact h.injective first second handle
  setUp other handle := by
    simp only [Registry.handle?_register]
    exact h.setUp other handle

/-- Nothing changed but the journal, in which no connection was opened or closed. -/
theorem Owned.of_journal (h : Owned config inHand before)
    (hregistry : after.registry = before.registry)
    (hlength : (joinings (scriptOf after).journal).length = (scriptOf after).connected)
    (hdisciplined : Disciplined (scriptOf after).journal)
    (hopen : ∀ handle, IsOpen handle (scriptOf after).journal ↔
      IsOpen handle (scriptOf before).journal)
    (huses : ∀ handle,
      uses handle (scriptOf before).journal <+: uses handle (scriptOf after).journal) :
    Owned config inHand after where
  config_eq := by rw [hregistry, h.config_eq]
  nodup := by rw [hregistry]; exact h.nodup
  joinings_length := hlength
  disciplined := hdisciplined
  isOpen_iff handle := by rw [hopen, hregistry]; exact h.isOpen_iff handle
  apart := by rw [hregistry]; exact h.apart
  injective := by rw [hregistry]; exact h.injective
  setUp name handle hname := by
    rw [hregistry] at hname
    obtain ⟨setup, hpasses, hprefix⟩ := h.setUp name handle hname
    exact ⟨setup, hpasses, hprefix.trans (huses handle)⟩

/-- Statements on an open connection. -/
theorem Owned.of_since (h : Owned config inHand before)
    (hopen : IsOpen handle (scriptOf before).journal)
    (hsince : Since handle before exchanges after) :
    Owned config inHand after := by
  have hjournal := hsince.journal_eq
  refine h.of_journal hsince.registry_eq ?_ ?_ ?_ ?_
  · rw [hjournal, joinings_append, joinings_map_event, List.append_nil, hsince.connected_eq]
    exact h.joinings_length
  · rw [hjournal]
    exact h.disciplined.append_exchanges hopen exchanges
  · intro other
    rw [hjournal]
    exact isOpen_append_exchanges exchanges
  · intro other
    rw [hjournal]
    exact uses_isPrefix_append other _ _

theorem Owned.of_refused (h : Owned config inHand before) (hfault : reply.fault.isSome)
    (hjoins : Joins before reply after) : Owned config inHand after := by
  obtain ⟨path, timeout, hjournal⟩ := hjoins.journal_eq
  refine h.of_journal hjoins.registry_eq ?_ ?_ ?_ ?_
  · rw [hjournal, joinings_append_connect, hjoins.connected_eq, List.length_append,
      h.joinings_length]
    rfl
  · rw [hjournal]
    exact h.disciplined.concat nofun
  · intro other
    rw [hjournal]
    exact isOpen_append_refused hfault
  · intro other
    rw [hjoins.uses_eq]

theorem Owned.of_quiet (h : Owned config inHand session) {outside : World}
    (hquiet : World.Quiet session.outside outside) :
    Owned config inHand { session with outside } := by
  obtain ⟨notes, hscript⟩ := hquiet
  have hjournal := congrArg Script.journal hscript
  have hconnected := congrArg Script.connected hscript
  refine h.of_journal rfl ?_ ?_ ?_ ?_
  · rw [hjournal, hconnected, joinings_append, joinings_map_note, List.append_nil]
    exact h.joinings_length
  · rw [hjournal]
    exact h.disciplined.append_notes notes
  · intro other
    rw [hjournal]
    exact isOpen_append_notes notes
  · intro other
    rw [hjournal]
    exact uses_isPrefix_append other _ _

/-- A connection that comes about is in hand, and was not used so far. -/
theorem Owned.of_joins (h : Owned config none before) (hfault : reply.fault = none)
    (hjoins : Joins before reply after) :
    Owned config (some (scriptOf before).nextHandle) after ∧
      uses (scriptOf before).nextHandle (scriptOf after).journal = [] := by
  obtain ⟨path, timeout, hjournal⟩ := hjoins.journal_eq
  have hnumber : (scriptOf before).nextHandle.number =
      (joinings (scriptOf before).journal).length + 1 := by
    rw [h.joinings_length]
    rfl
  -- the number is a new one, so nothing that is registered has it
  have hnever : ¬ CameAbout (scriptOf before).nextHandle (scriptOf before).journal := by
    rintro ⟨index, found, hindex, hfound, -⟩
    have hlt := (List.getElem?_eq_some_iff.mp hfound).1
    omega
  have huses := h.disciplined.uses_eq_nil hnever
  refine ⟨?_, by rw [hjoins.uses_eq, huses]⟩
  exact
    { config_eq := by rw [hjoins.registry_eq, h.config_eq]
      nodup := by rw [hjoins.registry_eq]; exact h.nodup
      joinings_length := by
        rw [hjournal, joinings_append_connect, hjoins.connected_eq, List.length_append,
          h.joinings_length]
        rfl
      disciplined := by
        rw [hjournal]
        exact h.disciplined.concat nofun
      isOpen_iff := by
        intro other
        rw [hjournal, h.disciplined.isOpen_append_connect hfault hnumber, h.isOpen_iff,
          hjoins.registry_eq]
        simp [or_comm, eq_comm]
      apart := by
        rintro other name hother hname
        obtain rfl := Option.some.inj hother
        rw [hjoins.registry_eq] at hname
        exact hnever (h.isOpen_of_handle? hname).1
      injective := by rw [hjoins.registry_eq]; exact h.injective
      setUp := by
        intro name other hname
        rw [hjoins.registry_eq] at hname
        rw [hjoins.uses_eq]
        exact h.setUp name other hname }

/-- A name without a connection gets the one that is in hand. -/
theorem Owned.put (h : Owned config (some handle) session)
    (hcontains : session.registry.contains name = true)
    (hnone : session.registry.handle? name = none) (hpasses : Passes config.setup exchanges)
    (huses : exchanges.map .exchange <+: uses handle (scriptOf session).journal) :
    Owned config none
      { session with registry := session.registry.setHandle name (some handle) } where
  config_eq := h.config_eq
  nodup := by rw [Registry.names_setHandle]; exact h.nodup
  joinings_length := h.joinings_length
  disciplined := h.disciplined
  isOpen_iff found := by
    rw [h.isOpen_iff]
    constructor
    · rintro (hfound | ⟨other, hother⟩)
      · exact .inr ⟨name, by rw [Registry.handle?_setHandle_self hcontains, hfound]⟩
      · refine .inr ⟨other, ?_⟩
        rwa [Registry.handle?_setHandle_of_ne]
        rintro rfl
        rw [hnone] at hother
        cases hother
    · rintro (hfound | ⟨other, hother⟩)
      · cases hfound
      · rcases Registry.of_handle?_setHandle hother with ⟨-, hfound⟩ | ⟨-, hformer⟩
        · exact .inl hfound
        · exact .inr ⟨other, hformer⟩
  apart := nofun
  injective first second found hfirst hsecond := by
    rcases Registry.of_handle?_setHandle hfirst with ⟨rfl, hfound⟩ | ⟨-, hformer⟩
    · rcases Registry.of_handle?_setHandle hsecond with ⟨rfl, -⟩ | ⟨-, hformer⟩
      · rfl
      · exact absurd hformer (h.apart found second hfound)
    · rcases Registry.of_handle?_setHandle hsecond with ⟨rfl, hfound⟩ | ⟨-, hformer'⟩
      · exact absurd hformer (h.apart found first hfound)
      · exact h.injective first second found hformer hformer'
  setUp other found hother := by
    rcases Registry.of_handle?_setHandle hother with ⟨-, hfound⟩ | ⟨-, hformer⟩
    · obtain rfl := Option.some.inj hfound
      exact ⟨exchanges, hpasses, huses⟩
    · exact h.setUp other found hformer

/-- The connection of a name is taken in hand. -/
theorem Owned.take (h : Owned config none session)
    (hhandle : session.registry.handle? name = some handle) :
    Owned config (some handle)
      { session with registry := session.registry.setHandle name none } := by
  -- what has a handle afterwards is another name, which had it before
  have hformer : ∀ {other found},
      (session.registry.setHandle name none).handle? other = some found →
        other ≠ name ∧ session.registry.handle? other = some found := by
    intro other found hother
    rcases Registry.of_handle?_setHandle hother with ⟨-, ⟨⟩⟩ | hformer
    exact hformer
  exact
    { config_eq := h.config_eq
      nodup := by rw [Registry.names_setHandle]; exact h.nodup
      joinings_length := h.joinings_length
      disciplined := h.disciplined
      isOpen_iff := by
        intro found
        rw [h.isOpen_iff]
        constructor
        · rintro (hfound | ⟨other, hother⟩)
          · cases hfound
          · by_cases heq : other = name
            · rw [← hhandle, ← heq]
              exact .inl hother
            · exact .inr ⟨other, by rwa [Registry.handle?_setHandle_of_ne heq]⟩
        · rintro (hfound | ⟨other, hother⟩)
          · exact .inr ⟨name, by rw [hhandle, hfound]⟩
          · exact .inr ⟨other, (hformer hother).2⟩
      apart := by
        rintro found other hfound hother
        obtain rfl := Option.some.inj hfound
        obtain ⟨hne, hother⟩ := hformer hother
        exact hne (h.injective other name _ hother hhandle)
      injective := fun first second found hfirst hsecond =>
        h.injective first second found (hformer hfirst).2 (hformer hsecond).2
      setUp := fun other found hother => h.setUp other found (hformer hother).2 }

/-- The connection in hand is closed, whether or not the engine fails to do so. -/
theorem Owned.of_close (h : Owned config (some handle) session) :
    Owned config none (close handle session).2 := by
  have hjournal := close_snd_journal handle session
  have hopen : IsOpen handle (scriptOf session).journal := (h.isOpen_iff handle).mpr (.inl rfl)
  exact
    { config_eq := h.config_eq
      nodup := h.nodup
      joinings_length := by
        rw [close_snd_connected, hjournal, joinings_append, List.length_append]
        exact h.joinings_length
      disciplined := by
        rw [hjournal]
        exact h.disciplined.append_close hopen
      isOpen_iff := by
        intro other
        rw [hjournal, isOpen_append_close, h.isOpen_iff]
        constructor
        · rintro ⟨hother | hregistered, hne⟩
          · exact absurd (Option.some.inj hother).symm hne
          · exact .inr hregistered
        · rintro (hother | ⟨name, hname⟩)
          · cases hother
          · refine ⟨.inr ⟨name, hname⟩, ?_⟩
            rintro rfl
            exact h.apart _ name rfl hname
      apart := nofun
      injective := h.injective
      setUp := by
        intro name other hname
        obtain ⟨setup, hpasses, hprefix⟩ := h.setUp name other hname
        refine ⟨setup, hpasses, hprefix.trans ?_⟩
        rw [hjournal]
        exact uses_isPrefix_append other _ _ }

/-! ## Whole runs -/

theorem owned_turn (hturn : Turn anyScope before after) (h : Owned config none before) :
    Owned config none after := by
  have hconfig := h.config_eq
  cases hturn with
  | registered name => exact h.register name
  | refused hfault hjoins => exact h.of_refused hfault hjoins
  | @abandoned between failed reply exchanges hfault hjoins _ hsince =>
      have hinHand := (h.of_joins hfault hjoins).1
      have hopen := (hinHand.isOpen_iff _).mpr (.inl rfl)
      exact (hinHand.of_since hopen hsince).of_close
  | @setUp between ready reply exchanges name hcontains hnone hfault hjoins hpasses hsince =>
      obtain ⟨hinHand, hunused⟩ := h.of_joins hfault hjoins
      have hopen := (hinHand.isOpen_iff _).mpr (.inl rfl)
      have hready := hinHand.of_since hopen hsince
      have hregistry := hsince.registry_eq.trans hjoins.registry_eq
      refine hready.put (hregistry ▸ hcontains) (hregistry ▸ hnone) (hconfig ▸ hpasses) ?_
      rw [hsince.uses_eq, hunused, List.nil_append]
  | @served name handle statements hhandle _ =>
      obtain ⟨exchanges, hsince⟩ := exists_since_transaction handle statements before
      exact h.of_since (h.isOpen_of_handle? hhandle) hsince
  | closed hhandle => exact (h.take hhandle).of_close
  | drifted hquiet => exact h.of_quiet hquiet

theorem stable_owned (config : Config) : Stable anyScope (Owned config none) :=
  stable_of_turns owned_turn

theorem owned_newSession (config : Config) (replies : List Reply) (family : Family) :
    Owned config none (newSession config replies family) where
  config_eq := rfl
  nodup := List.nodup_nil
  joinings_length := rfl
  disciplined := disciplined_nil
  isOpen_iff handle := by
    refine iff_of_false ?_ ?_
    · rintro ⟨⟨index, reply, -, hreply, -⟩, -⟩
      cases hreply
    · rintro (hnone | ⟨name, hname⟩)
      · cases hnone
      · cases hname
  apart := nofun
  injective := nofun
  setUp := nofun

theorem names_isPrefix_of_turn {scope : Scope World} (hturn : Turn scope before after) :
    before.registry.names <+: after.registry.names := by
  cases hturn with
  | registered name => exact Registry.names_isPrefix_register _ _
  | refused _ hjoins => rw [hjoins.registry_eq]
  | abandoned _ hjoins _ hsince => rw [close_snd_registry, hsince.registry_eq, hjoins.registry_eq]
  | setUp _ _ _ hjoins _ hsince =>
      rw [Registry.names_setHandle, hsince.registry_eq, hjoins.registry_eq]
  | @served name handle statements =>
      obtain ⟨exchanges, hsince⟩ := exists_since_transaction handle statements before
      rw [hsince.registry_eq]
  | closed => rw [close_snd_registry, Registry.names_setHandle]
  | drifted => exact List.prefix_refl _

/-- No name is ever removed, and new ones come last. -/
theorem names_isPrefix_of_reaches {scope : Scope World} (hreaches : Reaches scope before after) :
    before.registry.names <+: after.registry.names := by
  have hstable : Stable scope fun later => before.registry.names <+: later.registry.names :=
    @stable_of_turns scope (fun later => before.registry.names <+: later.registry.names)
      fun hturn hfirst => hfirst.trans (names_isPrefix_of_turn hturn)
  exact hstable.of_reaches hreaches (List.prefix_refl _)

/-- What is in the journal stays there. -/
theorem journal_isPrefix_of_turn (hturn : Turn anyScope before after) :
    (scriptOf before).journal <+: (scriptOf after).journal := by
  cases hturn with
  | registered name => exact List.prefix_refl _
  | refused _ hjoins => exact hjoins.touched.journal_isPrefix
  | abandoned _ hjoins _ hsince =>
      exact (hjoins.touched.trans hsince.touched).journal_isPrefix.trans
        (touched_close _ _).journal_isPrefix
  | setUp _ _ _ hjoins _ hsince =>
      exact (hjoins.touched.trans hsince.touched).journal_isPrefix
  | @served name handle statements =>
      obtain ⟨exchanges, hsince⟩ := exists_since_transaction handle statements before
      exact hsince.touched.journal_isPrefix
  | closed => exact (touched_close _ _).journal_isPrefix
  | drifted hdrifts =>
      obtain ⟨notes, hscript⟩ := hdrifts
      simp only [scriptOf, hscript]
      exact List.prefix_append _ _

/-- A connection that came about has one owner as long as it was not closed. -/
theorem Owned.owner_of_cameAbout (h : Owned config none session)
    (hcame : CameAbout handle (scriptOf session).journal) :
    (∃! connection, connection ∈ session.registry.connections ∧
        connection.handle = some handle) ∧ closings handle (scriptOf session).journal = 0 ∨
      (∀ connection ∈ session.registry.connections, connection.handle ≠ some handle) ∧
        closings handle (scriptOf session).journal = 1 := by
  have hclosings := h.disciplined.closings_le_one handle
  by_cases hzero : closings handle (scriptOf session).journal = 0
  · obtain hnone | ⟨name, hname⟩ := (h.isOpen_iff handle).mp ⟨hcame, hzero⟩
    · cases hnone
    · obtain ⟨connection, hmem, rfl, hhandle⟩ := Registry.exists_mem_of_handle? hname
      refine .inl ⟨⟨connection, ⟨hmem, hhandle⟩, ?_⟩, hzero⟩
      rintro other ⟨hother, hsame⟩
      have hfound := Registry.handle?_of_mem h.nodup hother
      rw [hsame] at hfound
      have hnames := h.injective _ _ handle hfound hname
      exact List.inj_on_of_nodup_map h.nodup hother hmem hnames
  · refine .inr ⟨fun connection hmem hhandle => hzero ?_, by omega⟩
    rw [← Registry.handle?_of_mem h.nodup hmem] at hhandle
    exact (h.isOpen_of_handle? hhandle).2

/-- Whatever operations are run, in a new session or in one that moves have led to
since, and whatever the engine replies: when they have ended, the names in the
registry are distinct, and those that were there before still come first; each
connection that ever came about is the handle of exactly one of them and was never
closed, or of none and was closed once; those in the registry were set up; and all
that was asked of a connection was asked while it was open. -/
theorem runGathered_owned {config : Config} {replies : List Reply} {family : Family}
    {session : Session World} {operations : List (Database × Operation)}
    (hreaches : Reaches anyScope (newSession config replies family) session) :
    let final := (runGathered operations session).2
    let journal := (scriptOf final).journal
    final.registry.names.Nodup ∧ session.registry.names <+: final.registry.names ∧
      (∀ handle, CameAbout handle journal →
        (∃! connection, connection ∈ final.registry.connections ∧
            connection.handle = some handle) ∧ closings handle journal = 0 ∨
          (∀ connection ∈ final.registry.connections, connection.handle ≠ some handle) ∧
            closings handle journal = 1) ∧
      (∀ connection ∈ final.registry.connections, ∀ handle, connection.handle = some handle →
        CameAbout handle journal ∧
          ∃ setup, Passes config.setup setup ∧ setup.map .exchange <+: uses handle journal) ∧
      Disciplined journal := by
  intro final journal
  have hfinal : Reaches anyScope session final := reaches_anyRunGathered operations session
  have hstable : Stable anyScope (Owned config none) := stable_owned config
  have howned : Owned config none final :=
    hstable.of_reaches (hreaches.trans hfinal) (owned_newSession config replies family)
  refine ⟨howned.nodup, names_isPrefix_of_reaches hfinal,
    fun handle hcame => howned.owner_of_cameAbout hcame, ?_, howned.disciplined⟩
  intro connection hmem handle hhandle
  rw [← Registry.handle?_of_mem howned.nodup hmem] at hhandle
  exact ⟨(howned.isOpen_of_handle? hhandle).1, howned.setUp connection.name handle hhandle⟩

/-- Tasks one after the other lead from session to session. -/
theorem runGathered_tasks (database : Database) (tasks : List Task) (session : Session World) :
    (runGathered (tasks.map fun task => (database, .task task)) session).2 =
      tasks.foldl (fun session task => (task.run database session).2) session := by
  induction tasks generalizing session with
  | nil =>
      rw [List.map_nil, runGathered]
      rfl
  | cons task tasks ih =>
      have hattempt : (task.run database).attempt session =
          (.ok (task.run database session).1, (task.run database session).2) := rfl
      rw [List.map_cons, runGathered, List.foldl_cons, ← ih]
      unfold Operation.run
      rw [bind_apply, hattempt, after_ok, bind_apply]
      generalize runGathered (tasks.map fun task => (database, .task task)) _ = ending
      obtain ⟨_ | _, _⟩ := ending <;> rfl

/-- A session on an engine that refuses the last setup statement and the closing after
it, lets the next connection be set up but refuses to close it, and then refuses a
connection. -/
def failing : Session World :=
  let refusal : Reply := { fault := some (.reported (.engine .operational) "disk I/O error") }
  newSession { journalMode := some .wal }
    [{}, {}, {}, refusal, refusal, {}, {}, {}, {}, refusal, refusal] {}

/-- Four attempts to connect, with a closing before the third: the first connection was
abandoned, the second one closed, the third one refused, and the fourth one is owned. -/
theorem runGathered_owned_failing :
    let final := (runGathered ([.connect, .connect, .close, .connect, .connect].map
      fun task => (⟨"notes"⟩, .task task)) failing).2
    let journal := (scriptOf final).journal
    (joinings journal).map (fun reply => reply.fault.isNone) = [true, true, false, true] ∧
      final.registry.handle? "notes" = some ⟨4⟩ ∧
      [⟨1⟩, ⟨2⟩, ⟨4⟩].map (closings · journal) = [1, 1, 0] ∧
      final.registry.names.Nodup ∧ failing.registry.names <+: final.registry.names ∧
      (∀ handle, CameAbout handle journal →
        (∃! connection, connection ∈ final.registry.connections ∧
            connection.handle = some handle) ∧ closings handle journal = 0 ∨
          (∀ connection ∈ final.registry.connections, connection.handle ≠ some handle) ∧
            closings handle journal = 1) ∧
      (∀ connection ∈ final.registry.connections, ∀ handle, connection.handle = some handle →
        CameAbout handle journal ∧
          ∃ setup, Passes failing.registry.config.setup setup ∧
            setup.map .exchange <+: uses handle journal) ∧
      Disciplined journal := by
  refine ⟨?_, ?_, ?_, runGathered_owned .refl⟩
  all_goals
    rw [runGathered_tasks]
    decide +kernel

end

end SqlAccess.Workload
