import SqlAccess.Proofs.Workload.Turn

/-!
# Transactions bracket everything

Whatever a client does with plain statements, it is done in the transactions of
connections that were set up before, and behind each transaction its connection is
idle.  So in a whole run the invariant `Orderly` is kept from turn to turn, as long as
the engine is regular (`kept_turn`).

A batch adds a bracket to the life of its connection.  Opening a database is the only
case in which several things may become of the connection that is touched: it does
not come about, it is abandoned, or it is set up and registered, and each of them has
a lemma of its own.

Main result: the exchanges of every connection are those of its setup and then
brackets, and the connections in the registry are idle (`runGathered_bracketed`).
-/

namespace SqlAccess.Workload

open SqlAccess.Action

/-! ## What moves keep -/

/-- The invariant holds if the engine was regular so far. -/
structure Kept (config : Config) (session : Session World) : Prop where
  config_eq : session.registry.config = config
  orderly : Regular config (scriptOf session).journal → Orderly config session

section

variable {config : Config} {before between after session : Session World} {handle : Handle}
  {database : String} {exchanges : List Exchange}

theorem Kept.of_step (h : Kept config before)
    (hconfig : after.registry.config = before.registry.config)
    (hjournal : (scriptOf before).journal <+: (scriptOf after).journal)
    (hstep : Orderly config before → Regular config (scriptOf after).journal →
      Orderly config after) : Kept config after where
  config_eq := hconfig.trans h.config_eq
  orderly hregular := hstep (h.orderly (hregular.of_isPrefix hjournal)) hregular

/-- A transaction on a connection that is open. -/
theorem Kept.of_bracketed (h : Kept config before)
    (hopen : before.registry.handle? database = some handle)
    (hbracketed : Bracketed handle before after) : Kept config after := by
  obtain ⟨exchanges, hsince, hbracket⟩ := hbracketed
  refine h.of_step (congrArg _ hsince.registry_eq) hsince.touched.journal_isPrefix
    fun horderly hregular => ?_
  have hserving := horderly.serving database handle hopen
  -- the connection was idle, so what it exchanged since is a bracket
  rw [hsince.journal_eq] at hregular
  have hbracket := hbracket hserving.flag_eq hregular.isRegular
  obtain ⟨served, hserves, huses⟩ := hserving.serves
  have hafter : uses handle (scriptOf after).journal = (served ++ exchanges).map .exchange := by
    rw [hsince.uses_eq, huses, List.map_append]
  have hserving' : Serving config after handle :=
    { number_le := hsince.connected_eq ▸ hserving.number_le
      serves := ⟨_, hserves.append hbracket, hafter⟩
      flag_eq := by
        rw [hsince.flag_eq, hserving.flag_eq]
        exact hbracket.flagAfterAll_eq hregular.isRegular }
  refine horderly.of_touched hsince.touched hserving'.number_le ?_ ?_ ?_
  · rw [hafter]
    exact .serving (hserves.append hbracket)
  · intro name other hname
    rw [hsince.registry_eq] at hname
    by_cases hother : other = handle
    · exact .inr ⟨hother, hserving'⟩
    · exact .inl ⟨hother, hname⟩
  · intro name other hname hother
    rw [hsince.registry_eq] at hname hother
    exact horderly.injective name other handle hname hother

/-! ### Opening -/

/-- No connection came about. -/
theorem Kept.of_joins {reply : Reply} (h : Kept config before) (hjoins : Joins before reply after) :
    Kept config after := by
  refine h.of_step (congrArg _ hjoins.registry_eq) hjoins.touched.journal_isPrefix
    fun horderly _ => ?_
  refine horderly.of_touched_next hjoins.touched hjoins.registry_eq hjoins.connected_eq ?_
  rw [hjoins.uses_eq]
  exact horderly.lives _

/-- What a new connection was used for, are its exchanges. -/
theorem uses_of_joins {reply : Reply} (horderly : Orderly config before)
    (hjoins : Joins before reply between)
    (hsince : Since (scriptOf before).nextHandle between exchanges after) :
    uses (scriptOf before).nextHandle (scriptOf after).journal = exchanges.map .exchange := by
  have hfresh := (horderly.fresh (scriptOf before).nextHandle (Nat.lt_succ_self _)).1
  rw [hsince.uses_eq, hjoins.uses_eq, hfresh, List.nil_append]

/-- The setup failed, and the connection was closed. -/
theorem Kept.of_abandoned {reply : Reply} (h : Kept config before)
    (hjoins : Joins before reply between) (hfails : Fails config.setup exchanges)
    (hsince : Since (scriptOf before).nextHandle between exchanges after) :
    Kept config (close (scriptOf before).nextHandle after).2 := by
  have htouched := (hjoins.touched.trans hsince.touched).trans (touched_close _ after)
  have hregistry : (close (scriptOf before).nextHandle after).2.registry = before.registry := by
    rw [close_snd_registry, hsince.registry_eq, hjoins.registry_eq]
  have hconnected : (scriptOf (close (scriptOf before).nextHandle after).2).connected =
      (scriptOf before).connected + 1 := by
    rw [close_snd_connected, hsince.connected_eq, hjoins.connected_eq]
  refine h.of_step (congrArg _ hregistry) htouched.journal_isPrefix fun horderly _ => ?_
  refine horderly.of_touched_next htouched hregistry hconnected ?_
  rw [uses_close, uses_of_joins horderly hjoins hsince]
  exact .abandoned hfails

/-- Plain statements that succeed begin no transaction, and neither does connecting. -/
theorem inTransaction_of_setup {reply : Reply} (horderly : Orderly config before)
    (hjoins : Joins before reply between) (hpasses : Passes config.setup exchanges)
    (hsince : Since (scriptOf before).nextHandle between exchanges after)
    (hregular : Regular config (scriptOf after).journal) :
    Engine.inTransaction (scriptOf before).nextHandle after.outside = false := by
  have hreply : reply.IsIdle := by
    obtain ⟨path, timeout, hjournal⟩ := hjoins.journal_eq
    refine hregular.events (.call (.connect path timeout) reply) ?_
    rw [hsince.journal_eq, hjournal]
    simp
  -- so far nothing but the setup was sent on the connection
  have hidle : ∀ exchange ∈ exchanges, exchange.reply.IsIdle := by
    intro exchange hexchange
    refine hregular.setup (scriptOf before).nextHandle (.exchange exchange) ?_
    rw [uses_of_joins horderly hjoins hsince, ← List.map_take, hpasses.length_eq,
      List.take_length]
    exact List.mem_map_of_mem hexchange
  have hfresh := (horderly.fresh (scriptOf before).nextHandle (Nat.lt_succ_self _)).2
  rw [hsince.flag_eq, hjoins.flag_eq, hfresh, Exchange.getD_of_isIdle hreply]
  exact hpasses.flagAfterAll_eq (isPlain_setup config) hidle

/-- The setup succeeded, and the connection is registered. -/
theorem Kept.of_setup {reply : Reply} (h : Kept config before) (database : String)
    (hjoins : Joins before reply between) (hpasses : Passes config.setup exchanges)
    (hsince : Since (scriptOf before).nextHandle between exchanges after) :
    Kept config { after with
      registry := after.registry.setHandle database (some (scriptOf before).nextHandle) } := by
  have htouched := hjoins.touched.trans hsince.touched
  have hregistry : after.registry = before.registry := hsince.registry_eq.trans hjoins.registry_eq
  have hconfig : after.registry.config = before.registry.config := by rw [hregistry]
  refine h.of_step hconfig htouched.journal_isPrefix fun horderly hregular => ?_
  have huses := uses_of_joins horderly hjoins hsince
  have hserves : Serves config exchanges :=
    ⟨exchanges, [], hpasses, nofun, (List.append_nil _).symm⟩
  have hnumber : (scriptOf before).nextHandle.number ≤ (scriptOf after).connected := by
    rw [hsince.connected_eq]
    exact Nat.le_of_eq hjoins.connected_eq.symm
  have hflag := inTransaction_of_setup horderly hjoins hpasses hsince hregular
  -- the name that got the handle is the only one that has it
  have hhandle : ∀ name other,
      (before.registry.setHandle database (some (scriptOf before).nextHandle)).handle? name =
        some other →
      other ≠ (scriptOf before).nextHandle ∧ before.registry.handle? name = some other ∨
        other = (scriptOf before).nextHandle ∧ name = database := by
    intro name other hname
    rcases Registry.of_handle?_setHandle hname with ⟨hdatabase, hsome⟩ | ⟨-, hformer⟩
    · exact .inr ⟨(Option.some.inj hsome).symm, hdatabase⟩
    · exact .inl ⟨horderly.ne_nextHandle hformer, hformer⟩
  rw [hregistry]
  refine horderly.of_touched ⟨htouched.connected_le, htouched.journal_isPrefix,
    htouched.uses_eq, htouched.flag_eq⟩ hnumber ?_ ?_ ?_
  · exact huses ▸ .serving hserves
  · intro name other hname
    exact (hhandle name other hname).imp_right fun ⟨heq, _⟩ =>
      ⟨heq, hnumber, ⟨exchanges, hserves, huses⟩, hflag⟩
  · intro name other hname hother
    rcases hhandle name _ hname with ⟨hne, -⟩ | ⟨-, rfl⟩
    · exact absurd rfl hne
    · rcases hhandle other _ hother with ⟨hne, -⟩ | ⟨-, rfl⟩
      · exact absurd rfl hne
      · rfl

theorem kept_register (h : Kept config before) (name : String) :
    Kept config { before with registry := before.registry.register name } :=
  h.of_step (Registry.config_register _ _) (List.prefix_refl _) fun horderly _ =>
    horderly.congr (fun _ => Registry.handle?_register _ _ _) rfl
      (fun _ => rfl) fun _ => rfl

/-! ### Closing -/

theorem kept_closed (h : Kept config before)
    (hhandle : before.registry.handle? database = some handle) :
    Kept config
      (close handle { before with registry := before.registry.setHandle database none }).2 := by
  have htouched := touched_close handle
    { before with registry := before.registry.setHandle database none }
  refine h.of_step rfl htouched.journal_isPrefix fun horderly _ => ?_
  have hserving := horderly.serving database handle hhandle
  obtain ⟨exchanges, hserves, huses⟩ := hserving.serves
  -- the other names keep their handles, which are different ones
  have hothers : ∀ name other,
      (before.registry.setHandle database none).handle? name = some other →
        other ≠ handle ∧ before.registry.handle? name = some other := by
    intro name other hname
    rcases Registry.of_handle?_setHandle hname with ⟨-, ⟨⟩⟩ | ⟨hne, hformer⟩
    refine ⟨?_, hformer⟩
    rintro rfl
    exact hne (horderly.injective name database _ hformer hhandle)
  refine horderly.of_touched ⟨htouched.connected_le, htouched.journal_isPrefix,
    htouched.uses_eq, htouched.flag_eq⟩ ?_ ?_ ?_ ?_
  · exact Nat.le_trans hserving.number_le htouched.connected_le
  · rw [uses_close]
    exact huses ▸ .closed hserves
  · exact fun name other hname => .inl (hothers name other hname)
  · exact fun name other hname _ => absurd rfl (hothers name handle hname).1

/-! ### Drifting -/

theorem kept_drifted (h : Kept config before) {outside : World}
    (hquiet : World.Quiet before.outside outside) : Kept config { before with outside } := by
  obtain ⟨notes, hscript⟩ := hquiet
  have hjournal := congrArg Script.journal hscript
  have hconnected := congrArg Script.connected hscript
  have hflag := fun handle => congrArg (Engine.inTransaction handle) hscript
  refine h.of_step rfl ?_ fun horderly _ =>
    horderly.congr (fun _ => rfl) hconnected (fun handle => ?_) hflag
  · rw [hjournal]
    exact List.prefix_append _ _
  · rw [hjournal, uses_append, uses_map_note, List.append_nil]

/-! ### Every turn -/

theorem kept_turn (hturn : Turn plainScope before after) (h : Kept config before) :
    Kept config after := by
  have hconfig := h.config_eq
  cases hturn with
  | registered name => exact kept_register h name
  | refused _ hjoins => exact h.of_joins hjoins
  | abandoned _ hjoins hfails hsince => exact h.of_abandoned hjoins (hconfig ▸ hfails) hsince
  | @setUp between _ _ _ name _ _ _ hjoins hpasses hsince =>
      exact h.of_setup name hjoins (hconfig ▸ hpasses) hsince
  | @served name handle statements hopen hplain =>
      exact h.of_bracketed hopen (bracketed_transaction hplain handle before)
  | closed hhandle => exact kept_closed h hhandle
  | drifted hquiet => exact kept_drifted h hquiet

theorem stable_kept (config : Config) : Stable plainScope (Kept config) :=
  stable_of_turns kept_turn

end

/-! ## Whole runs -/

/-- A new session of a workload. -/
def newSession (config : Config) (replies : List Reply) (family : Family) : Session World where
  registry := { config }
  outside := { script := { replies }, family }

theorem kept_newSession (config : Config) (replies : List Reply) (family : Family) :
    Kept config (newSession config replies family) where
  config_eq := rfl
  orderly _ :=
    { lives := fun _ => .unused
      fresh := fun _ _ => ⟨rfl, rfl⟩
      serving := nofun
      injective := nofun }

/-- Whatever operations are run, in a new session or in one that moves have led to
since, as the operations of hooks are: when they have ended, each connection was set
up and then served brackets, and no connection in the registry is in a transaction. -/
theorem runGathered_bracketed {config : Config} {replies : List Reply} {family : Family}
    {session : Session World} {operations : List (Database × Operation)}
    (hreaches : Reaches plainScope (newSession config replies family) session)
    (hplain : AllPlain operations)
    (hregular : Regular config (scriptOf (runGathered operations session).2).journal) :
    let final := (runGathered operations session).2
    (∀ handle, Life config (uses handle (scriptOf final).journal)) ∧
      ∀ name handle, final.registry.handle? name = some handle →
        Engine.inTransaction handle final.outside = false := by
  have hfinal := hreaches.trans (reaches_runGathered operations hplain session)
  have hstable : Stable plainScope (Kept config) := stable_kept config
  have hkept := hstable.of_reaches hfinal (kept_newSession config replies family)
  have horderly := hkept.orderly hregular
  exact ⟨horderly.lives, fun name handle hname => (horderly.serving name handle hname).flag_eq⟩

/-- Two insertions into `notes`, in one batch. -/
def insertions : Task :=
  .batch [("INSERT INTO notes VALUES (1)", .list []), ("INSERT INTO notes VALUES (1)", .list [])]

/-- A new session on an engine that refuses the second one of them. -/
def refusing : Session World :=
  newSession {} (.replicate 7 {} ++ [{ fault := some (.reported (.engine .integrity) "taken") }]) {}

theorem runGathered_task (database : Database) (task : Task) (session : Session World) :
    (runGathered [(database, .task task)] session).2 = (task.run database session).2 := by
  unfold runGathered Operation.run runGathered
  rfl

theorem isPlain_insertions : insertions.IsPlain := by
  have hplain : Statement.IsPlain ⟨"INSERT INTO notes VALUES (1)", []⟩ := by decide
  simpa [insertions, Task.IsPlain] using hplain

theorem regular_insertions :
    Regular {} (scriptOf (insertions.run ⟨"notes"⟩ refusing).2).journal := by
  refine ⟨by decide +kernel, fun handle => ?_⟩
  by_cases hhandle : handle = ⟨1⟩
  · rw [hhandle]
    decide +kernel
  · -- no other connection is in the journal
    have hone : ∀ event ∈ (scriptOf (insertions.run ⟨"notes"⟩ refusing).2).journal,
        event.handle? = none ∨ event.handle? = some ⟨1⟩ := by decide +kernel
    have huses : uses handle (scriptOf (insertions.run ⟨"notes"⟩ refusing).2).journal = [] := by
      refine uses_eq_nil fun event hevent => ?_
      rcases hone event hevent with h | h <;> rw [h]
      · nofun
      · exact fun heq => hhandle (Option.some.inj heq).symm
    rw [huses, List.take_nil]
    nofun

/-- After two setup statements there is one bracket, and it is rolled back. -/
theorem runGathered_bracketed_insertions :
    let final := (runGathered [(⟨"notes"⟩, .task insertions)] refusing).2
    (uses ⟨1⟩ (scriptOf final).journal).length = 8 ∧
      (∀ handle, Life {} (uses handle (scriptOf final).journal)) ∧
      ∀ name handle, final.registry.handle? name = some handle →
        Engine.inTransaction handle final.outside = false := by
  have hfinal := runGathered_task ⟨"notes"⟩ insertions refusing
  have hregular := regular_insertions
  rw [← hfinal] at hregular
  refine ⟨?_, runGathered_bracketed .refl ⟨isPlain_insertions, trivial⟩ hregular⟩
  rw [hfinal]
  decide +kernel

end SqlAccess.Workload
