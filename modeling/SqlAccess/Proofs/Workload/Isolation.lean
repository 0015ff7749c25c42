import SqlAccess.Proofs.Entity.Giving
import SqlAccess.Proofs.Workload.Frame
import SqlAccess.Proofs.Workload.Ownership

/-!
# Databases do not interfere

An operation stays on the database of a name if it asks for nothing else
(`Operation.StaysOn`): the operations in it are on this database, no task closes all of
them or asks for another connection, and its entities are bound to it.

Which database an entity is on is not fixed once and for all.  An operation may bind
entities while it runs, and put instances into variables from which they are saved
later.  But it binds to its own database only, and the instances that it finds or stores
are of the entities that it names; so what is at home on the database at the start stays
so (`Homes`), and with it everything that the operation does concerns its own database
(`keeps_staying`).

Main result: such an operation leaves the connections of all other names, their order
and their transactions as they are, and asks the engine for nothing that concerns them,
whether it returns or fails (`run_isolated`).
-/

namespace SqlAccess

/-! ## Entities at home on a database -/

/-- An entity is bound to the database of the name, or to none. -/
def Family.AtHome (name : String) (family : Family) (entity : String) : Prop :=
  ∀ found, family.entity? entity = some found →
    ∀ database, found.database = some database → database.name = name

theorem Family.name_of_entity? {family : Family} {name : String} {entity : Entity}
    (h : family.entity? name = some entity) : entity.name = name := by
  obtain ⟨member, hmember, rfl⟩ := Option.map_eq_some_iff.mp h
  simpa using List.find?_some hmember

/-- The nearest binding in a lineage is the new one, or it was the nearest one before. -/
theorem findSome?_lookup_cons {number : Nat} {database found : Database} {lineage : List Nat}
    {bindings : List (Nat × Database)}
    (h : (lineage.findSome? fun ancestor => ((number, database) :: bindings).lookup ancestor) =
      some found) :
    found = database ∨
      (lineage.findSome? fun ancestor => bindings.lookup ancestor) = some found := by
  induction lineage with
  | nil => cases h
  | cons ancestor lineage ih =>
      rw [List.findSome?_cons, List.lookup_cons] at h
      rw [List.findSome?_cons]
      by_cases hnumber : ancestor == number
      · rw [hnumber] at h
        exact .inl (Option.some.inj h).symm
      · rw [Bool.not_eq_true] at hnumber
        rw [hnumber] at h
        cases hformer : bindings.lookup ancestor with
        | some former =>
            rw [hformer] at h
            exact .inr h
        | none =>
            rw [hformer] at h
            exact ih h

/-- Binding another entity to the database leaves what is at home there. -/
theorem Family.AtHome.bind {name : String} {family : Family} {entity : String}
    (h : family.AtHome name entity) {database : Database} (hdatabase : database.name = name)
    (other : String) : (family.bind other database).AtHome name entity := by
  unfold Family.bind
  split
  · rename_i number hnumber
    intro found hfound bound hbound
    obtain ⟨member, hmember, rfl⟩ := Option.map_eq_some_iff.mp hfound
    rcases findSome?_lookup_cons hbound with rfl | hformer
    · exact hdatabase
    · exact h _ (Option.map_eq_some_iff.mpr ⟨member, hmember, rfl⟩) bound hformer
  · exact h

namespace Workload

open SqlAccess.Action

/-- If there is an instance in a variable, its entity is at home on the database. -/
def World.HoldsHome (name : String) (world : World) (slot : String) : Prop :=
  ∀ item, world.holding? slot = some (.item item) → world.family.AtHome name item.entity

/-- What was at home on the database at the start still is. -/
structure Homes (name : String) (start now : World) : Prop where
  entities : ∀ entity, start.family.AtHome name entity → now.family.AtHome name entity
  /-- What variables hold since is of entities that were at home from the start. -/
  slots : ∀ slot, start.HoldsHome name slot → ∀ item, now.holding? slot = some (.item item) →
    start.family.AtHome name item.entity

namespace Homes

variable {name : String} {start now after : World}

theorem refl (name : String) (start : World) : Homes name start start where
  entities _ h := h
  slots _ h := h

theorem of_eq (h : Homes name start now) (hfamily : after.family = now.family)
    (hslots : after.slots = now.slots) : Homes name start after where
  entities := by rw [hfamily]; exact h.entities
  slots := by
    unfold World.holding?
    rw [hslots]
    exact h.slots

theorem bind (h : Homes name start now) {database : Database} (hdatabase : database.name = name)
    (entity : String) :
    Homes name start { now with family := now.family.bind entity database } where
  entities other hother := (h.entities other hother).bind hdatabase entity
  slots := h.slots

theorem setVariable (h : Homes name start now) {slot : String} {holding : Holding}
    (hholding : start.HoldsHome name slot → ∀ item, holding = .item item →
      start.family.AtHome name item.entity) :
    Homes name start (now.setVariable slot holding) where
  entities := h.entities
  slots other hother item hitem := by
    simp only [World.setVariable, World.holding?, List.lookup_cons] at hitem
    split at hitem
    · rename_i hslot
      rw [beq_iff_eq] at hslot
      exact hholding (hslot ▸ hother) item (Option.some.inj hitem)
    · exact h.slots other hother item hitem

end Homes

/-! ## Operations that stay on a database -/

/-- A task asks for nothing but the database of the name. -/
def Task.StaysOn (name : String) (world : World) : Task → Prop
  | .closeAll => False
  | .connection other => other = name
  | .entity called _ _ => world.family.AtHome name called
  | .item slot .save | .item slot .destroy => world.HoldsHome name slot
  | _ => True

mutual

/-- An operation asks for nothing but the database of the name. -/
def Operation.StaysOn (name : String) (world : World) : Operation → Prop
  | .task task => task.StaysOn name world
  | .gather operations => AllStayOn name world operations
  | .migrate _ hooks => HooksStayOn name world hooks

/-- Operations on the database of the name. -/
def AllStayOn (name : String) (world : World) : List (Database × Operation) → Prop
  | [] => True
  | (database, operation) :: operations =>
      (database.name = name ∧ operation.StaysOn name world) ∧ AllStayOn name world operations

/-- Hooks whose operations are on the database of the name. -/
def HooksStayOn (name : String) (world : World) :
    List (Hook × List (Database × Operation)) → Prop
  | [] => True
  | (_, operations) :: hooks => AllStayOn name world operations ∧ HooksStayOn name world hooks

end

section

variable {name : String} {world : World}

theorem allStayOn_iff {operations : List (Database × Operation)} :
    AllStayOn name world operations ↔
      ∀ entry ∈ operations, entry.1.name = name ∧ entry.2.StaysOn name world := by
  induction operations with
  | nil => simp [AllStayOn]
  | cons head operations ih => rw [AllStayOn, ih, List.forall_mem_cons]

theorem hooksStayOn_iff {hooks : List (Hook × List (Database × Operation))} :
    HooksStayOn name world hooks ↔ ∀ hook ∈ hooks, AllStayOn name world hook.2 := by
  induction hooks with
  | nil => simp [HooksStayOn]
  | cons head hooks ih => rw [HooksStayOn, ih, List.forall_mem_cons]

end

/-! ## What entities answer -/

theorem Holding.eq_of_instanceFor {wanted : String} {holding : Holding} {item : Instance}
    (h : holding.instanceFor wanted = .ok item) : holding = .item item := by
  cases holding <;> cases h
  rfl

/-- Only instances have fields that can be set, and they stay of their entity. -/
theorem Holding.exists_of_set {field : String} {content : Value} {holding : Holding}
    {item : Instance} (h : holding.set field content = .ok item) :
    ∃ former, holding = .item former ∧ item.entity = former.entity := by
  cases holding with
  | item former => exact ⟨former, rfl, Instance.entity_of_set h⟩
  | value _ => cases h
  | items _ => cases h
  | statement _ => cases h

/-- If a variable can hold the answer as an instance, it is one of the entity. -/
def Answer.IsOf (entity : String) (answer : Answer) : Prop :=
  ∀ item, answer.holding? = some (.item item) → item.entity = entity

theorem Answer.isOf_ofOption {entity : Entity} {found : Option Instance} (h : entity.Owns found) :
    (Answer.ofOption .item found).IsOf entity.name := by
  cases found with
  | none => nofun
  | some item =>
      intro other hother
      cases hother
      exact h item rfl

/-- A cursor that was left does not tell its statement any more. -/
theorem Departure.answer_statement_ne_ok {departure : Departure} {cursor : Cursor Value}
    {next : Option Invocation} {answer : Answer} :
    departure.answer cursor next .statement ≠ .ok answer := by
  intro h
  unfold Departure.answer at h
  cases departure with
  | pending => cases next <;> cases h
  | statement =>
      obtain ⟨statement, -, h⟩ := exists_of_bind_eq_ok h
      cases next <;> cases h

theorem gives_statement {α : Type} (entity : String) (cursor : Cursor α)
    (steps : List CursorStep) :
    Gives (Answer.IsOf entity) (CursorTask.statement.runAfter cursor steps) := by
  refine gives_bind_last fun refined => ?_
  split
  · exact gives_bind_last fun _ => gives_pure nofun
  · exact gives_lift fun _ hanswer => absurd hanswer Departure.answer_statement_ne_ok

/-- What an entity answers is of its own. -/
theorem gives_entityTask (entity : Entity) (task : EntityTask) :
    Gives (Answer.IsOf entity.name) (task.run entity) := by
  have hfound : ∀ {action : Action World (Option Instance)}, Gives entity.Owns action →
      Gives (Answer.IsOf entity.name) (do return .ofOption .item (← action)) := fun h =>
    gives_bind h fun _ howns => gives_pure (Answer.isOf_ofOption howns)
  cases task with
  | create record => exact hfound (entity.gives_create record)
  | update record => exact hfound (entity.gives_update record)
  | query description =>
      exact gives_bind_last fun _ => gives_bind_last fun _ => gives_pure nofun
  | instantiate fields =>
      refine gives_bind_lift fun item hitem => gives_pure fun other hother => ?_
      cases hother
      exact Entity.entity_of_instantiate hitem
  | statement steps => exact gives_bind_last fun cursor => gives_statement _ cursor steps
  | findBy column operator value => exact hfound (entity.gives_findBy column operator value)
  | find key => exact hfound (entity.gives_find key)
  | first => exact hfound entity.gives_first
  | last => exact hfound entity.gives_last
  | count => exact gives_bind_last fun _ => gives_pure nofun
  | all => exact gives_bind_last fun _ => gives_pure nofun
  | destroy key => exact gives_bind_last fun _ => gives_pure nofun
  | destroyAll => exact gives_bind_last fun _ => gives_pure nofun
  | refused call => exact gives_throw _

/-! ## Staying on a database -/

/-- All that happened since the start concerns the database of the name, and what was at
home there still is. -/
def Confined (name : String) (start now : Session World) : Prop :=
  Frames name start now ∧ Homes name start.outside now.outside

section

variable {name : String} {start : Session World}

/-- The engine knows nothing of entities and variables. -/
theorem keeps_request_homes {α : Type}
    (ask : Script Note → Except Fault α × Script Note) :
    Keeps (fun now => Homes name start.outside now.outside) (request (World.ask ask)) :=
  fun _ h => h.of_eq rfl rfl

theorem keeps_runBatch_homes (statements : List Statement) :
    Keeps (fun now => Homes name start.outside now.outside)
      (runBatch name statements : Action World (List Outcome)) :=
  keeps_runBatch name (fun _ _ h => h) (fun _ _ => keeps_request_homes _)
    (fun _ _ => keeps_request_homes _) (fun _ => keeps_request_homes _) statements

theorem homes_keptOn (name : String) (start : Session World) :
    KeptOn (fun now => Homes name start.outside now.outside) name where
  batch statements _ := keeps_runBatch_homes statements
  opening := keeps_opened name (fun _ _ h => h) (fun _ _ => keeps_request_homes _)
    (fun _ _ => keeps_request_homes _) fun _ => keeps_request_homes _
  closing := keeps_closed name (fun _ _ h => h) fun _ => keeps_request_homes _
  registering := keeps_registering name fun _ _ h => h

theorem confined_keptOn (name : String) (start : Session World) :
    KeptOn (Confined name start) name :=
  (frames_keptOn name start).and (homes_keptOn name start)

theorem keeps_runBatch_confined (statements : List Statement) :
    Keeps (Confined name start) (runBatch name statements : Action World (List Outcome)) :=
  (keeps_runBatch_frames statements).and (keeps_runBatch_homes statements)

theorem keeps_modifyOutside_confined {change : World → World}
    (hquiet : ∀ world, World.Quiet world (change world))
    (hhomes : ∀ now, Homes name start.outside now → Homes name start.outside (change now)) :
    Keeps (Confined name start) (modifyOutside change) :=
  fun now h => ⟨h.1.of_quiet (hquiet now.outside), hhomes now.outside h.2⟩

theorem keeps_note_confined (entry : Note) : Keeps (Confined name start) (note entry) :=
  keeps_modifyOutside_confined (fun _ => ⟨[entry], rfl⟩) fun _ h => h.of_eq rfl rfl

theorem keeps_setVariable_confined {slot : String} {holding : Holding}
    (hholding : start.outside.HoldsHome name slot → ∀ item, holding = .item item →
      start.outside.family.AtHome name item.entity) :
    Keeps (Confined name start) (modifyOutside fun world => world.setVariable slot holding) :=
  keeps_modifyOutside_confined (fun _ => World.quiet_of_script_eq rfl) fun _ h =>
    h.setVariable hholding

/-- An entity that was at home at the start is at home when it is asked for. -/
theorem keeps_bind_entityOf {α : Type} {entity : String} {next : Entity → Action World α}
    (hhome : start.outside.family.AtHome name entity)
    (hnext : ∀ found : Entity, found.name = entity →
      (∀ database, found.database = some database → KeptOn (Confined name start) database.name) →
        Keeps (Confined name start) (next found)) :
    Keeps (Confined name start) (entityOf entity >>= next) := by
  intro now h
  unfold entityOf
  rw [bind_assoc]
  simp only [outside, bind_apply, after_ok]
  cases hfound : now.outside.family.entity? entity with
  | none => exact h
  | some found =>
      refine hnext found (Family.name_of_entity? hfound) (fun database hdatabase => ?_) now h
      rw [h.2.entities entity hhome found hfound database hdatabase]
      exact confined_keptOn name start

/-- What a variable holds when it is asked for, is of an entity that was at home. -/
theorem keeps_bind_holdingOf {α : Type} {slot : String} {next : Holding → Action World α}
    (hnext : ∀ holding, (start.outside.HoldsHome name slot → ∀ item, holding = .item item →
      start.outside.family.AtHome name item.entity) → Keeps (Confined name start) (next holding)) :
    Keeps (Confined name start) (holdingOf slot >>= next) := by
  intro now h
  unfold holdingOf
  rw [bind_assoc]
  simp only [outside, bind_apply, after_ok]
  cases hholding : now.outside.holding? slot with
  | none => exact h
  | some holding =>
      refine hnext holding (fun hhome item hitem => ?_) now h
      exact h.2.slots slot hhome item (hitem ▸ hholding)

end

/-! ## Every operation -/

section

variable {name : String} {start : Session World}

theorem keeps_instanceTask_confined {slot : String} {task : InstanceTask}
    (hstays : Task.StaysOn name start.outside (.item slot task)) {holding : Holding}
    (hholding : start.outside.HoldsHome name slot → ∀ item, holding = .item item →
      start.outside.family.AtHome name item.entity) :
    Keeps (Confined name start) (task.run slot holding) := by
  cases task with
  | set field value =>
      refine keeps_bind_lift fun item hset => ?_
      refine keeps_bind (keeps_setVariable_confined fun hhome found hfound => ?_)
        fun _ => keeps_pure _
      cases hfound
      obtain ⟨former, rfl, hentity⟩ := Holding.exists_of_set hset
      rw [hentity]
      exact hholding hhome former rfl
  | save =>
      refine keeps_bind_lift fun item hitem => ?_
      have hhome := hholding hstays item (Holding.eq_of_instanceFor hitem)
      refine keeps_bind_entityOf hhome fun entity _ hkept => ?_
      refine keeps_bind_gives (entity.keeps_save hkept item) (entity.gives_save item) ?_
      rintro ⟨stored, saved⟩ hsaved
      refine keeps_bind (keeps_setVariable_confined fun _ found hfound => ?_) fun _ => keeps_pure _
      cases hfound
      rw [hsaved]
      exact hhome
  | destroy =>
      refine keeps_bind_lift fun item hitem => ?_
      have hhome := hholding hstays item (Holding.eq_of_instanceFor hitem)
      refine keeps_bind_entityOf hhome fun entity _ hkept => ?_
      exact keeps_bind (entity.keeps_destroyInstance hkept item) fun _ => keeps_pure _
  | _ => exact keeps_reading slot holding trivial

theorem keeps_task_confined {database : Database} (hdatabase : database.name = name) {task : Task}
    (hstays : task.StaysOn name start.outside) :
    Keeps (Confined name start) (task.run database) := by
  have hkept : KeptOn (Confined name start) database.name := hdatabase ▸ confined_keptOn name start
  have hexecuteAll : ∀ statements, Keeps (Confined name start)
      (database.executeAll statements : Action World (List Outcome)) := by
    intro statements
    unfold Database.executeAll
    rw [hdatabase]
    exact keeps_runBatch_confined statements
  cases task with
  | closeAll => exact hstays.elim
  | connection other =>
      obtain rfl : other = name := hstays
      exact keeps_bind (confined_keptOn other start).registering fun _ => keeps_pure _
  | execute sql params => exact keeps_executeTask database hexecuteAll sql params
  | batch requests => exact keeps_batchTask database hexecuteAll requests
  | bind entity =>
      refine keeps_bind (keeps_entityOf entity) fun _ => keeps_bind ?_ fun _ => keeps_pure _
      exact keeps_modifyOutside_confined (fun _ => World.quiet_of_script_eq rfl) fun _ h =>
        h.bind hdatabase entity
  | entity called task slot =>
      refine keeps_bind_entityOf hstays fun entity hcalled hbound => ?_
      refine keeps_bind_gives (keeps_entityTask entity hbound task)
        (gives_entityTask entity task) fun answer hanswer => ?_
      split
      · rename_i hholding
        refine keeps_bind (keeps_setVariable_confined fun _ item hitem => ?_) fun _ => keeps_pure _
        rw [hanswer item (hitem ▸ (Prod.mk.inj hholding).2), hcalled]
        exact hstays
      · exact keeps_pure _
  | item slot task =>
      exact keeps_bind_holdingOf fun holding hholding =>
        keeps_instanceTask_confined hstays hholding
  | _ => exact keeps_request database hkept trivial

/-- What an operation does that stays on a database concerns this one. -/
theorem keeps_staying {database : Database} (hdatabase : database.name = name)
    {operation : Operation} (hstays : operation.StaysOn name start.outside) :
    Keeps (Confined name start) (operation.run database) := by
  induction operation using Operation.induction generalizing database with
  | task task =>
      unfold Operation.run
      exact keeps_task_confined hdatabase hstays
  | gather operations ih =>
      unfold Operation.run
      have hoperations := allStayOn_iff.mp hstays
      have hgathered := keeps_runGathered fun entry hentry =>
        ih entry hentry (hoperations entry hentry).1 (hoperations entry hentry).2
      exact keeps_bind hgathered fun _ => keeps_pure _
  | migrate target hooks ih =>
      have hhooks := hooksStayOn_iff.mp hstays
      refine keeps_migration keeps_note_confined database
        (hdatabase ▸ confined_keptOn name start) target fun hook hhook entry hentry => ?_
      have hentries := allStayOn_iff.mp (hhooks hook hhook) entry hentry
      exact ih hook hhook entry hentry hentries.1 hentries.2

end

/-! ## Main result -/

/-- Handles number the requests for a connection. -/
theorem Owned.number_le {config : Config} {inHand : Option Handle} {session : Session World}
    (h : Owned config inHand session) {name : String} {handle : Handle}
    (hname : session.registry.handle? name = some handle) :
    handle.number ≤ (scriptOf session).connected := by
  rw [← h.joinings_length]
  exact (h.isOpen_of_handle? hname).1.number_le

/-- An operation that stays on a database does not interfere with the others, in whatever
session it is run, whatever the engine replies, and however it ends: it asks the engine
only for a connection to the path of its own database, and for something on the
connection that this one had or got since; the connections of all other names, with
their handles, are what they were, in the same order; names that are new come last; and
none of the other connections has begun or ended a transaction. -/
theorem run_isolated {config : Config} {replies : List Reply} {family : Family}
    {session : Session World} {database : Database} {operation : Operation}
    (hreaches : Reaches anyScope (newSession config replies family) session)
    (hstays : operation.StaysOn database.name session.outside) :
    let final := (operation.run database session).2
    (∃ entries, (scriptOf final).journal = (scriptOf session).journal ++ entries ∧
        ∀ event ∈ entries, Concerns database.name session (scriptOf final).journal event) ∧
      final.registry.others database.name = session.registry.others database.name ∧
      session.registry.names <+: final.registry.names ∧
      ∀ connection ∈ session.registry.others database.name, ∀ handle,
        connection.handle = some handle →
          Engine.inTransaction handle final.outside =
            Engine.inTransaction handle session.outside := by
  intro final
  have hstable : Stable anyScope (Owned config none) := stable_owned config
  have howned : Owned config none session :=
    hstable.of_reaches hreaches (owned_newSession config replies family)
  have hstart : Confined database.name session session :=
    ⟨.refl howned.joinings_length, .refl _ _⟩
  have hframes : Frames database.name session final := (keeps_staying rfl hstays session hstart).1
  have hfinal : Reaches anyScope session final :=
    keeps_anyOperation (Stable.reaches anyScope session) database operation session .refl
  refine ⟨hframes.entries, hframes.others_eq, names_isPrefix_of_reaches hfinal, ?_⟩
  intro connection hconnection handle hhandle
  obtain ⟨hmem, hname⟩ := Registry.mem_others.mp hconnection
  rw [← Registry.handle?_of_mem howned.nodup hmem] at hhandle
  -- a handle has one name, so it is not the one of this database
  refine hframes.flag_eq handle (howned.number_le hhandle) fun hsame => ?_
  exact hname (howned.injective _ _ handle hhandle hsame)

/-- A new session on an engine that begins a transaction on the second connection, and
refuses what it is asked for after some time. -/
def crowded : Session World :=
  let begun : Reply := { inTransaction := some true }
  let refusal : Reply := { fault := some (.reported (.engine .integrity) "taken") }
  newSession {} (.replicate 5 {} ++ begun :: .replicate 8 {} ++ [refusal]) {}

/-- Two databases were opened, and one of them was closed again. -/
def sharing : Session World :=
  let opened := (Task.connect.run ⟨"other"⟩ (Task.connect.run ⟨"notes"⟩ crowded).2).2
  (Task.close.run ⟨"notes"⟩ opened).2

theorem reaches_sharing : Reaches anyScope crowded sharing := by
  have hstable : Stable anyScope (Reaches anyScope crowded) := Stable.reaches anyScope crowded
  have hconnect : ∀ database, Keeps (Reaches anyScope crowded) (Task.connect.run database) :=
    fun database => keeps_anyTask hstable database .connect
  exact keeps_anyTask hstable ⟨"notes"⟩ .close _
    (hconnect ⟨"other"⟩ _ (hconnect ⟨"notes"⟩ crowded .refl))

/-- The database that was closed is opened once more for two insertions, and when the
engine refuses the second one, they are rolled back; the other one keeps its connection
and its transaction. -/
theorem run_isolated_sharing :
    let final := ((Operation.task insertions).run ⟨"notes"⟩ sharing).2
    (final.registry.handle? "notes" = some ⟨3⟩ ∧ final.registry.handle? "other" = some ⟨2⟩ ∧
        (uses ⟨3⟩ (scriptOf final).journal).length = 8 ∧
        Engine.inTransaction ⟨2⟩ final.outside = true) ∧
      (∃ entries, (scriptOf final).journal = (scriptOf sharing).journal ++ entries ∧
        ∀ event ∈ entries, Concerns "notes" sharing (scriptOf final).journal event) ∧
      final.registry.others "notes" = sharing.registry.others "notes" ∧
      sharing.registry.names <+: final.registry.names ∧
      ∀ connection ∈ sharing.registry.others "notes", ∀ handle,
        connection.handle = some handle →
          Engine.inTransaction handle final.outside =
            Engine.inTransaction handle sharing.outside := by
  refine ⟨?_, run_isolated reaches_sharing trivial⟩
  unfold Operation.run
  decide +kernel

end Workload

end SqlAccess
