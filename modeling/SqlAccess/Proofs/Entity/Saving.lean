import SqlAccess.Proofs.Entity.Updating
import SqlAccess.Workload.Run

/-!
# Saving instances

To save an instance takes at most two batches.  The first one writes what the instance has
in its fields: an insertion if the primary key is not set, and otherwise an update of the row
that has it, unless there is nothing to update.  The second one asks for the row, and from
its answer the instance is refreshed (`Saves`).

The fields of the instance change at the very end only.  So they are refreshed as a whole
from the row that was read, or they are what they were (`SaveEnds`), whichever of the
requests fails.

Main result: each task to save an instance ends in one of these ways (`save_ends`).  A field
can have the name of what an instance is asked for, and hides it; then nothing is asked of
the engine at all (`save_hidden`).
-/

namespace SqlAccess

open SqlAccess.Action Workload
open SqlAccess.Text (listing placeholders)

/-! ## What is sent -/

/-- The value of a field that hides what is asked of an instance when it is saved. -/
def Instance.hiding? (item : Instance) : Option Value :=
  (item.fields.get? "save").or (item.fields.get? "to_record")

namespace Entity

/-- The primary key of an instance, if it is set. -/
def setKey? (entity : Entity) (item : Instance) : Option Value :=
  (item.fields.get? entity.primaryKey).filter fun value => !value.isNull

/-- The fields of an instance that are sent besides the primary key. -/
def sentFields (entity : Entity) (item : Instance) : List (String × Value) :=
  item.fields.entries.filter fun field =>
    !field.1.startsWith "_" && field.1 != entity.primaryKey

/-- The statement that writes an instance, if there is anything to write: without a primary key
it is an insertion, and with one it is the update of the row that has it. -/
def writing? (entity : Entity) (item : Instance) : Option Statement :=
  match entity.sentFields item, entity.setKey? item with
  | [], _ => none
  | fields, none =>
    let columns := listing (fields.map Prod.fst)
    some ⟨s!"INSERT INTO {entity.table} ({columns}) VALUES ({placeholders fields.length});",
      fields.map Prod.snd⟩
  | fields, some key =>
    let assignments := listing (fields.map fun field => s!"{field.1} = ?")
    some ⟨s!"UPDATE {entity.table} SET {assignments} WHERE {entity.primaryKey} = ?;",
      fields.map Prod.snd ++ [key]⟩

/-- What becomes of an instance that is saved: which statements are submitted, each in a batch
of its own, and what is stored by then. -/
inductive Saves (entity : Entity) (database : Database) (item : Instance)
    (before : Session World) :
    List Statement → Except Fault (Option Instance) → Session World → Prop where
  | hidden {value : Value} :
      item.hiding? = some value →
        Saves entity database item before [] (.error (.mistake (.notCallable value.kindName)))
          before
  | empty :
      item.hiding? = none → entity.setKey? item = none → entity.writing? item = none →
        Saves entity database item before [] (.error (.emptyRecord "INSERT" entity.table)) before
  | refused {writing : Statement} {entries : List (Event Note)} {fault : Fault}
      {after : Session World} :
      item.hiding? = none → entity.writing? item = some writing →
      Ran database.name [writing] before entries (.error fault) after →
        Saves entity database item before [writing] (.error fault) after
  /-- The engine tells of no row that was inserted. -/
  | unnumbered {writing : Statement} {entries : List (Event Note)} {outcome : Outcome}
      {after : Session World} :
      item.hiding? = none → entity.setKey? item = none → entity.writing? item = some writing →
      Ran database.name [writing] before entries (.ok [outcome]) after →
      outcome.insertId = none →
        Saves entity database item before [writing] (.ok none) after
  | inserted {writing : Statement} {entries more : List (Event Note)} {outcome : Outcome}
      {row : Int} {found : Except Fault (List Outcome)} {between after : Session World} :
      item.hiding? = none → entity.setKey? item = none → entity.writing? item = some writing →
      Ran database.name [writing] before entries (.ok [outcome]) between →
      outcome.insertId = some row →
      Ran database.name [entity.reading (.int row)] between more found after →
        Saves entity database item before [writing, entity.reading (.int row)]
          (entity.given found) after
  | updated {key : Value} {writing : Statement} {entries more : List (Event Note)}
      {outcomes : List Outcome} {found : Except Fault (List Outcome)}
      {between after : Session World} :
      item.hiding? = none → entity.setKey? item = some key →
      entity.writing? item = some writing →
      Ran database.name [writing] before entries (.ok outcomes) between →
      Ran database.name [entity.reading key] between more found after →
        Saves entity database item before [writing, entity.reading key] (entity.given found)
          after
  /-- There is nothing to write. -/
  | read {key : Value} {entries : List (Event Note)} {found : Except Fault (List Outcome)}
      {after : Session World} :
      item.hiding? = none → entity.setKey? item = some key → entity.writing? item = none →
      Ran database.name [entity.reading key] before entries found after →
        Saves entity database item before [entity.reading key] (entity.given found) after

/-! ## The record of an instance -/

variable {entity : Entity} {item : Instance}

theorem get?_storedFields (hkey : entity.primaryKey.startsWith "_" = false) :
    item.storedFields.get? entity.primaryKey = item.fields.get? entity.primaryKey := by
  rw [Instance.storedFields, Row.get?_restrict, hkey]
  rfl

theorem entries_erase_storedFields (entity : Entity) (item : Instance) :
    (item.storedFields.erase entity.primaryKey).entries = entity.sentFields item := by
  simp only [Row.erase, Instance.storedFields, Row.restrict, List.filter_filter, sentFields]
  refine List.filter_congr fun field _ => ?_
  by_cases hfield : field.1 = entity.primaryKey <;> simp [hfield]

theorem nonKeys_storedFields (entity : Entity) (item : Instance) :
    entity.nonKeys item.storedFields.entries = entity.sentFields item := by
  simp only [nonKeys, Instance.storedFields, Row.restrict, List.filter_filter, sentFields]
  refine List.filter_congr fun field _ => ?_
  exact Bool.and_comm _ _

theorem keys_sentFields (entity : Entity) (item : Instance) :
    entity.keys (entity.sentFields item) = [] := by
  refine List.map_eq_nil_iff.mpr (List.filter_eq_nil_iff.mpr fun field hfield => ?_)
  have hsent := (List.mem_filter.mp hfield).2
  rw [Bool.and_eq_true, bne_iff_ne] at hsent
  simpa using hsent.2

/-! ## Two ways to save -/

variable {ω : Type} [Engine ω] {database : Database}

/-- The instance that was saved takes over the fields of the one that was stored. -/
def refreshed (item : Instance) : Option Instance → Except Fault (Option Instance × Instance)
  | none => .ok (none, item)
  | some stored => do
    return (some stored, { item with fields := item.fields.putAll (← stored.record).entries })

theorem refreshed_of_hidden {stored : Instance} {value : Value}
    (h : stored.fields.get? "to_record" = some value) :
    refreshed item (some stored) = .error (.mistake (.notCallable value.kindName)) := by
  unfold refreshed Instance.record Instance.checkCall
  simp only [h]
  rfl

theorem refreshed_of_visible {stored : Instance} (h : stored.fields.get? "to_record" = none) :
    refreshed item (some stored) = .ok (some stored,
      { item with fields := item.fields.putAll stored.storedFields.entries }) := by
  unfold refreshed Instance.record Instance.checkCall
  simp only [h]
  rfl

theorem record_of_hiding?_eq_none (h : item.hiding? = none) :
    item.checkCall "save" = .ok () ∧ item.record = .ok item.storedFields := by
  obtain ⟨hsave, hrecord⟩ := Option.or_eq_none_iff.mp h
  unfold Instance.record Instance.checkCall
  rw [hsave, hrecord]
  exact ⟨rfl, rfl⟩

theorem save_of_hiding? {value : Value} (h : item.hiding? = some value) (session : Session ω) :
    entity.save item session = (.error (.mistake (.notCallable value.kindName)), session) := by
  unfold Instance.hiding? at h
  unfold save Instance.record Instance.checkCall
  cases hsave : item.fields.get? "save" with
  | some first =>
      rw [hsave] at h
      cases h
      rfl
  | none =>
      rw [hsave, Option.none_or] at h
      rw [h]
      rfl

/-- Whether the primary key is set decides which way is taken. -/
theorem save_eq (hkey : entity.primaryKey.startsWith "_" = false) (hhiding : item.hiding? = none) :
    (entity.save item : Action ω (Option Instance × Instance)) = (do
      let stored ← if entity.setKey? item = none then
          entity.create (.row ⟨entity.sentFields item⟩)
        else entity.update (.row item.storedFields)
      (refreshed item stored : Except Fault (Option Instance × Instance))) := by
  obtain ⟨hsave, hrecord⟩ := record_of_hiding?_eq_none hhiding
  have hnew : (item.storedFields.get? entity.primaryKey).all Value.isNull = true ↔
      entity.setKey? item = none := by
    rw [get?_storedFields hkey, setKey?]
    cases item.fields.get? entity.primaryKey <;> simp [Option.filter]
  have hrest : ∀ stored : Option Instance, (match stored with
      | none => return (none, item)
      | some other => do
        let fields := item.fields.putAll (← other.record).entries
        return (stored, { item with fields }) : Action ω (Option Instance × Instance)) =
      liftM (refreshed item stored) := by
    rintro (_ | other)
    · rfl
    · unfold refreshed
      dsimp only
      cases other.record <;> rfl
  unfold save
  rw [hsave, lift_ok_bind, hrecord, lift_ok_bind]
  dsimp only
  by_cases hset : entity.setKey? item = none
  · have hrecord : item.storedFields.erase entity.primaryKey = ⟨entity.sentFields item⟩ :=
      congrArg Row.mk (entries_erase_storedFields entity item)
    rw [if_pos (hnew.mpr hset), if_pos hset, hrecord]
    exact bind_congr hrest
  · rw [if_neg (mt hnew.mp hset), if_neg hset]
    exact bind_congr hrest

/-! ## What is written -/

theorem insert_sentFields {writing : Statement} (hset : entity.setKey? item = none)
    (hwriting : entity.writing? item = some writing) :
    Statement.insert entity.table (.row ⟨entity.sentFields item⟩) = .ok writing := by
  unfold writing? at hwriting
  rw [hset] at hwriting
  cases hfields : entity.sentFields item with
  | nil =>
      rw [hfields] at hwriting
      cases hwriting
  | cons field fields =>
      rw [hfields] at hwriting
      obtain rfl := Option.some.inj hwriting
      refine congrArg Except.ok (congrArg₂ Statement.mk ?_ (List.append_nil _))
      simp [listing, ← String.toList_inj, toString]

theorem sentFields_of_writing?_eq_none (h : entity.writing? item = none) :
    entity.sentFields item = [] := by
  unfold writing? at h
  split at h
  · assumption
  · cases h
  · cases h

theorem writing?_eq_none (h : entity.sentFields item = []) : entity.writing? item = none := by
  unfold writing?
  rw [h]

theorem writing?_eq_changing {key : Value} (hset : entity.setKey? item = some key)
    (hne : entity.sentFields item ≠ []) :
    entity.writing? item = some (entity.changing (entity.sentFields item) key) := by
  obtain ⟨field, fields, hfields⟩ := List.exists_cons_of_ne_nil hne
  unfold writing?
  rw [hset, hfields]
  rfl

/-! ## What is done -/

variable {session before after : Session World} {statement : Statement}
  {entries : List (Event Note)}

theorem exists_saves_create (hbound : entity.bound = .ok database) (hhiding : item.hiding? = none)
    (hset : entity.setKey? item = none) (session : Session World) :
    ∃ submitted stored after, Saves entity database item session submitted stored after ∧
      entity.create (.row ⟨entity.sentFields item⟩) session = (stored, after) := by
  cases hwriting : entity.writing? item with
  | none =>
      refine ⟨_, _, _, .empty hhiding hset hwriting, ?_⟩
      rw [sentFields_of_writing?_eq_none hwriting]
      unfold create
      rw [hbound, lift_ok_bind]
      rfl
  | some writing =>
      rw [create_eq hbound rfl (insert_sentFields hset hwriting)]
      unfold Database.execute Database.executeAll
      rcases hrun : runBatch database.name [writing] session with ⟨fault | outcomes, between⟩
      · obtain ⟨entries, hran⟩ := exists_ran (List.cons_ne_nil _ _) hrun
        refine ⟨_, _, _, .refused hhiding hwriting hran, ?_⟩
        simp only [bind_apply, hrun, after_error]
      · obtain ⟨entries, hran⟩ := exists_ran (List.cons_ne_nil _ _) hrun
        obtain ⟨result, rfl⟩ := Ran.exists_ofResult hran
        cases hrow : (Outcome.ofResult writing.isInsertion result).insertId with
        | none =>
            refine ⟨_, _, _, .unnumbered hhiding hset hwriting hran hrow, ?_⟩
            simp only [bind_apply, hrun, after_ok, pure_apply, List.headD_cons, hrow]
        | some row =>
            obtain ⟨more, found, after, hreading, hfind⟩ :=
              exists_ran_find hbound (.int row) between
            refine ⟨_, _, _, .inserted hhiding hset hwriting hran hrow hreading, ?_⟩
            simp only [bind_apply, hrun, after_ok, pure_apply, List.headD_cons, hrow,
              keys_sentFields, List.headD_nil, hfind]

/-- An instance with a primary key is updated by its record. -/
theorem exists_saves_update {key : Value} (hkey : entity.primaryKey.startsWith "_" = false)
    (hbound : entity.bound = .ok database) (hhiding : item.hiding? = none)
    (hset : entity.setKey? item = some key) (session : Session World) :
    ∃ submitted stored after, Saves entity database item session submitted stored after ∧
      entity.update (.row item.storedFields) session = (stored, after) := by
  have hlookup : item.storedFields.entries.lookup entity.primaryKey = some key :=
    (get?_storedFields hkey).trans (Option.filter_eq_some_iff.mp hset).1
  have hfields := nonKeys_storedFields entity item
  obtain ⟨submitted, stored, after, hupdates, hupdate⟩ :=
    exists_updates hbound (Record.items_row item.storedFields) session
  refine ⟨submitted, stored, after, ?_, hupdate⟩
  cases hupdates with
  | keyless hnone => exact absurd (hlookup.symm.trans hnone) (Option.some_ne_none key)
  | read hsome hnil hreading =>
      obtain rfl := Option.some.inj (hlookup.symm.trans hsome)
      rw [hfields] at hnil
      exact .read hhiding hset (writing?_eq_none hnil) hreading
  | refused hsome hne hran =>
      obtain rfl := Option.some.inj (hlookup.symm.trans hsome)
      rw [hfields] at hne hran ⊢
      exact .refused hhiding (writing?_eq_changing hset hne) hran
  | updated hsome hne hran hreading =>
      obtain rfl := Option.some.inj (hlookup.symm.trans hsome)
      rw [hfields] at hne hran ⊢
      exact .updated hhiding hset (writing?_eq_changing hset hne) hran hreading

/-- Each instance that is saved goes one of the ways. -/
theorem exists_saves (hkey : entity.primaryKey.startsWith "_" = false)
    (hbound : entity.bound = .ok database) (item : Instance) (session : Session World) :
    ∃ submitted stored after, Saves entity database item session submitted stored after ∧
      entity.save item session = (stored >>= refreshed item, after) := by
  cases hhiding : item.hiding? with
  | some value => exact ⟨_, _, _, .hidden hhiding, save_of_hiding? hhiding session⟩
  | none =>
      rw [save_eq hkey hhiding]
      have hrest : ∀ {action : Action World (Option Instance)} {stored after},
          action session = (stored, after) →
            (action >>= fun stored => liftM (refreshed item stored)) session =
              (stored >>= refreshed item, after) := by
        intro action stored after h
        rw [bind_apply, h]
        cases stored <;> rfl
      cases hset : entity.setKey? item with
      | none =>
          obtain ⟨submitted, stored, after, hsaves, hcreate⟩ :=
            exists_saves_create hbound hhiding hset session
          rw [if_pos rfl]
          exact ⟨submitted, stored, after, hsaves, hrest hcreate⟩
      | some key =>
          obtain ⟨submitted, stored, after, hsaves, hupdate⟩ :=
            exists_saves_update hkey hbound hhiding hset session
          rw [if_neg (Option.some_ne_none key)]
          exact ⟨submitted, stored, after, hsaves, hrest hupdate⟩

/-! ## What is left of it -/

/-- The engine knows nothing of variables. -/
theorem slots_runBatch (name : String) (statements : List Statement) (session : Session World) :
    (runBatch name statements session).2.outside.slots = session.outside.slots := by
  have hrequest : ∀ {α : Type} (ask : Script Note → Except Fault α × Script Note),
      Keeps (fun now : Session World => now.outside.slots = session.outside.slots)
        (request (World.ask ask)) := fun _ _ h => h
  exact keeps_runBatch name (fun _ _ h => h) (fun _ _ => hrequest _) (fun _ _ => hrequest _)
    (fun _ => hrequest _) statements session rfl

theorem Saves.slots_eq {submitted : List Statement} {stored : Except Fault (Option Instance)}
    (h : Saves entity database item before submitted stored after) :
    after.outside.slots = before.outside.slots := by
  have hbatch : ∀ {before after statement entries result},
      Ran database.name [statement] before entries result after →
        after.outside.slots = before.outside.slots := by
    intro before after statement entries result hran
    have hslots := slots_runBatch database.name [statement] before
    rwa [hran.run_eq] at hslots
  cases h with
  | hidden => rfl
  | empty => rfl
  | refused _ _ hran => exact hbatch hran
  | unnumbered _ _ _ hran => exact hbatch hran
  | inserted _ _ _ hran _ hreading => exact (hbatch hreading).trans (hbatch hran)
  | updated _ _ _ hran hreading => exact (hbatch hreading).trans (hbatch hran)
  | read _ _ _ hreading => exact hbatch hreading

theorem nodup_names_of_given {key : Value} {found : Except Fault (List Outcome)}
    {stored : Instance} (hran : Ran database.name [entity.reading key] before entries found after)
    (h : entity.given found = .ok (some stored)) : stored.fields.names.Nodup := by
  obtain ⟨outcomes, hfound, hgiven⟩ := exists_of_bind_eq_ok h
  obtain ⟨instances, hinstances, hfirst⟩ := exists_of_bind_eq_ok hgiven
  rw [hfound] at hran
  obtain ⟨result, rfl⟩ := Ran.exists_ofResult hran
  obtain ⟨others, rfl⟩ := List.head?_eq_some_iff.mp (Except.ok.inj hfirst)
  obtain ⟨row, rows, hstored, -, hrows⟩ :=
    List.forall₂_cons_right_iff.mp (mapM_eq_ok_iff.mp hinstances)
  have hmem : row ∈ Outcome.rowsOf result := by
    rw [show Outcome.rowsOf result = row :: rows from hrows]
    exact List.mem_cons_self
  have hfields : stored.fields = row := by
    unfold instantiate at hstored
    split at hstored
    · cases hstored
    · rw [← Except.ok.inj hstored]
  unfold Outcome.rowsOf at hmem
  split at hmem
  · cases hmem
  · obtain ⟨cells, -, rfl⟩ := List.mem_map.mp hmem
    rw [hfields]
    exact Row.nodup_names_ofList _

theorem Saves.nodup_names {submitted : List Statement} {result : Except Fault (Option Instance)}
    {stored : Instance} (h : Saves entity database item before submitted result after)
    (hresult : result = .ok (some stored)) : stored.fields.names.Nodup := by
  cases h with
  | hidden => cases hresult
  | empty => cases hresult
  | refused _ _ hran => cases hresult
  | unnumbered _ _ _ hran => cases hresult
  | inserted _ _ _ _ _ hreading => exact nodup_names_of_given hreading hresult
  | updated _ _ _ _ hreading => exact nodup_names_of_given hreading hresult
  | read _ _ _ hreading => exact nodup_names_of_given hreading hresult

end Entity

namespace Workload

variable {slot : String} {item stored saved : Instance} {before after : World}

/-- The saved instance has the stored fields of the one that was read, and all of its other
fields are what they were. -/
structure IsRefreshed (item stored saved : Instance) : Prop where
  entity_eq : saved.entity = item.entity
  get?_eq : ∀ name, saved.fields.get? name =
    if name.startsWith "_" then item.fields.get? name
    else (stored.fields.get? name).or (item.fields.get? name)

/-- How a task to save the instance in a variable ends, and what the variables hold then. -/
inductive SaveEnds (slot : String) (item : Instance) (before : World) :
    Except Fault (Option Instance) → Except Fault Answer → World → Prop where
  | failed {fault : Fault} {after : World} :
      (∀ name, after.holding? name = before.holding? name) →
        SaveEnds slot item before (.error fault) (.error fault) after
  | nothing {after : World} :
      (∀ name, after.holding? name = before.holding? name) →
        SaveEnds slot item before (.ok none) (.ok (.list [.nothing, .item item])) after
  /-- The record of the row that was read is hidden by a column. -/
  | unreadable {stored : Instance} {value : Value} {after : World} :
      stored.fields.get? "to_record" = some value →
      (∀ name, after.holding? name = before.holding? name) →
        SaveEnds slot item before (.ok (some stored))
          (.error (.mistake (.notCallable value.kindName))) after
  | refreshed {stored saved : Instance} {after : World} :
      stored.fields.get? "to_record" = none → IsRefreshed item stored saved →
      after.holding? slot = some (.item saved) →
      (∀ name, name ≠ slot → after.holding? name = before.holding? name) →
        SaveEnds slot item before (.ok (some stored)) (.ok (.list [.item stored, .item saved]))
          after

theorem isRefreshed_putAll (hnodup : stored.fields.names.Nodup) :
    IsRefreshed item stored
      { item with fields := item.fields.putAll stored.storedFields.entries } where
  entity_eq := rfl
  get?_eq name := by
    have hnames : (stored.storedFields.entries.map Prod.fst).Nodup :=
      Row.nodup_names_restrict hnodup _
    have hlookup : stored.storedFields.entries.lookup name =
        if !name.startsWith "_" then stored.fields.get? name else none :=
      Row.get?_restrict stored.fields _ name
    rw [Row.get?_putAll hnames, hlookup]
    by_cases hname : name.startsWith "_" <;> simp [hname]

theorem holding?_setVariable (world : World) (slot : String) (holding : Holding) (name : String) :
    (world.setVariable slot holding).holding? name =
      if name = slot then some holding else world.holding? name := by
  unfold World.holding? World.setVariable
  rw [List.lookup_cons]
  by_cases hname : name = slot
  · rw [if_pos hname, beq_iff_eq.mpr hname]
  · rw [if_neg hname, beq_eq_false_iff_ne.mpr hname]

/-- The instance that is saved goes back into its variable. -/
theorem run_save {entity : Entity} (other : Database) {session after : Session World}
    {saved : Except Fault (Option Instance × Instance)}
    (hholding : session.outside.holding? slot = some (.item item))
    (hentity : session.outside.family.entity? item.entity = some entity)
    (hsave : entity.save item session = (saved, after)) :
    (Task.item slot .save).run other session = Action.after (saved, after) fun saved => do
      modifyOutside fun world => world.setVariable slot (.item saved.2)
      return .list [.ofOption .item saved.1, .item saved.2] := by
  have hholdingOf : holdingOf slot session = (.ok (.item item), session) := by
    unfold holdingOf
    simp only [outside, bind_apply, after_ok, hholding, pure_apply]
  have hentityOf : entityOf item.entity session = (.ok entity, session) := by
    unfold entityOf
    simp only [outside, bind_apply, after_ok, hentity, pure_apply]
  refine bind_apply_of_ok hholdingOf (lift_bind_apply_of_ok rfl (bind_apply_of_ok hentityOf ?_))
  rw [bind_apply, hsave]

/-- What is stored decides how the task ends, if the variables are untouched until then. -/
theorem saveEnds_after {result : Except Fault (Option Instance)} {session : Session World}
    (hholding : before.holding? slot = some (.item item))
    (hsame : ∀ name, session.outside.holding? name = before.holding? name)
    (hnodup : ∀ stored, result = .ok (some stored) → stored.fields.names.Nodup) :
    let ending := Action.after (result >>= Entity.refreshed item, session) fun saved => do
      modifyOutside fun world => world.setVariable slot (.item saved.2)
      return .list [.ofOption .item saved.1, .item saved.2]
    SaveEnds slot item before result ending.1 ending.2.outside ∧
      ending.2.outside.script = session.outside.script := by
  have hothers : ∀ saved name, name ≠ slot →
      (session.outside.setVariable slot (.item saved)).holding? name = before.holding? name := by
    intro saved name hname
    rw [holding?_setVariable, if_neg hname, hsame]
  match result with
  | .error fault => exact ⟨.failed hsame, rfl⟩
  | .ok none =>
    refine ⟨.nothing fun name => ?_, rfl⟩
    by_cases hname : name = slot
    · subst hname
      rw [hholding]
      exact (holding?_setVariable _ _ _ _).trans (if_pos rfl)
    · exact hothers item name hname
  | .ok (some found) =>
    have hrefreshed : ((.ok (some found) : Except Fault (Option Instance)) >>=
        Entity.refreshed item) = Entity.refreshed item (some found) := rfl
    rw [hrefreshed]
    cases hhidden : found.fields.get? "to_record" with
    | some value =>
        rw [Entity.refreshed_of_hidden hhidden]
        exact ⟨.unreadable hhidden hsame, rfl⟩
    | none =>
        rw [Entity.refreshed_of_visible hhidden]
        refine ⟨.refreshed hhidden (isRefreshed_putAll (hnodup found rfl)) ?_ ?_, rfl⟩
        · exact (holding?_setVariable _ _ _ _).trans (if_pos rfl)
        · exact fun name hname => hothers _ name hname

/-- A task to save the instance in a variable asks the engine only for what becomes of the
instance, and the variable holds this instance, refreshed from the row that was read, or what
it held before. -/
theorem save_ends {slot : String} {item : Instance} {entity : Entity} {database other : Database}
    {session : Session World} (hholding : session.outside.holding? slot = some (.item item))
    (hentity : session.outside.family.entity? item.entity = some entity)
    (hbound : entity.bound = .ok database) (hkey : entity.primaryKey.startsWith "_" = false) :
    let ending := (Task.item slot .save).run other session
    ∃ submitted stored after, entity.Saves database item session submitted stored after ∧
      SaveEnds slot item session.outside stored ending.1 ending.2.outside ∧
      ending.2.outside.script = after.outside.script := by
  intro ending
  obtain ⟨submitted, stored, after, hsaves, hsave⟩ := Entity.exists_saves hkey hbound item session
  have hsame : ∀ name, after.outside.holding? name = session.outside.holding? name := by
    intro name
    unfold World.holding?
    rw [hsaves.slots_eq]
  have hends := saveEnds_after hholding hsame fun _ hstored => hsaves.nodup_names hstored
  rw [← run_save other hholding hentity hsave] at hends
  exact ⟨submitted, stored, after, hsaves, hends⟩

/-- A session with an instance in a variable. -/
def saving (fields : List (String × Value)) (replies : List Reply) : Session World where
  registry := (Entity.serving [] []).registry
  outside := {
    script := scriptOf (Entity.serving replies [])
    family := {
      members := [⟨"User", "users", "id", [0]⟩]
      bindings := [(0, ⟨"app.db"⟩)] }
    slots := [("user", .item ⟨"User", ⟨fields⟩⟩)] }

/-- An instance without a primary key, with a field that is not stored. -/
theorem save_ends_bob :
    let item : Instance := ⟨"User", ⟨[("name", .text "Bob"), ("_seen", .bool true)]⟩⟩
    let session := saving item.fields.entries
      [{}, {}, Entity.inserting, {}, {}, Entity.rereading]
    let ending := (Task.item "user" .save).run ⟨"app.db"⟩ session
    session.outside.holding? "user" = some (.item item) ∧
    session.outside.family.entity? "User" = some Entity.users ∧
    Entity.users.bound = .ok ⟨"app.db"⟩ ∧ Entity.users.primaryKey.startsWith "_" = false ∧
    ∃ submitted stored after,
      Entity.users.Saves ⟨"app.db"⟩ item session submitted stored after ∧
      SaveEnds "user" item session.outside stored ending.1 ending.2.outside ∧
      ending.2.outside.script = after.outside.script := by
  intro item session ending
  have hholding : session.outside.holding? "user" = some (.item item) := rfl
  have hentity : session.outside.family.entity? "User" = some Entity.users := rfl
  have hbound : Entity.users.bound = .ok ⟨"app.db"⟩ := rfl
  have hkey : Entity.users.primaryKey.startsWith "_" = false := by decide +kernel
  exact ⟨hholding, hentity, hbound, hkey, save_ends hholding hentity hbound hkey⟩

/-- A field of the name `to_record` would have to be inserted, but it hides what an instance is
asked for, and nothing is asked of the engine. -/
theorem save_hidden :
    let item : Instance := ⟨"User", ⟨[("to_record", .text "x")]⟩⟩
    let session := saving item.fields.entries []
    Entity.users.setKey? item = none ∧
    Entity.users.sentFields item = [("to_record", .text "x")] ∧
    (Task.item "user" .save).run ⟨"app.db"⟩ session =
      (.error (.mistake (.notCallable "str")), session) := by
  refine ⟨rfl, ?_, ?_⟩
  · exact List.filter_cons_of_pos (by decide +kernel)
  · rfl

end Workload

end SqlAccess
