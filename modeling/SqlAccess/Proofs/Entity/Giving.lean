import SqlAccess.Entity.Saving
import SqlAccess.Proofs.Action.Keeps
import SqlAccess.Proofs.Action.Mirrors
import SqlAccess.Proofs.Statement.Plain

/-!
# What entities give

An entity gives instances of its own only: its rows become instances by its own form
(`Entity.instantiate`), and storing or changing an instance leaves the entity that it
is of as it is.

`Action.Gives` says what is known of a value that an action gives, whatever the session
is that it is done in.
-/

namespace SqlAccess

variable {ω α β : Type}

namespace Action

/-- Each value that the action gives satisfies `property`. -/
def Gives (property : α → Prop) (action : Action ω α) : Prop :=
  ∀ session value after, action session = (.ok value, after) → property value

variable {property : β → Prop}

theorem gives_pure {value : β} (h : property value) : Gives property (pure value : Action ω β) := by
  intro session found after hfound
  cases hfound
  exact h

theorem gives_throw (fault : Fault) : Gives property (throw fault : Action ω β) := by
  intro session value after h
  rw [throw_apply] at h
  cases h

theorem gives_lift {result : Except Fault β} (h : ∀ value, result = .ok value → property value) :
    Gives property (liftM result : Action ω β) := by
  intro session value after hvalue
  exact h value (Prod.mk.inj hvalue).1

theorem gives_bind {between : α → Prop} {action : Action ω α} {next : α → Action ω β}
    (haction : Gives between action)
    (hnext : ∀ value, between value → Gives property (next value)) :
    Gives property (action >>= next) := by
  intro session value after hvalue
  obtain ⟨found, mid, hfound, hvalue⟩ := exists_of_bind_eq_ok hvalue
  exact hnext found (haction session found mid hfound) mid value after hvalue

/-- What is given is given by what comes last. -/
theorem gives_bind_last {action : Action ω α} {next : α → Action ω β}
    (hnext : ∀ value, Gives property (next value)) : Gives property (action >>= next) :=
  gives_bind (fun _ _ _ _ => trivial : Gives (fun _ => True) action) fun value _ => hnext value

/-- After a result that is at hand, it is known what it was. -/
theorem gives_bind_lift {result : Except Fault α} {next : α → Action ω β}
    (hnext : ∀ value, result = .ok value → Gives property (next value)) :
    Gives property ((liftM result : Action ω α) >>= next) :=
  gives_bind (gives_lift fun _ h => h) hnext

/-- What comes next need only keep a property after the values that can be given. -/
theorem keeps_bind_gives {kept : Session ω → Prop} {between : α → Prop} {action : Action ω α}
    {next : α → Action ω β} (haction : Keeps kept action) (hgives : Gives between action)
    (hnext : ∀ value, between value → Keeps kept (next value)) :
    Keeps kept (action >>= next) := by
  intro session h
  have hfirst := haction session h
  rw [bind_apply]
  rcases hending : action session with ⟨fault | value, after⟩
  · rw [hending] at hfirst
    exact hfirst
  · rw [hending] at hfirst
    exact hnext value (hgives session value after hending) after hfirst

end Action

open SqlAccess.Action

/-! ## Instances -/

theorem Instance.entity_of_set {item after : Instance} {name : String} {value : Value}
    (h : item.set name value = .ok after) : after.entity = item.entity := by
  unfold set at h
  split at h <;> cases h <;> rfl

theorem Entity.entity_of_instantiate {entity : Entity} {row : Row} {item : Instance}
    (h : entity.instantiate row = .ok item) : item.entity = entity.name := by
  unfold instantiate at h
  split at h <;> cases h
  rfl

theorem Entity.form_of_cursor {entity : Entity} {query : Query} {cursor : Cursor Instance}
    (h : entity.cursor query = .ok cursor) : cursor.form = entity.instantiate := by
  obtain ⟨database, -, hcursor⟩ := exists_of_bind_eq_ok h
  rw [← Except.ok.inj hcursor]

namespace Cursor

variable [Engine ω] (cursor : Cursor α) {holds : α → Prop}
  (hform : ∀ row item, cursor.form row = .ok item → holds item)

include hform

theorem gives_get :
    Gives (fun items => ∀ item ∈ items, holds item) (cursor.get : Action ω (List α)) :=
  gives_bind_last fun _ => gives_bind_last fun _ =>
    gives_lift fun _ hitems => forall_of_mapM_eq_ok (fun row _ item => hform row item) hitems

theorem gives_first :
    Gives (fun found => ∀ item, found = some item → holds item)
      (cursor.first : Action ω (Option α)) := by
  have hfirst : cursor.forFirst.form = cursor.form := by
    unfold forFirst
    split <;> rfl
  refine gives_bind (cursor.forFirst.gives_get (by rwa [hfirst])) fun items hitems => ?_
  exact gives_pure fun item hitem => hitems item (List.mem_of_mem_head? hitem)

end Cursor

/-! ## Entities -/

namespace Entity

/-- If there is an instance at all, it is one of the entity. -/
def Owns (entity : Entity) (found : Option Instance) : Prop :=
  ∀ item, found = some item → item.entity = entity.name

variable [Engine ω] (entity : Entity)

theorem gives_firstOf (query : Query) :
    Gives entity.Owns (do
      let cursor ← entity.cursor query
      cursor.first : Action ω (Option Instance)) := by
  refine gives_bind_lift fun cursor hcursor => cursor.gives_first fun row item hitem => ?_
  rw [form_of_cursor hcursor] at hitem
  exact entity_of_instantiate hitem

theorem gives_findWhere (column operator : String) (value : Value) :
    Gives entity.Owns (entity.findWhere column operator value : Action ω (Option Instance)) :=
  entity.gives_firstOf _

theorem gives_findBy (column operator value : Value) :
    Gives entity.Owns (entity.findBy column operator value : Action ω (Option Instance)) :=
  gives_bind_last fun _ => gives_bind_last fun _ => gives_bind_last fun _ =>
    entity.gives_findWhere _ _ _

theorem gives_find (key : Value) :
    Gives entity.Owns (entity.find key : Action ω (Option Instance)) :=
  entity.gives_findWhere _ _ _

theorem gives_first : Gives entity.Owns (entity.first : Action ω (Option Instance)) :=
  entity.gives_firstOf _

theorem gives_last : Gives entity.Owns (entity.last : Action ω (Option Instance)) :=
  entity.gives_firstOf _

theorem gives_create (record : Record) :
    Gives entity.Owns (entity.create record : Action ω (Option Instance)) := by
  refine gives_bind_last fun _ => gives_bind_last fun _ => gives_bind_last fun outcome => ?_
  split
  · exact gives_pure nofun
  · exact gives_bind_last fun _ => entity.gives_find _

theorem gives_update (record : Record) :
    Gives entity.Owns (entity.update record : Action ω (Option Instance)) := by
  refine gives_bind_last fun items => ?_
  split
  · exact gives_throw _
  · split
    · exact entity.gives_find _
    · exact gives_bind_last fun _ => gives_bind_last fun _ => entity.gives_find _

/-- A saved instance stays one of its entity. -/
theorem gives_save (item : Instance) :
    Gives (fun saved => saved.2.entity = item.entity)
      (entity.save item : Action ω (Option Instance × Instance)) := by
  refine gives_bind_last fun _ => gives_bind_last fun record => ?_
  dsimp only
  split
  all_goals
    refine gives_bind_last fun stored => ?_
    cases stored with
    | none => exact gives_pure rfl
    | some other => exact gives_bind_last fun _ => gives_pure rfl

end Entity

end SqlAccess
