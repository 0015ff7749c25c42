import Mathlib.Data.List.Nodup
import SqlAccess.Session.Opening

/-!
# Handles in a registry

Which handle and which path a database has, and how registering a name and setting
a handle change them.  Registering changes no handle, and no path ever changes:
it is the one that the configuration gives.

The handle of a database decides how it is opened: a database that has one is
opened already (`opened_of_handle`), and one that has none is registered first and
then given one (`opened_of_no_handle`).  Closing takes the handle away before the
engine is asked (`closed_of_handle`).
-/

namespace SqlAccess

namespace Registry

variable {registry : Registry} {name other : String} {handle : Option Handle}

/-- The handle of the database of a name, if it is open. -/
def handle? (registry : Registry) (name : String) : Option Handle :=
  (registry.find? name).bind Connection.handle

/-- Where the database of a name lies, or would lie if it were registered. -/
def path (registry : Registry) (name : String) : String :=
  (registry.connection name).path

theorem handle_connection (registry : Registry) (name : String) :
    (registry.connection name).handle = registry.handle? name := by
  unfold connection handle?
  cases registry.find? name <;> rfl

theorem contains_eq_isSome : registry.contains name = (registry.find? name).isSome := by
  rw [Bool.eq_iff_iff]
  simp only [contains, names, find?, List.find?_isSome, List.contains_iff_mem, List.mem_map,
    beq_iff_eq]

theorem contains_of_handle? {handle : Handle} (h : registry.handle? name = some handle) :
    registry.contains name = true := by
  obtain ⟨connection, hfind, -⟩ := Option.bind_eq_some_iff.mp h
  rw [contains_eq_isSome, hfind]
  rfl

theorem connection_of_not_contains (h : ¬ registry.contains name = true) :
    registry.connection name = { name, path := registry.config.resolve name } := by
  rw [contains_eq_isSome, Bool.not_eq_true, Option.isSome_eq_false_iff,
    Option.isNone_iff_eq_none] at h
  rw [connection, h]
  rfl

theorem name_of_find? {connection : Connection} (h : registry.find? other = some connection) :
    connection.name = other := by
  simpa using List.find?_some h

/-- Where names are distinct, a connection is found by its name. -/
theorem find?_of_mem (hnodup : registry.names.Nodup) {connection : Connection}
    (hmem : connection ∈ registry.connections) :
    registry.find? connection.name = some connection := by
  cases hfind : registry.find? connection.name with
  | none => simpa using List.find?_eq_none.mp hfind connection hmem
  | some found =>
      have hfound := List.mem_of_find?_eq_some hfind
      have hname := name_of_find? hfind
      exact congrArg some (List.inj_on_of_nodup_map hnodup hfound hmem hname)

theorem handle?_of_mem (hnodup : registry.names.Nodup) {connection : Connection}
    (hmem : connection ∈ registry.connections) :
    registry.handle? connection.name = connection.handle := by
  rw [handle?, find?_of_mem hnodup hmem]
  rfl

theorem exists_mem_of_handle? {handle : Handle} (h : registry.handle? name = some handle) :
    ∃ connection ∈ registry.connections, connection.name = name ∧
      connection.handle = some handle := by
  obtain ⟨connection, hfind, hhandle⟩ := Option.bind_eq_some_iff.mp h
  exact ⟨connection, List.mem_of_find?_eq_some hfind, name_of_find? hfind, hhandle⟩

/-! ## Registering -/

theorem names_isPrefix_register (registry : Registry) (name : String) :
    registry.names <+: (registry.register name).names := by
  rw [names_register]
  split
  · exact List.prefix_refl _
  · exact List.prefix_append _ _

@[simp] theorem config_register (registry : Registry) (name : String) :
    (registry.register name).config = registry.config := by
  unfold register
  split <;> rfl

theorem register_of_contains (h : registry.contains name = true) :
    registry.register name = registry := by
  unfold register
  rw [if_pos h]

theorem contains_register_self (registry : Registry) (name : String) :
    (registry.register name).contains name = true := by
  rw [contains, names_register, List.contains_iff_mem]
  split
  · rename_i hcontains
    rwa [contains, List.contains_iff_mem] at hcontains
  · exact List.mem_append_right _ List.mem_cons_self

/-- Registering a name only finds a connection for it where there was none. -/
theorem find?_register (registry : Registry) (name other : String) :
    (registry.register name).find? other = registry.find? other ∨
      registry.find? other = none ∧ (registry.register name).find? other =
        some { name := other, path := registry.config.resolve other } := by
  unfold register
  split
  · exact .inl rfl
  · rename_i hnew
    -- the new connection is the last one, so it is found only where none was
    rw [connection_of_not_contains hnew]
    simp only [find?, List.find?_append]
    cases registry.connections.find? fun connection => connection.name == other with
    | some connection => exact .inl rfl
    | none =>
        simp only [List.find?_cons, List.find?_nil, Option.none_or, true_and]
        split
        · rename_i hname
          rw [beq_iff_eq] at hname
          exact .inr (by rw [hname])
        · exact .inl rfl

@[simp] theorem handle?_register (registry : Registry) (name other : String) :
    (registry.register name).handle? other = registry.handle? other := by
  unfold handle?
  rcases find?_register registry name other with hsame | ⟨hnone, hnew⟩
  · rw [hsame]
  · rw [hnone, hnew]
    rfl

@[simp] theorem path_register (registry : Registry) (name other : String) :
    (registry.register name).path other = registry.path other := by
  unfold path connection
  rw [config_register]
  rcases find?_register registry name other with hsame | ⟨hnone, hnew⟩
  · rw [hsame]
  · rw [hnone, hnew]
    rfl

/-! ## Setting a handle -/

@[simp] theorem config_setHandle (registry : Registry) (name : String) (handle : Option Handle) :
    (registry.setHandle name handle).config = registry.config := rfl

theorem find?_setHandle (registry : Registry) (name other : String) (handle : Option Handle) :
    (registry.setHandle name handle).find? other =
      (registry.find? other).map fun connection =>
        if connection.name = name then { connection with handle } else connection := by
  simp only [find?, setHandle, List.find?_map]
  refine congrArg (Option.map _) (congrArg (fun found => List.find? found registry.connections) ?_)
  funext candidate
  simp only [Function.comp]
  split <;> rfl

theorem handle?_setHandle_self (h : registry.contains name = true) :
    (registry.setHandle name handle).handle? name = handle := by
  rw [contains_eq_isSome, Option.isSome_iff_exists] at h
  obtain ⟨connection, hfind⟩ := h
  rw [handle?, find?_setHandle, hfind, Option.map_some, if_pos (name_of_find? hfind)]
  rfl

theorem handle?_setHandle_of_ne (h : other ≠ name) :
    (registry.setHandle name handle).handle? other = registry.handle? other := by
  unfold handle?
  rw [find?_setHandle]
  cases hfind : registry.find? other with
  | none => rfl
  | some connection =>
      rw [Option.map_some, if_neg (by rw [name_of_find? hfind]; exact h)]

/-- Where a handle comes from after one was set. -/
theorem of_handle?_setHandle {found : Handle}
    (h : (registry.setHandle name handle).handle? other = some found) :
    other = name ∧ handle = some found ∨ other ≠ name ∧ registry.handle? other = some found := by
  by_cases hother : other = name
  · have hcontains := contains_of_handle? h
    rw [contains, names_setHandle, ← contains, hother] at hcontains
    rw [hother, handle?_setHandle_self hcontains] at h
    exact .inl ⟨hother, h⟩
  · rw [handle?_setHandle_of_ne hother] at h
    exact .inr ⟨hother, h⟩

@[simp] theorem path_setHandle (registry : Registry) (name other : String)
    (handle : Option Handle) :
    (registry.setHandle name handle).path other = registry.path other := by
  unfold path connection
  rw [find?_setHandle, config_setHandle]
  cases registry.find? other with
  | none => rfl
  | some connection =>
      simp only [Option.map_some, Option.getD_some]
      split <;> rfl

end Registry

/-! ## Opening and closing -/

namespace Action

variable {ω : Type} [Engine ω] {database : String} {session : Session ω}

/-- An open database is not opened once more, and nothing changes. -/
theorem opened_of_handle {handle : Handle}
    (h : session.registry.handle? database = some handle) :
    opened database session = (.ok handle, session) := by
  have hregister : session.registry.register database = session.registry :=
    Registry.register_of_contains (Registry.contains_of_handle? h)
  have hhandle : (session.registry.connection database).handle = some handle := by
    rw [Registry.handle_connection, h]
  simp only [opened, connection, modifyRegistry, registry, bind_apply, after_ok, pure_apply,
    hregister, hhandle]

/-- A database without a handle is registered, and gets the handle of a new
connection to its path. -/
theorem opened_of_no_handle (h : session.registry.handle? database = none) :
    opened database session =
      (do
        let handle ← (openHandle session.registry.config
          (session.registry.path database)).converting (openingFault database)
        modifyRegistry fun registry => registry.setHandle database (some handle)
        return handle : Action ω Handle)
        { session with registry := session.registry.register database } := by
  have hhandle : ((session.registry.register database).connection database).handle = none := by
    rw [Registry.handle_connection, Registry.handle?_register, h]
  have hpath : ((session.registry.register database).connection database).path =
      session.registry.path database := Registry.path_register _ _ _
  simp only [opened, connection, modifyRegistry, registry, bind_apply, after_ok, pure_apply,
    hhandle, hpath, Registry.config_register]

theorem closed_of_no_handle (h : session.registry.handle? database = none) :
    closed database session = (.ok (), session) := by
  unfold closed
  simp only [registry, bind_apply, after_ok]
  rw [← Registry.handle?, h]
  rfl

theorem closed_of_handle {handle : Handle}
    (h : session.registry.handle? database = some handle) :
    closed database session =
      close handle { session with registry := session.registry.setHandle database none } := by
  unfold closed
  simp only [registry, bind_apply, after_ok]
  rw [← Registry.handle?, h]
  rfl

end Action

end SqlAccess
