import SqlAccess.Config
import SqlAccess.Engine
import SqlAccess.Text.Quoted

/-!
# Registries of connections

A registry has one connection for each database that was ever asked for, in the
order in which they were first asked for.  Connections are never removed: a
connection that is closed only loses its handle.

Main statement: registering keeps the names distinct (`nodup_names_register`).
-/

namespace SqlAccess

/-- A connection to the database of a name. -/
structure Connection where
  name : String
  path : String
  /-- The handle of the engine, as long as the connection is open. -/
  handle : Option Handle := none
  deriving DecidableEq, Repr

namespace Connection

/-- Whether a connection is open. -/
def isOpen (connection : Connection) : Bool :=
  connection.handle.isSome

/-- The text that describes a connection. -/
def describe (connection : Connection) : String :=
  let state := if connection.isOpen then "open" else "closed"
  s!"Connection(name={Text.quoted connection.name}, {state})"

end Connection

/-- A registry. -/
structure Registry where
  config : Config := {}
  /-- The connections in the order of their registration. -/
  connections : List Connection := []
  deriving Repr

namespace Registry

/-- The names of the registered databases. -/
def names (registry : Registry) : List String :=
  registry.connections.map Connection.name

/-- The connection of a name. -/
def find? (registry : Registry) (name : String) : Option Connection :=
  registry.connections.find? fun connection => connection.name == name

/-- Whether a name is registered. -/
def contains (registry : Registry) (name : String) : Bool :=
  registry.names.contains name

/-- The connection that a name has, or that it gets when it is registered. -/
def connection (registry : Registry) (name : String) : Connection :=
  (registry.find? name).getD { name, path := registry.config.resolve name }

/-- Registers a name, unless it is registered. -/
def register (registry : Registry) (name : String) : Registry :=
  if registry.contains name then registry
  else { registry with connections := registry.connections ++ [registry.connection name] }

/-- Gives the connection of a name another handle. -/
def setHandle (registry : Registry) (name : String) (handle : Option Handle) : Registry :=
  { registry with
    connections := registry.connections.map fun connection =>
      if connection.name = name then { connection with handle } else connection }

/-! ## What happens to the names -/

@[simp] theorem names_setHandle (registry : Registry) (name : String) (handle : Option Handle) :
    (registry.setHandle name handle).names = registry.names := by
  simp only [names, setHandle, List.map_map]
  refine List.map_congr_left fun connection _ => ?_
  simp only [Function.comp]
  split <;> rfl

theorem connection_name (registry : Registry) (name : String) :
    (registry.connection name).name = name := by
  unfold connection
  cases h : registry.find? name with
  | none => rfl
  | some connection => simpa using List.find?_some h

theorem names_register (registry : Registry) (name : String) :
    (registry.register name).names =
      if registry.contains name then registry.names else registry.names ++ [name] := by
  unfold register
  split
  · rfl
  · simp [names, connection_name]

/-- Registering keeps the names distinct. -/
theorem nodup_names_register {registry : Registry} (h : registry.names.Nodup) (name : String) :
    (registry.register name).names.Nodup := by
  rw [names_register]
  split
  · exact h
  · rename_i hn
    rw [List.nodup_append]
    refine ⟨h, by simp, ?_⟩
    rintro a ha b hb rfl
    simp only [List.mem_singleton] at hb
    subst hb
    exact hn (by simpa [contains] using ha)

end Registry

end SqlAccess
