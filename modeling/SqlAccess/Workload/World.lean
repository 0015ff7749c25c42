import SqlAccess.Engine.Script
import SqlAccess.Entity.Family
import SqlAccess.Workload.Holding
import SqlAccess.Workload.Task

/-!
# The world of a workload

A workload runs in a world with a scripted engine, a family of entities, and
variables for what entities have answered.  The journal of the engine also has notes of the hooks
that were called and of what their operations gave.
-/

namespace SqlAccess.Workload

/-- A note in the journal. -/
inductive Note where
  /-- A hook was called. -/
  | hook (hook : Hook) (arguments : List Value)
  /-- An operation of a hook gave an answer. -/
  | answer (answer : Answer)

/-- The world of a workload. -/
structure World where
  script : Script Note := {}
  family : Family := {}
  /-- What was put into variables, the latest first. -/
  slots : List (String × Holding) := []

namespace World

/-- What a variable holds. -/
def holding? (world : World) (name : String) : Option Holding :=
  world.slots.lookup name

/-- Puts something into a variable. -/
def setVariable (world : World) (name : String) (holding : Holding) : World :=
  { world with slots := (name, holding) :: world.slots }

/-- Puts a note into the journal. -/
def note (world : World) (note : Note) : World :=
  { world with script := world.script.note note }

/-- Hands a request on to the engine. -/
def ask {α : Type} (request : Script Note → Except Fault α × Script Note) (world : World) :
    Except Fault α × World :=
  match request world.script with
  | (answer, script) => (answer, { world with script })

instance : Engine World where
  connect path timeout := ask (Engine.connect path timeout)
  execute handle statement := ask (Engine.execute handle statement)
  close handle := ask (Engine.close handle)
  inTransaction handle world := Engine.inTransaction handle world.script

end World

end SqlAccess.Workload
