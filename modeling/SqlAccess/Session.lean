import SqlAccess.Registry

/-!
# Sessions and actions

A session is a registry of connections together with the outside world.  An
action is something that is done in a session: it gives a value or a fault, and
it changes the session, where what it has changed before a fault stays changed.

Actions are composed by `do`.  `Action.converting` turns a fault into another
one, and `Action.cleaning` does something more before a fault is passed on.
-/

namespace SqlAccess

/-- A session in an outside world `ω`. -/
structure Session (ω : Type) where
  registry : Registry := {}
  outside : ω

/-- Something that is done in a session. -/
def Action (ω α : Type) : Type :=
  Session ω → Except Fault α × Session ω

namespace Action

variable {ω α β : Type}

/-- Goes on after a result: with a value the next action is done, a fault stays. -/
def after (result : Except Fault α × Session ω) (next : α → Action ω β) :
    Except Fault β × Session ω :=
  match result with
  | (.ok value, session) => next value session
  | (.error fault, session) => (.error fault, session)

instance : Monad (Action ω) where
  pure value := fun session => (.ok value, session)
  bind action next := fun session => after (action session) next

instance : MonadExceptOf Fault (Action ω) where
  throw fault := fun session => (.error fault, session)
  tryCatch action handle := fun session =>
    match action session with
    | (.ok value, session) => (.ok value, session)
    | (.error fault, session) => handle fault session

instance : MonadLift (Except Fault) (Action ω) where
  monadLift result := fun session => (result, session)

theorem pure_apply (value : α) (session : Session ω) :
    (pure value : Action ω α) session = (.ok value, session) := rfl

theorem bind_apply (action : Action ω α) (next : α → Action ω β) (session : Session ω) :
    (action >>= next) session = after (action session) next := rfl

theorem throw_apply (fault : Fault) (session : Session ω) :
    (throw fault : Action ω α) session = (.error fault, session) := rfl

@[simp] theorem after_ok (value : α) (session : Session ω) (next : α → Action ω β) :
    after (.ok value, session) next = next value session := rfl

@[simp] theorem after_error (fault : Fault) (session : Session ω) (next : α → Action ω β) :
    after (.error fault, session) next = (.error fault, session) := rfl

theorem after_pure (result : Except Fault α × Session ω) : after result pure = result := by
  obtain ⟨_ | _, _⟩ := result <;> rfl

instance : LawfulMonad (Action ω) :=
  LawfulMonad.mk' (Action ω)
    (fun action => funext fun session => after_pure (action session))
    (fun _ _ => rfl)
    (fun action first second => funext fun session => by
      simp only [bind_apply]
      obtain ⟨_ | _, _⟩ := action session <;> rfl)

/-! ## Faults -/

/-- Turns the faults of an action into others. -/
def converting (convert : Fault → Fault) (action : Action ω α) : Action ω α := fun session =>
  match action session with
  | (.ok value, session) => (.ok value, session)
  | (.error fault, session) => (.error (convert fault), session)

/-- Cleans up after a fault before it is passed on.  A fault of the cleaning up
takes its place. -/
def cleaning (action : Action ω α) (cleanUp : Action ω Unit) : Action ω α := fun session =>
  match action session with
  | (.ok value, session) => (.ok value, session)
  | (.error fault, session) => (do cleanUp; throw fault : Action ω α) session

/-- The outcome of an action as its value, so that a fault ends nothing. -/
def attempt (action : Action ω α) : Action ω (Except Fault α) := fun session =>
  match action session with
  | (result, session) => (.ok result, session)

/-! ## The registry -/

/-- The present registry. -/
def registry : Action ω Registry := fun session =>
  (.ok session.registry, session)

/-- Changes the registry. -/
def modifyRegistry (change : Registry → Registry) : Action ω Unit := fun session =>
  (.ok (), { session with registry := change session.registry })

/-- The connection of a name, which is registered for it if need be. -/
def connection (name : String) : Action ω Connection := do
  modifyRegistry fun registry => registry.register name
  return (← registry).connection name

/-! ## The outside world -/

/-- The present state of the world outside. -/
def outside : Action ω ω := fun session =>
  (.ok session.outside, session)

/-- Makes a request to the world outside. -/
def request (ask : ω → Except Fault α × ω) : Action ω α := fun session =>
  match ask session.outside with
  | (result, outside) => (result, { session with outside })

/-- Changes the world outside. -/
def modifyOutside (change : ω → ω) : Action ω Unit :=
  request fun outside => (.ok (), change outside)

section

variable [Engine ω]

/-- Connects to the file at a path. -/
def connect (path : String) (timeout : Floating) : Action ω Handle :=
  request (Engine.connect path timeout)

/-- Runs a statement on a connection. -/
def execute (handle : Handle) (statement : Statement) : Action ω ResultSet :=
  request (Engine.execute handle statement)

/-- Closes a connection. -/
def close (handle : Handle) : Action ω Unit :=
  request (Engine.close handle)

/-- Whether a connection is in a transaction. -/
def inTransaction (handle : Handle) : Action ω Bool := do
  return Engine.inTransaction handle (← outside)

end

end Action

end SqlAccess
