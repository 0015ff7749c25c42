import SqlAccess.Engine
import SqlAccess.Statement.Control

/-!
# Scripted engines

A scripted engine answers the requests it gets by the replies of a script, one
after the other, whatever is asked.  When the script has ended it answers with
empty results.  All requests are written into a journal with their replies, and
notes can be put between them.

Connections are numbered in the order of the requests for them, so that a
request that fails uses up a number too.  A connection is in a transaction from
a successful beginning on, up to a successful commit or rollback, unless a
reply says otherwise.
-/

namespace SqlAccess

/-- A reply of a script. -/
structure Reply where
  /-- The fault with which the request fails, if it does. -/
  fault : Option Fault := none
  /-- The result, if the request is a statement. -/
  result : ResultSet := {}
  /-- Whether the connection is in a transaction from now on, if the reply says
  so. -/
  inTransaction : Option Bool := none

instance : Inhabited Reply := ⟨{}⟩

/-- A request to an engine. -/
inductive Call where
  | connect (path : String) (timeout : Floating)
  | execute (handle : Handle) (statement : Statement)
  | close (handle : Handle)
  deriving Repr

/-- An entry of a journal, in which notes of a type `ν` stand. -/
inductive Event (ν : Type) where
  /-- A request and the reply to it. -/
  | call (call : Call) (reply : Reply)
  /-- A note. -/
  | note (note : ν)

/-- The state of a scripted engine. -/
structure Script (ν : Type) where
  replies : List Reply := []
  /-- The number of requests for a connection so far. -/
  connected : Nat := 0
  /-- The connections that are in a transaction. -/
  active : List Handle := []
  journal : List (Event ν) := []

namespace Script

variable {ν : Type}

/-- Puts a note into the journal. -/
def note (script : Script ν) (note : ν) : Script ν :=
  { script with journal := script.journal ++ [.note note] }

/-- Takes the next reply, and writes the request with it into the journal. -/
def take (script : Script ν) (call : Call) : Reply × Script ν :=
  let reply := script.replies.headD {}
  (reply,
    { script with replies := script.replies.tail
                  journal := script.journal ++ [.call call reply] })

/-- Sets whether a connection is in a transaction. -/
def setActive (script : Script ν) (handle : Handle) (isActive : Bool) : Script ν :=
  { script with
    active := if isActive then handle :: script.active else script.active.filter (· ≠ handle) }

/-- Does what a reply says about the transaction of a connection. -/
def obey (script : Script ν) (handle : Handle) (reply : Reply) : Script ν :=
  match reply.inTransaction with
  | some isActive => script.setActive handle isActive
  | none => script

/-- What a successful statement means for the transaction of its connection. -/
def follow (script : Script ν) (handle : Handle) (statement : Statement) : Script ν :=
  if statement.sql = Statement.beginning.sql then script.setActive handle true
  else if statement.sql = Statement.commit.sql ∨ statement.sql = Statement.rollback.sql then
    script.setActive handle false
  else script

/-- The answer of a reply: its fault, or else the given value. -/
def Reply.answer {α : Type} (reply : Reply) (value : α) : Except Fault α :=
  match reply.fault with
  | some fault => .error fault
  | none => .ok value

/-- Answers a request for a connection. -/
def connect (script : Script ν) (path : String) (timeout : Floating) :
    Except Fault Handle × Script ν :=
  let (reply, script) := script.take (.connect path timeout)
  let handle := ⟨script.connected + 1⟩
  (Reply.answer reply handle, { script with connected := script.connected + 1 }.obey handle reply)

/-- Answers a statement. -/
def execute (script : Script ν) (handle : Handle) (statement : Statement) :
    Except Fault ResultSet × Script ν :=
  let (reply, script) := script.take (.execute handle statement)
  let script := if reply.fault.isNone then script.follow handle statement else script
  (Reply.answer reply reply.result, script.obey handle reply)

/-- Answers a request to close a connection. -/
def close (script : Script ν) (handle : Handle) : Except Fault Unit × Script ν :=
  let (reply, script) := script.take (.close handle)
  (Reply.answer reply (), script.obey handle reply)

instance : Engine (Script ν) where
  connect path timeout script := script.connect path timeout
  execute handle statement script := script.execute handle statement
  close handle script := script.close handle
  inTransaction handle script := script.active.contains handle

end Script

end SqlAccess
