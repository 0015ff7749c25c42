import SqlAccess.Entity.Saving
import SqlAccess.Workload.Member

/-!
# What variables hold

A variable holds what an entity has answered, which need not be an instance.
-/

namespace SqlAccess.Workload

/-- What a variable holds. -/
inductive Holding where
  | value (value : Value)
  | item (item : Instance)
  | items (items : List Instance)
  | statement (statement : Statement)

namespace Holding

/-- The name under which messages speak of what a variable holds. -/
def kindName : Holding → String
  | value v => v.kindName
  | item i => i.entity
  | items _ => "list"
  | statement _ => "StatementRequest"

/-- The instance that a variable holds, of which something is wanted. -/
def instanceFor (wanted : String) : Holding → Except Fault Instance
  | item i => .ok i
  | holding => .error (.unknownCall holding.kindName wanted)

/-- Why nothing can be set on a value. -/
def refusal (value : Value) (field : String) (content : Value) : Fault :=
  if field = "__class__" then .mistake (.notEntity content.kindName)
  else if value matches .int _ ∧ derivedMembers.contains field then
    .readOnly field value.kindName
  else if (membersOf value).contains field then .fixedMember field value.kindName
  else .unknownCall value.kindName field

/-- The instance with a field set.  Nothing else has fields that can be set, and a
statement never changes. -/
def set (field : String) (content : Value) : Holding → Except Fault Instance
  | item i => i.set field content
  | value v => .error (refusal v field content)
  | items _ => .error (refusal (.list []) field content)
  | statement _ => .error (.fixedField field)

/-- The parameters of a statement as its description lists them. -/
def tuple : List Value → String
  | [single] => s!"({single.quoted},)"
  | values => s!"({Text.listing (values.map Value.quoted)})"

/-- The text that describes what a variable holds. -/
def describe : Holding → Except Fault String
  | value v => do
    v.checkWritable
    return v.quoted
  | item i => i.describe
  | items is => do return s!"[{Text.listing (← is.mapM Instance.describe)}]"
  | statement s => do
    s.params.forM Value.checkWritable
    return s!"StatementRequest(sql={Text.quoted s.sql}, params={tuple s.params})"

/-- Whether instances equal others one by one. -/
def sameItems : List Instance → List Instance → Except Fault Bool
  | [], [] => .ok true
  | first :: firsts, second :: seconds => do
    if ← first.same second then sameItems firsts seconds else return false
  | _, _ => .ok false

/-- Whether what two variables hold is equal. -/
def same : Holding → Holding → Except Fault Bool
  | value x, value y => .ok (x.same y)
  | item x, item y => x.same y
  | items xs, items ys => if xs.length = ys.length then sameItems xs ys else .ok false
  | statement x, statement y => .ok (x.sql == y.sql && Value.sameItems x.params y.params)
  | _, _ => .ok false

/-- Whether what a variable holds is equal to itself.  It is, but an instance is
asked for its record all the same. -/
def sameAsItself : Holding → Except Fault Bool
  | item i => do
    let _ ← i.record
    return true
  | _ => .ok true

end Holding

end SqlAccess.Workload
