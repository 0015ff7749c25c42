import SqlAccess.Entity

/-!
# Families of entities

An entity can be derived from another one.  It takes over the table and the
primary key unless it sets them itself, and it is bound to the database of its
nearest ancestor that is bound, as long as it is not bound itself.
-/

namespace SqlAccess

/-- A member of a family. -/
structure Member where
  name : String
  table : String
  /-- The column of the primary key. -/
  primaryKey : String
  /-- The numbers of the member and of its ancestors, the nearest one first. -/
  lineage : List Nat
  deriving DecidableEq, Repr

/-- A family of entities.  Its members are numbered in the order in which they
were added, since a later one may have the name of an earlier one. -/
structure Family where
  /-- The members, the latest one first. -/
  members : List Member := []
  /-- The databases that members were bound to, the latest one first. -/
  bindings : List (Nat × Database) := []
  deriving Repr

namespace Family

/-- The latest member of a name. -/
def member? (family : Family) (name : String) : Option Member :=
  family.members.find? fun member => member.name == name

/-- What every member descends from. -/
def root : Member := ⟨"", "", "id", []⟩

/-- Adds a member that is derived from another one; what it does not set it
takes over. -/
def derive (family : Family) (name : String) (base table primaryKey : Option String) : Family :=
  let parent := (base.bind family.member?).getD root
  let member := {
    name
    table := table.getD parent.table
    primaryKey := primaryKey.getD parent.primaryKey
    lineage := family.members.length :: parent.lineage }
  { family with members := member :: family.members }

/-- Binds a member to a database. -/
def bind (family : Family) (name : String) (database : Database) : Family :=
  match (family.member? name).bind fun member => member.lineage.head? with
  | some number => { family with bindings := (number, database) :: family.bindings }
  | none => family

/-- The entity that a member is. -/
def entity? (family : Family) (name : String) : Option Entity :=
  (family.member? name).map fun member =>
    { name := member.name
      table := member.table
      primaryKey := member.primaryKey
      database := member.lineage.findSome? fun ancestor => family.bindings.lookup ancestor }

end Family

end SqlAccess
