import SqlAccess.Engine
import SqlAccess.Proofs.Action.Ends
import SqlAccess.Statement.Control

/-!
# Engines that number rows

An engine gives numbers to the rows that it inserts, and for each connection it keeps
the last number that it gave.  The answer to a statement tells what is kept, whoever
has put it there: a statement that inserts no row, or one without a number, leaves the
number of an earlier one in place.

Nothing is said of statements that fail, so they may leave anything behind.
-/

namespace SqlAccess

/-- An engine that numbers rows. -/
structure NumberingEngine (ω : Type) [Engine ω] where
  /-- The number that was last given on a connection. -/
  register : Handle → ω → Option Int
  /-- The number that a statement gives to a row if it is run in a world, if any; the
  last one if there are several. -/
  assigns : Handle → Statement → ω → Option Int
  /-- A number that is given is kept, otherwise the former one stays, and it is told. -/
  runs : ∀ handle statement (world : ω),
    Ends (fun result after => result.lastRow = register handle after ∧
        register handle after =
          (assigns handle statement world).or (register handle world))
      (fun _ _ => True) (Engine.execute handle statement world)
  /-- The row marker gives the marked number. -/
  marks : ∀ handle (world : ω), assigns handle .rowMarker world = some Statement.markedRow

/-! ## An engine for two tables -/

/-- A world with an engine that knows two insertions into tables with numbered rows. -/
structure Tally where
  /-- The insertions so far. -/
  insertions : List String := []
  register : Option Int := none

namespace Tally

/-- The insertions that give a number; each of them counts the rows of its own table. -/
def numbered : List String :=
  ["INSERT INTO cats VALUES (1)", "\n insert into dogs VALUES (1)"]

/-- The number that a statement gives to a row. -/
def assigned (statement : Statement) (tally : Tally) : Option Int :=
  if statement.sql = Statement.rowMarker.sql then some Statement.markedRow
  else if statement.sql ∈ numbered then some (tally.insertions.count statement.sql + 1)
  else none

instance : Engine Tally where
  connect _ _ tally := (.ok ⟨0⟩, tally)
  execute _ statement tally :=
    if statement.sql = "" then (.error (.reported (.engine .programming) "no statement"), tally)
    else
      let register := (tally.assigned statement).or tally.register
      (.ok { changes := 1, lastRow := register },
        { insertions := statement.sql :: tally.insertions, register })
  close _ tally := (.ok (), tally)
  inTransaction _ _ := false

theorem execute_of_ne {handle : Handle} {statement : Statement} {tally : Tally}
    (h : statement.sql ≠ "") :
    Engine.execute handle statement tally =
      (.ok { changes := 1, lastRow := (tally.assigned statement).or tally.register },
        { insertions := statement.sql :: tally.insertions,
          register := (tally.assigned statement).or tally.register }) :=
  if_neg h

/-- It numbers rows. -/
def numbering : NumberingEngine Tally where
  register _ := Tally.register
  assigns _ := assigned
  runs handle statement tally := by
    by_cases hempty : statement.sql = ""
    · have hrefused : Engine.execute handle statement tally =
          (.error (.reported (.engine .programming) "no statement"), tally) := if_pos hempty
      rw [hrefused]
      trivial
    · rw [execute_of_ne hempty]
      exact ⟨rfl, rfl⟩
  marks _ _ := if_pos rfl

end Tally

end SqlAccess
