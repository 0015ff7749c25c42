import SqlAccess.Table.Draft

/-!
# The parts that steps declare

A draft has parts of three kinds, its columns, its foreign keys and its indexes, and for each
of them the steps of a declaration do the same: one adds a part at the end, another changes
the part at a position, and all the others leave the parts of the kind alone (`PartStep`,
`PartKind`).

What was said of a part is what the step that adds it says, and then every change that a later
step makes at its position, whatever stands between them (`PartStep.said`).  The parts of the
draft are just these: one for each step that adds one, in their order, with all that was said
of it (`PartKind.parts_of_declareAll`).
-/

namespace SqlAccess

/-- What a step does to the parts of a kind: it adds one, which starts from what it gives, or
it changes the one at a position. -/
inductive PartStep (ι α : Type) where
  /-- Adds a part and changes it at once. -/
  | adds (given : ι) (changes : List α)
  /-- Changes the part at a position. -/
  | alters (position : Nat) (change : α)
  | leaves

namespace PartStep

variable {ι δ α : Type}

/-- A part with everything that was said of it. -/
def made (start : ι → δ) (change : δ → α → δ) (words : ι × List α) : δ :=
  words.2.foldl change (start words.1)

/-- The parts after a step. -/
def apply (start : ι → δ) (change : δ → α → δ) (parts : List δ) : PartStep ι α → List δ
  | adds given changes => parts ++ [made start change (given, changes)]
  | alters position c => parts.modify position (change · c)
  | leaves => parts

/-- The change that a step makes at a position. -/
def changeAt? (position : Nat) : PartStep ι α → Option α
  | alters place c => if place = position then some c else none
  | _ => none

/-- The changes that steps make at a position. -/
def later (position : Nat) (steps : List (PartStep ι α)) : List α :=
  steps.filterMap (changeAt? position)

/-- The parts that steps add behind a number of parts, each with everything that they say of
it. -/
def said (count : Nat) : List (PartStep ι α) → List (ι × List α)
  | [] => []
  | adds given changes :: steps => (given, changes ++ later count steps) :: said (count + 1) steps
  | _ :: steps => said count steps

@[simp] theorem later_nil (position : Nat) : later position ([] : List (PartStep ι α)) = [] := rfl

@[simp] theorem later_cons_adds (position : Nat) (given : ι) (changes : List α)
    (steps : List (PartStep ι α)) :
    later position (adds given changes :: steps) = later position steps := rfl

theorem later_cons_alters (position place : Nat) (c : α) (steps : List (PartStep ι α)) :
    later position (alters place c :: steps) =
      if place = position then c :: later position steps else later position steps := by
  by_cases h : place = position <;> simp [later, changeAt?, h]

theorem mapIdx_modify {β : Type} (f : Nat → δ → β) (g : δ → δ) (position : Nat) (parts : List δ) :
    (parts.modify position g).mapIdx f =
      parts.mapIdx fun place part => f place (if position = place then g part else part) := by
  refine List.ext_getElem? fun place => ?_
  rw [List.getElem?_mapIdx, List.getElem?_mapIdx, List.getElem?_modify]
  cases parts[place]? <;> rfl

/-- The parts that are there get the changes at their positions, and behind them stand those
that are added. -/
theorem foldl_apply (start : ι → δ) (change : δ → α → δ) (steps : List (PartStep ι α))
    (parts : List δ) :
    steps.foldl (apply start change) parts =
      parts.mapIdx (fun position part => (later position steps).foldl change part) ++
        (said parts.length steps).map (made start change) := by
  induction steps generalizing parts with
  | nil =>
      have hsame : parts.mapIdx (fun _ part => part) = parts :=
        List.ext_getElem? fun position => by simp
      simp only [later_nil, List.foldl_nil, said, List.map_nil, List.append_nil, hsame]
  | cons step steps ih =>
      rw [List.foldl_cons, ih]
      cases step with
      | adds given changes =>
          -- the new part is the last of those that are there, and it gets the later changes
          simp [apply, said, made, List.mapIdx_append]
      | alters position c =>
          have hcount : (apply start change parts (alters position c)).length = parts.length :=
            List.length_modify _ _ _
          have hlater : (fun place part => (later place steps).foldl change
              (if position = place then change part c else part)) =
              fun place part => (later place (alters position c :: steps)).foldl change part := by
            funext place part
            rw [later_cons_alters]
            split <;> rfl
          rw [hcount, apply, mapIdx_modify, hlater, said]
          nofun
      | leaves => rfl

end PartStep

/-- A kind of parts. -/
structure PartKind (ι δ α : Type) where
  parts : TableDraft → List δ
  /-- A part as it is added. -/
  start : ι → δ
  change : δ → α → δ
  /-- What a step does to the parts of the kind. -/
  role : Declaration → PartStep ι α
  parts_empty : parts {} = []
  parts_declare {draft after : TableDraft} {step : Declaration} :
    draft.declare step = .ok after → parts after = (role step).apply start change (parts draft)

namespace PartKind

variable {ι δ α : Type} (kind : PartKind ι δ α)

/-- The parts that steps add, each with everything that they say of it. -/
def said (steps : List Declaration) : List (ι × List α) :=
  PartStep.said 0 (steps.map kind.role)

/-- The part that words make. -/
def made : ι × List α → δ :=
  PartStep.made kind.start kind.change

theorem parts_declareAll {steps : List Declaration} {draft after : TableDraft}
    (h : draft.declareAll steps = .ok after) :
    kind.parts after = (steps.map kind.role).foldl (PartStep.apply kind.start kind.change)
      (kind.parts draft) := by
  induction steps generalizing draft with
  | nil => cases h; rfl
  | cons step steps ih =>
      cases hstep : draft.declare step with
      | error fault =>
          rw [TableDraft.declareAll, List.foldlM_cons, hstep] at h
          cases h
      | ok between =>
          rw [TableDraft.declareAll, List.foldlM_cons, hstep] at h
          rw [ih h, kind.parts_declare hstep]
          rfl

/-- The parts of a draft are those that its steps say. -/
theorem parts_of_declareAll {steps : List Declaration} {after : TableDraft}
    (h : TableDraft.declareAll {} steps = .ok after) :
    kind.parts after = (kind.said steps).map kind.made := by
  rw [kind.parts_declareAll h, kind.parts_empty, PartStep.foldl_apply]
  rfl

end PartKind

/-! ## The three kinds -/

/-- Columns; a step that adds one gives its name and its type. -/
def columnKind : PartKind (Value × Value) ColumnDraft ColumnChange where
  parts := TableDraft.columns
  start given := { name := given.1, type := given.2 }
  change := ColumnDraft.change
  role
    | .column name type changes => .adds (name, type) changes
    | .changeColumn position change => .alters position change
    | _ => .leaves
  parts_empty := rfl
  parts_declare {_ _ step} h := by cases step <;> cases h <;> rfl

/-- Foreign keys; a step that adds one gives nothing but changes. -/
def foreignKeyKind : PartKind Unit ForeignKeyDraft ForeignKeyChange where
  parts := TableDraft.foreignKeys
  start _ := {}
  change := ForeignKeyDraft.change
  role
    | .foreignKey changes => .adds () changes
    | .changeForeignKey position change => .alters position change
    | _ => .leaves
  parts_empty := rfl
  parts_declare {_ _ step} h := by cases step <;> cases h <;> rfl

/-- Indexes; a step that adds one gives its name. -/
def indexKind : PartKind Value IndexDraft IndexChange where
  parts := TableDraft.indexes
  start name := { name }
  change := IndexDraft.change
  role
    | .index name changes => .adds name changes
    | .changeIndex position change => .alters position change
    | _ => .leaves
  parts_empty := rfl
  parts_declare {_ _ step} h := by cases step <;> cases h <;> rfl

/-- Steps of which none gives up make a draft. -/
theorem TableDraft.exists_declareAll {steps : List Declaration} (h : ∀ fault, .fail fault ∉ steps)
    (draft : TableDraft) : ∃ after, draft.declareAll steps = .ok after := by
  induction steps generalizing draft with
  | nil => exact ⟨draft, rfl⟩
  | cons step steps ih =>
      have hstep : ∃ between, draft.declare step = .ok between := by
        cases step with
        | fail fault => exact absurd List.mem_cons_self (h fault)
        | _ => exact ⟨_, rfl⟩
      obtain ⟨between, hbetween⟩ := hstep
      obtain ⟨after, hafter⟩ := ih (fun fault hmem => h fault (List.mem_cons_of_mem _ hmem)) between
      refine ⟨after, ?_⟩
      rw [TableDraft.declareAll, List.foldlM_cons, hbetween]
      exact hafter

end SqlAccess
