import SqlAccess.Proofs.Entity.Creation
import SqlAccess.Proofs.Row.Lookup
import SqlAccess.Proofs.Workload.Inquiry

/-!
# Updating instances

A record that is to be updated says which row is meant by the first value that it gives the
primary key.  An update takes at most two batches: the first one gives the other columns
their values in this row, unless there are none, and the second one asks for the row
(`Updates`).  So the primary key is compared and never assigned, and without a value for it
nothing is asked of the engine.

The first row of the answer becomes an instance, if there is one.  An instance takes its
fields by name, and there is one name that it does not take (`Rereads`); a row that has it
was updated all the same (`update_misnamed`).

Main result: every update goes one of these ways (`update_rereads`).
-/

namespace SqlAccess

open SqlAccess.Action Workload
open SqlAccess.Text (listing)

namespace Entity

/-! ## What is sent -/

/-- The statement that gives columns their values in the row with a primary key. -/
def changing (entity : Entity) (fields : List (String × Value)) (key : Value) : Statement :=
  let assignments := listing (fields.map fun field => s!"{field.1} = ?")
  ⟨s!"UPDATE {entity.table} SET {assignments} WHERE {entity.primaryKey} = ?;",
    fields.map Prod.snd ++ [key]⟩

/-- What becomes of a record that is updated: which statements are submitted, each in a batch
of its own, and what is given in the end. -/
inductive Updates (entity : Entity) (database : Database) (items : List (String × Value))
    (before : Session World) :
    List Statement → Except Fault (Option Instance) → Session World → Prop where
  /-- The record does not say which row is meant. -/
  | keyless :
      items.lookup entity.primaryKey = none →
        Updates entity database items before []
          (.error (.missingKey (.text entity.primaryKey))) before
  /-- There is nothing to write. -/
  | read {key : Value} {entries : List (Event Note)} {found : Except Fault (List Outcome)}
      {after : Session World} :
      items.lookup entity.primaryKey = some key → entity.nonKeys items = [] →
      Ran database.name [entity.reading key] before entries found after →
        Updates entity database items before [entity.reading key] (entity.given found) after
  | refused {key : Value} {entries : List (Event Note)} {fault : Fault} {after : Session World} :
      items.lookup entity.primaryKey = some key → entity.nonKeys items ≠ [] →
      Ran database.name [entity.changing (entity.nonKeys items) key] before entries
        (.error fault) after →
        Updates entity database items before [entity.changing (entity.nonKeys items) key]
          (.error fault) after
  | updated {key : Value} {entries more : List (Event Note)} {outcomes : List Outcome}
      {found : Except Fault (List Outcome)} {between after : Session World} :
      items.lookup entity.primaryKey = some key → entity.nonKeys items ≠ [] →
      Ran database.name [entity.changing (entity.nonKeys items) key] before entries
        (.ok outcomes) between →
      Ran database.name [entity.reading key] between more found after →
        Updates entity database items before
          [entity.changing (entity.nonKeys items) key, entity.reading key]
          (entity.given found) after

/-- What an update gives, by the answer to the question for its row. -/
inductive Rereads (entity : Entity) :
    Except Fault (List Outcome) → Except Fault (Option Instance) → Prop where
  | refused {fault : Fault} : Rereads entity (.error fault) (.error fault)
  | first {outcomes : List Outcome} :
      (∀ row ∈ (outcomes.headD {}).rows, "self" ∉ row.names) →
        Rereads entity (.ok outcomes)
          (.ok ((outcomes.headD {}).rows.head?.map (Instance.mk entity.name)))
  /-- A row has the name that is not available for a field. -/
  | misnamed {outcomes : List Outcome} {row : Row} :
      row ∈ (outcomes.headD {}).rows → "self" ∈ row.names →
        Rereads entity (.ok outcomes)
          (.error (.mistake (.repeatedArgument "Model.__init__" "self")))

variable {entity : Entity} {database : Database} {record : Record}
  {items : List (String × Value)}

theorem suffix_keyClause (entity : Entity) :
    Condition.suffix (some entity.keyClause) = s!" WHERE {entity.keyClause}" := by
  have hblank : Text.isBlankText entity.keyClause = false := by
    refine isBlankText_of_placeholder ?_
    rw [keyClause, String.toList_append]
    exact List.mem_append_right _ (by decide)
  rw [Condition.suffix, hblank, if_neg Bool.false_ne_true]

theorem assignment_keyClause (entity : Entity) (fields : List (String × Value)) (key : Value) :
    Statement.assignment entity.table fields (some entity.keyClause) [key] =
      entity.changing fields key := by
  refine congrArg₂ Statement.mk ?_ rfl
  rw [suffix_keyClause, keyClause]
  simp [← String.toList_inj, toString]

/-! ## What is given -/

theorem instantiate_eq_ok {row : Row} (h : "self" ∉ row.names) :
    entity.instantiate row = .ok ⟨entity.name, row⟩ := by
  unfold instantiate
  rw [if_neg (by simpa using h)]

theorem mapM_instantiate {rows : List Row} (h : ∀ row ∈ rows, "self" ∉ row.names) :
    rows.mapM entity.instantiate = .ok (rows.map (Instance.mk entity.name)) := by
  rw [mapM_eq_ok_iff, List.forall₂_map_right_iff, List.forall₂_same]
  exact fun row hrow => instantiate_eq_ok (h row hrow)

theorem fault_of_instantiate {row : Row} {fault : Fault}
    (h : entity.instantiate row = .error fault) :
    fault = .mistake (.repeatedArgument "Model.__init__" "self") := by
  unfold instantiate at h
  split at h <;> cases h
  rfl

theorem mapM_instantiate_of_misnamed {rows : List Row} {row : Row} (hrow : row ∈ rows)
    (h : "self" ∈ row.names) :
    rows.mapM entity.instantiate =
      .error (.mistake (.repeatedArgument "Model.__init__" "self")) := by
  cases hinstances : rows.mapM entity.instantiate with
  | error fault =>
      obtain ⟨other, -, hfault⟩ := exists_of_mapM_eq_error hinstances
      rw [fault_of_instantiate hfault]
  | ok instances =>
      obtain ⟨_, -, hmade⟩ := exists_mem_of_mapM_eq_ok hinstances hrow
      unfold instantiate at hmade
      rw [if_pos (by simpa using h)] at hmade
      cases hmade

theorem rereads_given (found : Except Fault (List Outcome)) :
    Rereads entity found (entity.given found) := by
  unfold given
  cases found with
  | error fault => exact .refused
  | ok outcomes =>
      change Rereads entity (.ok outcomes) (do
        let instances ← (outcomes.headD {}).rows.mapM entity.instantiate
        return instances.head?)
      by_cases hnames : ∀ row ∈ (outcomes.headD {}).rows, "self" ∉ row.names
      · rw [mapM_instantiate hnames]
        change Rereads entity (.ok outcomes) (.ok ((outcomes.headD {}).rows.map _).head?)
        rw [List.head?_map]
        exact .first hnames
      · push Not at hnames
        obtain ⟨row, hrow, hself⟩ := hnames
        rw [mapM_instantiate_of_misnamed hrow hself]
        exact .misnamed hrow hself

/-! ## What is done -/

theorem head?_keys (entity : Entity) (items : List (String × Value)) :
    (entity.keys items).head? = items.lookup entity.primaryKey := by
  induction items with
  | nil => rfl
  | cons field items ih =>
      rw [Row.lookup_cons_eq_ite]
      by_cases hfield : field.1 = entity.primaryKey
      · simp [keys, hfield]
      · rw [if_neg (Ne.symm hfield), ← ih]
        simp [keys, hfield]

/-- The items that give the primary key a value are only looked at for the first of them. -/
theorem update_eq {ω : Type} [Engine ω] (hbound : entity.bound = .ok database)
    (hitems : record.items = .ok items) :
    (entity.update record : Action ω (Option Instance)) =
      match items.lookup entity.primaryKey with
      | none => throw (.missingKey (.text entity.primaryKey))
      | some key =>
        if entity.nonKeys items = [] then entity.find key
        else database.execute (entity.changing (entity.nonKeys items) key) >>= fun _ =>
          entity.find key := by
  unfold update
  rw [hitems, lift_ok_bind, ← head?_keys]
  cases entity.keys items with
  | nil => rfl
  | cons key others =>
      dsimp only [List.head?_cons]
      cases hfields : entity.nonKeys items with
      | nil => rfl
      | cons field fields =>
          rw [if_neg (List.cons_ne_nil _ _), hbound, ← assignment_keyClause]
          rfl

theorem Ran.exists_ofResult {name : String} {statement : Statement} {before after : Session World}
    {entries : List (Event Note)} {outcomes : List Outcome}
    (h : Ran name [statement] before entries (.ok outcomes) after) :
    ∃ result, outcomes = [.ofResult statement.isInsertion result] := by
  cases h.transacts with
  | opened _ hcourse =>
      cases hcourse with
      | committed _ hanswered _ =>
          cases hanswered with
          | cons _ _ hrest =>
              cases hrest
              exact ⟨_, rfl⟩

theorem exists_ran_find (hbound : entity.bound = .ok database) (key : Value)
    (session : Session World) :
    ∃ entries found after, Ran database.name [entity.reading key] session entries found after ∧
      entity.find key session = (entity.given found, after) := by
  rcases hrun : runBatch database.name [entity.reading key] session with ⟨found, after⟩
  obtain ⟨entries, hran⟩ := exists_ran (List.cons_ne_nil _ _) hrun
  refine ⟨entries, found, after, hran, ?_⟩
  rw [find_apply hbound, hrun]

/-- Each update goes one of the ways. -/
theorem exists_updates (hbound : entity.bound = .ok database) (hitems : record.items = .ok items)
    (session : Session World) :
    ∃ submitted stored after, Updates entity database items session submitted stored after ∧
      entity.update record session = (stored, after) := by
  rw [update_eq hbound hitems]
  cases hkey : items.lookup entity.primaryKey with
  | none => exact ⟨_, _, _, .keyless hkey, rfl⟩
  | some key =>
      dsimp only
      split_ifs with hfields
      · obtain ⟨entries, found, after, hreading, hfind⟩ := exists_ran_find hbound key session
        exact ⟨_, _, _, .read hkey hfields hreading, hfind⟩
      · unfold Database.execute Database.executeAll
        rcases hrun : runBatch database.name [entity.changing (entity.nonKeys items) key] session
          with ⟨fault | outcomes, between⟩
        · obtain ⟨entries, hran⟩ := exists_ran (List.cons_ne_nil _ _) hrun
          refine ⟨_, _, _, .refused hkey hfields hran, ?_⟩
          simp only [bind_apply, hrun, after_error]
        · obtain ⟨entries, hran⟩ := exists_ran (List.cons_ne_nil _ _) hrun
          obtain ⟨more, found, after, hreading, hfind⟩ := exists_ran_find hbound key between
          refine ⟨_, _, _, .updated hkey hfields hran hreading, ?_⟩
          simp only [bind_apply, hrun, after_ok, pure_apply, hfind]

/-- A record is updated in the row of the first value that it gives the primary key: the other
columns are given their values in the order of the record, if there are any, and then the one
question for this row is asked.  The first row of the answer is given as an instance, unless
a column has the name that is not available. -/
theorem update_rereads (hbound : entity.bound = .ok database) (hitems : record.items = .ok items)
    (session : Session World) :
    let ending := entity.update record session
    (∃ submitted, Updates entity database items session submitted ending.1 ending.2) ∧
      ∀ found, Rereads entity found (entity.given found) := by
  intro ending
  refine ⟨?_, rereads_given⟩
  obtain ⟨submitted, stored, after, hupdates, hupdate⟩ := exists_updates hbound hitems session
  have hending : ending = (stored, after) := hupdate
  rw [hending]
  exact ⟨submitted, hupdates⟩

/-- Pairs whose columns are texts are the items of a record. -/
theorem items_pairs (items : List (String × Value)) :
    (Record.pairs (.list (items.map fun item => .list [.text item.1, item.2]))).items =
      .ok items := by
  change (items.map fun item => Value.list [.text item.1, item.2]).mapM Record.assignment = _
  rw [mapM_eq_ok_iff, List.forall₂_map_left_iff, List.forall₂_same]
  exact fun _ _ => rfl

/-- A record that gives the primary key two values, and another column as well. -/
def twofold : List (String × Value) :=
  [("id", .int 7), ("name", .text "Bob"), ("id", .int 8), ("name", .text "Rob")]

/-- The reply to the change of one row. -/
def changed : Reply where
  result := { changes := 1 }

/-- The row of the first value is updated. -/
theorem update_rereads_twofold :
    let record := Record.pairs (.list (twofold.map fun item => .list [.text item.1, item.2]))
    let session := serving [{}, changed, {}, {}, rereading] []
    let ending := users.update record session
    users.bound = .ok ⟨"app.db"⟩ ∧ record.items = .ok twofold ∧
    (∃ submitted, Updates users ⟨"app.db"⟩ twofold session submitted ending.1 ending.2) ∧
    users.changing (users.nonKeys twofold) (.int 7) =
      ⟨"UPDATE users SET name = ?, name = ? WHERE id = ?;",
        [.text "Bob", .text "Rob", .int 7]⟩ := by
  intro record session ending
  have hbound : users.bound = .ok ⟨"app.db"⟩ := rfl
  have hitems : record.items = .ok twofold := items_pairs twofold
  obtain ⟨hupdates, -⟩ := update_rereads hbound hitems session
  exact ⟨hbound, hitems, hupdates, congrArg₂ Statement.mk (by decide +kernel) rfl⟩

/-- The reply to the question for a row with the name that is not available. -/
def misnamed : Reply where
  result := { columns := ["id", "self"], rows := [[.int 7, .text "Bob"]] }

/-- A row is changed and read again, but it does not become an instance. -/
theorem update_misnamed :
    users.update (.row ⟨[("id", .int 7), ("self", .text "Bob")]⟩)
        (serving [{}, changed, {}, {}, misnamed] []) =
      (.error (.mistake (.repeatedArgument "Model.__init__" "self")), serving []
        [.call (.execute ⟨1⟩ .beginning) {},
          .call (.execute ⟨1⟩
            ⟨"UPDATE users SET self = ? WHERE id = ?;", [.text "Bob", .int 7]⟩) changed,
          .call (.execute ⟨1⟩ .commit) {}, .call (.execute ⟨1⟩ .beginning) {},
          .call (.execute ⟨1⟩ ⟨"SELECT * FROM users WHERE id = ? LIMIT 1", [.int 7]⟩) misnamed,
          .call (.execute ⟨1⟩ .commit) {}]) := by
  have hbound : users.bound = .ok ⟨"app.db"⟩ := rfl
  have hchanging : users.changing [("self", .text "Bob")] (.int 7) =
      ⟨"UPDATE users SET self = ? WHERE id = ?;", [.text "Bob", .int 7]⟩ :=
    congrArg₂ Statement.mk (by decide +kernel) rfl
  have hreading : users.reading (.int 7) = ⟨"SELECT * FROM users WHERE id = ? LIMIT 1", [.int 7]⟩ :=
    congrArg₂ Statement.mk (by decide +kernel) rfl
  have hchanged : runBatch "app.db"
      [⟨"UPDATE users SET self = ? WHERE id = ?;", [.text "Bob", .int 7]⟩]
        (serving [{}, changed, {}, {}, misnamed] []) =
      (.ok [.ofResult false changed.result], serving [{}, misnamed]
        [.call (.execute ⟨1⟩ .beginning) {},
          .call (.execute ⟨1⟩
            ⟨"UPDATE users SET self = ? WHERE id = ?;", [.text "Bob", .int 7]⟩) changed,
          .call (.execute ⟨1⟩ .commit) {}]) := rfl
  have hupdate : (users.update (.row ⟨[("id", .int 7), ("self", .text "Bob")]⟩) :
      Action World (Option Instance)) =
        (⟨"app.db"⟩ : Database).execute (users.changing [("self", .text "Bob")] (.int 7)) >>=
          fun _ => users.find (.int 7) :=
    (update_eq hbound (Record.items_row _)).trans rfl
  rw [hupdate, hchanging]
  unfold Database.execute Database.executeAll
  simp only [bind_apply, hchanged, after_ok, pure_apply]
  rw [find_apply hbound, hreading]
  rfl

end Entity

end SqlAccess
