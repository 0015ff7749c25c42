import SqlAccess.Entity.Saving
import SqlAccess.Proofs.Entity.Finding
import SqlAccess.Proofs.Workload.Opening

/-!
# Creating instances

An instance is created by two batches: the insertion of the record, and the question for
the row that has its primary key (`Entity.reading`).  The value that the question compares
with is that of the record's own primary key, and the number of the inserted row if the
record has none.

For a record whose primary key is null this is not what it should be.  The engine gives
such a row its number as primary key, and this is what identifies it (`Entity.identity`);
but the question compares with null, and finds nothing (`create_nullKey`).

Main result: when the insertion has inserted one row, a creation asks this one question and
gives the first row of the answer, so it gives nothing only if the answer has no rows; and
the question is the one for the inserted row exactly if the record's primary key is not
null (`create_rereads`).
-/

namespace SqlAccess

open SqlAccess.Action Workload

namespace Entity

/-- The question for the row with a primary key. -/
def reading (entity : Entity) (key : Value) : Statement :=
  ⟨s!"SELECT * FROM {entity.table} WHERE {entity.primaryKey} = ? LIMIT 1", [key]⟩

/-- What identifies the row that a record was stored in: its own primary key, if it is not
null, and the number of the row otherwise. -/
def identity (entity : Entity) (items : List (String × Value)) (row : Int) : Value :=
  ((entity.keys items).find? fun key => !key.isNull).getD (.int row)

variable {entity : Entity} {database : Database} {record : Record}
  {items : List (String × Value)} {statement : Statement}

/-- The value that a creation compares with identifies the row unless it is null. -/
theorem headD_keys_eq_identity_iff (hone : (entity.keys items).length ≤ 1) (row : Int) :
    (entity.keys items).headD (.int row) = entity.identity items row ↔
      .null ∉ entity.keys items := by
  unfold identity
  generalize entity.keys items = keys at hone ⊢
  match keys, hone with
  | [], _ => exact iff_of_true rfl List.not_mem_nil
  | [key], _ => cases key <;> simp [Value.isNull]

/-! ## The question -/

theorem comparing_primaryKey (entity : Entity) (key : Value) :
    entity.comparing entity.primaryKey "=" key = entity.reading key := by
  refine congrArg₂ Statement.mk ?_ rfl
  simp [← String.toList_inj, toString]

section

variable {ω : Type} [Engine ω]

theorem create_eq (hbound : entity.bound = .ok database) (hitems : record.items = .ok items)
    (hinsert : Statement.insert entity.table record = .ok statement) :
    (entity.create record : Action ω (Option Instance)) = (do
      match (← database.execute statement).insertId with
      | none => return none
      | some row => entity.find ((entity.keys items).headD (.int row))) := by
  unfold create
  rw [hbound, lift_ok_bind, hinsert, lift_ok_bind, hitems]
  rfl

end

/-! ## The answer -/

theorem given_eq_none_iff (outcome : Outcome) :
    entity.given (.ok [outcome]) = .ok none ↔ outcome.rows = [] := by
  constructor
  · intro h
    have hgiven : (do
        let instances ← outcome.rows.mapM entity.instantiate
        return instances.head? : Except Fault (Option Instance)) = .ok none := h
    obtain ⟨instances, hinstances, h⟩ := exists_of_bind_eq_ok hgiven
    obtain rfl := List.head?_eq_none_iff.mp (Except.ok.inj h)
    exact List.forall₂_nil_right_iff.mp (mapM_eq_ok_iff.mp hinstances)
  · intro h
    change (do
      let instances ← outcome.rows.mapM entity.instantiate
      return instances.head? : Except Fault (Option Instance)) = .ok none
    rw [h]
    rfl

section

variable {session between : Session World} {result : ResultSet} {row : Int}

theorem find_apply (hbound : entity.bound = .ok database) (key : Value) :
    entity.find key session =
      (entity.given (runBatch database.name [entity.reading key] session).1,
        (runBatch database.name [entity.reading key] session).2) := by
  rw [← comparing_primaryKey]
  exact findWhere_apply hbound entity.primaryKey "=" key session

/-- If the insertion of a record has inserted one row, a creation goes on with the question
for it. -/
theorem create_apply (hbound : entity.bound = .ok database) (hitems : record.items = .ok items)
    (hinsert : Statement.insert entity.table record = .ok statement)
    (hinserted : runBatch database.name [statement] session =
      (.ok [.ofResult true result], between))
    (hchanges : result.changes = 1) (hrow : result.lastRow = some row) :
    entity.create record session =
      if row = Statement.markedRow then (.ok none, between)
      else entity.find ((entity.keys items).headD (.int row)) between := by
  have hexecuted : database.execute statement session = (.ok (.ofResult true result), between) := by
    unfold Database.execute Database.executeAll
    rw [bind_apply, hinserted]
    rfl
  have hcreate : entity.create record session =
      (match (Outcome.ofResult true result).insertId with
      | none => pure none
      | some row => entity.find ((entity.keys items).headD (.int row))) between := by
    rw [create_eq hbound hitems hinsert, bind_apply, hexecuted]
    rfl
  rw [hcreate]
  split_ifs with hmarked
  · have hnone : (Outcome.ofResult true result).insertId = none := by
      refine if_neg fun h => h.2.2 ?_
      rw [hrow, hmarked]
    rw [hnone]
    rfl
  · have hsome : (Outcome.ofResult true result).insertId = some row := by
      refine (if_pos ⟨rfl, hchanges, ?_⟩).trans hrow
      rw [hrow]
      exact fun heq => hmarked (Option.some.inj heq)
    rw [hsome]

/-- If the insertion of a record has inserted one row, the creation asks the question for a
single primary key, that of the record, and gives the first instance of the answer.  The
number that marks rows is never taken for that of a row, so for this one nothing is asked.
The question is the one for the inserted row exactly if the record's primary key is not
null. -/
theorem create_rereads (hbound : entity.bound = .ok database) (hitems : record.items = .ok items)
    (hone : (entity.keys items).length ≤ 1)
    (hinsert : Statement.insert entity.table record = .ok statement)
    (hinserted : runBatch database.name [statement] session =
      (.ok [.ofResult true result], between))
    (hchanges : result.changes = 1) (hrow : result.lastRow = some row) :
    let key := (entity.keys items).headD (.int row)
    let ending := entity.create record session
    (row = Statement.markedRow → ending = (.ok none, between)) ∧
    (row ≠ Statement.markedRow → ∃ handle exchanges found,
      between.registry.handle? database.name = some handle ∧
      Scripted handle between exchanges ending.2 ∧
      Course database.name [entity.reading key]
        (Engine.inTransaction handle between.outside) exchanges found ∧
      ending.1 = entity.given found ∧
      (ending.1 = .ok none ↔ ∃ outcome, found = .ok [outcome] ∧ outcome.rows = [])) ∧
    (key = entity.identity items row ↔ .null ∉ entity.keys items) := by
  intro key ending
  have hending : ending = if row = Statement.markedRow then (.ok none, between)
      else entity.find key between :=
    create_apply hbound hitems hinsert hinserted hchanges hrow
  refine ⟨fun hmarked => ?_, fun hmarked => ?_, headD_keys_eq_identity_iff hone row⟩
  · rw [hending, if_pos hmarked]
  · obtain ⟨-, handle, hopen⟩ := registry_of_runBatch (List.cons_ne_nil _ _) hinserted
    rw [hending, if_neg hmarked, find_apply hbound]
    obtain ⟨exchanges, hscripted, hcourse⟩ :=
      runBatch_took hopen (List.cons_ne_nil (entity.reading key) [])
    refine ⟨handle, exchanges, _, hopen, hscripted, hcourse, rfl, ?_⟩
    generalize (runBatch database.name [entity.reading key] between).1 = found at hcourse ⊢
    match found, hcourse with
    | .error fault, _ => exact iff_of_false nofun nofun
    | .ok outcomes, .committed _ hanswered _ =>
        obtain ⟨outcome, rfl⟩ := List.length_eq_one_iff.mp hanswered.length_eq
        rw [given_eq_none_iff]
        refine ⟨fun h => ⟨outcome, rfl, h⟩, ?_⟩
        rintro ⟨found, hfound, hrows⟩
        obtain rfl := List.singleton_inj.mp (Except.ok.inj hfound)
        exact hrows

/-- The table of users. -/
def users : Entity where
  name := "User"
  table := "users"
  database := some ⟨"app.db"⟩

/-- A session whose only connection is open, with the replies that its engine has left and
the journal of the engine. -/
def serving (replies : List Reply) (journal : List (Event Note)) : Session World where
  registry := { connections := [{ name := "app.db", path := "", handle := some ⟨1⟩ }] }
  outside := { script := { connected := 1, replies, journal } }

/-- The reply to the insertion of a row of number 7. -/
def inserting : Reply where
  result := { changes := 1, lastRow := some 7 }

/-- The reply to the question for it. -/
def rereading : Reply where
  result := { columns := ["id", "name"], rows := [[.int 7, .text "Bob"]] }

/-- A record without a primary key is found by the number of its row. -/
theorem create_rereads_bob :
    let items := [("name", Value.text "Bob")]
    let session := serving [{}, {}, inserting, {}, {}, rereading] []
    let insertion : Statement := ⟨"INSERT INTO users (name) VALUES (?);", [.text "Bob"]⟩
    let between := (runBatch "app.db" [insertion] session).2
    let ending := users.create (.row ⟨items⟩) session
    let key := (users.keys items).headD (.int 7)
    key = .int 7 ∧
    (7 = Statement.markedRow → ending = (.ok none, between)) ∧
    (7 ≠ Statement.markedRow → ∃ handle exchanges found,
      between.registry.handle? "app.db" = some handle ∧
      Scripted handle between exchanges ending.2 ∧
      Course "app.db" [users.reading key]
        (Engine.inTransaction handle between.outside) exchanges found ∧
      ending.1 = users.given found ∧
      (ending.1 = .ok none ↔ ∃ outcome, found = .ok [outcome] ∧ outcome.rows = [])) ∧
    (key = users.identity items 7 ↔ .null ∉ users.keys items) := by
  have hbound : users.bound = .ok ⟨"app.db"⟩ := rfl
  have hinsert : Statement.insert "users" (.row ⟨[("name", .text "Bob")]⟩) =
      .ok ⟨"INSERT INTO users (name) VALUES (?);", [.text "Bob"]⟩ :=
    congrArg Except.ok (congrArg₂ Statement.mk (by decide +kernel) rfl)
  have hinserted : (runBatch "app.db" [⟨"INSERT INTO users (name) VALUES (?);", [.text "Bob"]⟩]
      (serving [{}, {}, inserting, {}, {}, rereading] [])).1 =
        .ok [.ofResult true inserting.result] := rfl
  refine ⟨rfl, ?_⟩
  exact create_rereads hbound rfl (by decide) hinsert (Prod.ext hinserted rfl) rfl rfl

/-- A record whose primary key is null: the row that is stored has the number 7 as its
primary key, but the question compares with null, finds no row, and nothing is given. -/
theorem create_nullKey :
    let items := [("id", Value.null), ("name", .text "Bob")]
    let ending := users.create (.row ⟨items⟩) (serving [{}, {}, inserting] [])
    users.identity items 7 = .int 7 ∧ ending.1 = .ok none ∧
      ∃ before after reply, (scriptOf ending.2).journal =
        before ++ .call (.execute ⟨1⟩ ⟨"SELECT * FROM users WHERE id = ? LIMIT 1", [.null]⟩)
          reply :: after := by
  have hbound : users.bound = .ok ⟨"app.db"⟩ := rfl
  have hinsert : Statement.insert "users" (.row ⟨[("id", .null), ("name", .text "Bob")]⟩) =
      .ok ⟨"INSERT INTO users (id, name) VALUES (?, ?);", [.null, .text "Bob"]⟩ :=
    congrArg Except.ok (congrArg₂ Statement.mk (by decide +kernel) rfl)
  have hreading : users.reading .null = ⟨"SELECT * FROM users WHERE id = ? LIMIT 1", [.null]⟩ :=
    congrArg₂ Statement.mk (by decide +kernel) rfl
  -- The journal is written out, so that the question starts from a session in normal form.
  have hinserted : runBatch "app.db"
      [⟨"INSERT INTO users (id, name) VALUES (?, ?);", [.null, .text "Bob"]⟩]
        (serving [{}, {}, inserting] []) =
      (.ok [.ofResult true inserting.result], serving []
        [.call (.execute ⟨1⟩ .beginning) {}, .call (.execute ⟨1⟩ Statement.rowMarker) {},
          .call (.execute ⟨1⟩
            ⟨"INSERT INTO users (id, name) VALUES (?, ?);", [.null, .text "Bob"]⟩) inserting,
          .call (.execute ⟨1⟩ .commit) {}]) := rfl
  have hending := create_apply hbound rfl hinsert hinserted rfl rfl
  have hkey : (users.keys [("id", .null), ("name", .text "Bob")]).headD (.int 7) = .null := rfl
  rw [if_neg (by decide), hkey, find_apply hbound, hreading] at hending
  refine ⟨rfl, ?_⟩
  rw [hending]
  exact ⟨rfl, _ :: _ :: _ :: _ :: _ :: [], _, _, rfl⟩

end

end Entity

end SqlAccess
