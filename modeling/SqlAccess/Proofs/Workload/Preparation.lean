import SqlAccess.Proofs.Workload.Inquiry
import SqlAccess.Workload.Run

/-!
# Changes to the schema

A change to the schema is prepared before anything is written: the table is declared, the
catalog is asked what there is, and all texts are made (`SchemaTask.preparation`).  What is
written then is a single batch, and it is the last thing that happens
(`SchemaTask.run_eq`).

A preparation succeeds if there is nothing in its way (`Prepared`): the declaration gives a
table, each question is answered, the tables that are copied exist and have columns in
common, and everything that has to be written has a text.

Main result: the questions of a change come first, each in a batch of its own, and its
writes, if it has any, are one batch after them.  If the preparation does not succeed the
change fails and nothing was written; a creation has not even asked (`change_course`).
-/

namespace SqlAccess.Workload

open SqlAccess.Action

/-! ## Preparations -/

/-- The statements of a change, and what is answered when they were run. -/
structure Preparation where
  writes : List Statement
  answer : List Outcome → Answer

/-- Prepares the creation of a table. -/
def Preparation.ofCreation (table : Table) : Action World Preparation := do
  let writes ← table.creationStatements
  return { writes, answer := fun _ => .table table }

/-- Prepares the alteration of a table. -/
def Preparation.ofAlteration (database : Database) (table : Table) : Action World Preparation := do
  let missing ← database.missingColumns table
  let writes ← table.alterationStatements missing
  return { writes, answer := fun _ => .table table }

/-- Goes on if there is a table of a name. -/
def ifThere {α : Type} (database : Database) (table : String) (fault : Fault)
    (next : Action World α) : Action World α := do
  if !(← database.hasTable table) then throw fault
  next

/-- Prepares a change to the schema. -/
def SchemaTask.preparation (database : Database) : SchemaTask → Action World Preparation
  | build source => do
    let table ← source.table
    return { writes := [], answer := fun _ => .table table }
  | create source => do Preparation.ofCreation (← source.table)
  | alter source => do Preparation.ofAlteration database (← source.table)
  | createOrAlter source => do
    let table ← source.table
    if ← database.hasTable table.name then Preparation.ofAlteration database table
    else Preparation.ofCreation table
  | drop table => return { writes := [⟨Table.removal table, []⟩], answer := fun _ => .nothing }
  | duplicate source target => ifThere database source (.noSource source) do
    let columns ← database.columnInfos source
    let foreignKeys ← database.foreignKeyInfos source
    let indexes ← database.indexInfos source
    let writes ← copyStatements target columns foreignKeys indexes
    return { writes, answer := fun _ => .nothing }
  | copyRows source target => ifThere database source (.noSource source) <|
    ifThere database target (.noDestination target) do
      let targetColumns ← database.columnNames target
      let sourceColumns ← database.columnNames source
      match commonNames sourceColumns targetColumns with
      | [] => throw (.nothingShared source target)
      | columns =>
        return { writes := [.copyRows source target columns]
                 answer := fun outcomes => .outcome (outcomes.headD {}) }

section

variable {α β : Type} {database : Database} {table : String} {fault : Fault}
  {next : Action World α} {session found last : Session World}

theorem ifThere_apply (h : database.hasTable table session = (.ok true, found)) :
    ifThere database table fault next session = next found :=
  bind_apply_of_ok h rfl

theorem exists_of_ifThere_eq_ok {value : α}
    (h : ifThere database table fault next session = (.ok value, last)) :
    ∃ found, database.hasTable table session = (.ok true, found) ∧
      next found = (.ok value, last) := by
  obtain ⟨isThere, found, hthere, h⟩ := Action.exists_of_bind_eq_ok h
  cases isThere with
  | false => cases h
  | true => exact ⟨found, hthere, h⟩

theorem ifThere_bind (f : α → Action World β) :
    ifThere database table fault next >>= f = ifThere database table fault (next >>= f) := by
  unfold ifThere
  rw [bind_assoc]
  refine bind_congr fun isThere => ?_
  cases isThere <;> rfl

theorem inquires_ifThere (hnext : Inquires database.name next) :
    Inquires database.name (ifThere database table fault next) := by
  refine inquires_bind (inquires_hasTable table) fun isThere => ?_
  cases isThere with
  | false => exact inquires_throw fault
  | true => exact hnext

end

section

variable {database : Database} {task : SchemaTask} {session between after : Session World}

/-- A change is its preparation, and then one batch. -/
theorem SchemaTask.run_eq (database : Database) (task : SchemaTask) :
    task.run database = (do
      let preparation ← task.preparation database
      let outcomes ← database.executeAll preparation.writes
      return preparation.answer outcomes) := by
  cases task with
  | build source =>
      simp only [run, preparation, bind_assoc, pure_bind]
      rfl
  | create source =>
      simp only [run, preparation, Database.create, Preparation.ofCreation, bind_assoc, pure_bind]
  | alter source =>
      simp only [run, preparation, Database.alter, Preparation.ofAlteration, bind_assoc, pure_bind]
  | createOrAlter source =>
      simp only [run, preparation, Database.createOrAlter, bind_assoc]
      refine bind_congr fun table => bind_congr fun isThere => ?_
      cases isThere with
      | true =>
          simp only [if_true, Database.alter, Preparation.ofAlteration, bind_assoc, pure_bind]
      | false =>
          simp only [if_false, Bool.false_eq_true, Database.create, Preparation.ofCreation,
            bind_assoc, pure_bind]
  | drop table =>
      simp only [run, preparation, Database.drop, Database.execute, bind_assoc, pure_bind]
  | duplicate source target =>
      change (ifThere database source _ _ >>= _) = (ifThere database source _ _ >>= _)
      simp only [ifThere_bind, bind_assoc, pure_bind]
  | copyRows source target =>
      change (ifThere database source _ (ifThere database target _ _) >>= _) =
        (ifThere database source _ (ifThere database target _ _) >>= _)
      simp only [ifThere_bind, bind_assoc]
      refine congrArg _ (congrArg _ (bind_congr fun targetColumns =>
        bind_congr fun sourceColumns => ?_))
      cases commonNames sourceColumns targetColumns with
      | nil => rfl
      | cons column columns => simp only [Database.execute, bind_assoc, pure_bind]

/-- A preparation asks questions and does nothing else. -/
theorem inquires_preparation (database : Database) (task : SchemaTask) :
    Inquires database.name (task.preparation database) := by
  have hcreation : ∀ table, Inquires database.name (Preparation.ofCreation table) := fun table =>
    inquires_bind (inquires_lift _) fun _ => inquires_pure _
  have halteration : ∀ table, Inquires database.name (Preparation.ofAlteration database table) :=
    fun table => inquires_bind (inquires_missingColumns table) fun _ =>
      inquires_bind (inquires_lift _) fun _ => inquires_pure _
  cases task with
  | build source => exact inquires_bind (inquires_lift _) fun _ => inquires_pure _
  | create source => exact inquires_bind (inquires_lift _) hcreation
  | alter source => exact inquires_bind (inquires_lift _) halteration
  | createOrAlter source =>
      exact inquires_bind (inquires_lift _) fun table =>
        inquires_bind (inquires_hasTable table.name) fun _ =>
          inquires_ite (halteration table) (hcreation table)
  | drop table => exact inquires_pure _
  | duplicate source target =>
      exact inquires_ifThere (inquires_bind (inquires_columnInfos source) fun _ =>
        inquires_bind (inquires_foreignKeyInfos source) fun _ =>
          inquires_bind (inquires_indexInfos source) fun _ =>
            inquires_bind (inquires_lift _) fun _ => inquires_pure _)
  | copyRows source target =>
      refine inquires_ifThere (inquires_ifThere (inquires_bind (inquires_columnNames target)
        fun targetColumns => inquires_bind (inquires_columnNames source) fun sourceColumns => ?_))
      split
      · exact inquires_throw _
      · exact inquires_pure _

end

/-! ## What may be in the way -/

/-- There is nothing in the way of a change: what it will write, and the session that it was
prepared in. -/
inductive Prepared (database : Database) :
    Session World → SchemaTask → List Statement → Session World → Prop where
  | build {session : Session World} {source : TableSource} {table : Table} :
      source.table = .ok table → Prepared database session (.build source) [] session
  | create {session : Session World} {source : TableSource} {table : Table}
      {writes : List Statement} :
      source.table = .ok table → table.IsComplete → table.creationStatements = .ok writes →
        Prepared database session (.create source) writes session
  | alter {session between : Session World} {source : TableSource} {table : Table}
      {missing : List Column} {writes : List Statement} :
      source.table = .ok table → database.missingColumns table session = (.ok missing, between) →
        (∀ column ∈ missing, column.default.hasLiteral = true) →
        (∀ index ∈ table.indexes, index.columns ≠ []) →
        table.alterationStatements missing = .ok writes →
        Prepared database session (.alter source) writes between
  | createNew {session between last : Session World} {source : TableSource} {table : Table}
      {writes : List Statement} :
      source.table = .ok table → database.hasTable table.name session = (.ok false, between) →
        Prepared database between (.create source) writes last →
        Prepared database session (.createOrAlter source) writes last
  | alterExisting {session between last : Session World} {source : TableSource} {table : Table}
      {writes : List Statement} :
      source.table = .ok table → database.hasTable table.name session = (.ok true, between) →
        Prepared database between (.alter source) writes last →
        Prepared database session (.createOrAlter source) writes last
  | drop {session : Session World} (table : String) :
      Prepared database session (.drop table) [⟨Table.removal table, []⟩] session
  | duplicate {session found first second last : Session World} {source target : String}
      {columns : List ColumnInfo} {foreignKeys : List ForeignKeyInfo} {indexes : List IndexInfo}
      {writes : List Statement} :
      database.hasTable source session = (.ok true, found) →
        database.columnInfos source found = (.ok columns, first) →
        database.foreignKeyInfos source first = (.ok foreignKeys, second) →
        database.indexInfos source second = (.ok indexes, last) →
        (∀ index ∈ indexes, index.origin = "c" → index.columns ≠ []) →
        copyStatements target columns foreignKeys indexes = .ok writes →
        Prepared database session (.duplicate source target) writes last
  | copyRows {session found both first last : Session World} {source target : String}
      {sourceColumns targetColumns : List String} :
      database.hasTable source session = (.ok true, found) →
        database.hasTable target found = (.ok true, both) →
        database.columnNames target both = (.ok targetColumns, first) →
        database.columnNames source first = (.ok sourceColumns, last) →
        commonNames sourceColumns targetColumns ≠ [] →
        Prepared database session (.copyRows source target)
          [.copyRows source target (commonNames sourceColumns targetColumns)] last

section

variable {database : Database} {task : SchemaTask} {session between last : Session World}
  {writes : List Statement}

theorem Prepared.exists_preparation (h : Prepared database session task writes last) :
    ∃ answer, task.preparation database session = (.ok ⟨writes, answer⟩, last) := by
  induction h with
  | build htable => exact ⟨_, lift_bind_apply_of_ok htable rfl⟩
  | create htable _ hwrites =>
      exact ⟨_, lift_bind_apply_of_ok htable (lift_bind_apply_of_ok hwrites rfl)⟩
  | alter htable hmissing _ _ hwrites =>
      exact ⟨_, lift_bind_apply_of_ok htable
        (bind_apply_of_ok hmissing (lift_bind_apply_of_ok hwrites rfl))⟩
  | createNew htable hthere _ ih =>
      obtain ⟨answer, hcreate⟩ := ih
      refine ⟨answer, lift_bind_apply_of_ok htable (bind_apply_of_ok hthere ?_)⟩
      rwa [SchemaTask.preparation, htable] at hcreate
  | alterExisting htable hthere _ ih =>
      obtain ⟨answer, halter⟩ := ih
      refine ⟨answer, lift_bind_apply_of_ok htable (bind_apply_of_ok hthere ?_)⟩
      rwa [SchemaTask.preparation, htable] at halter
  | drop table => exact ⟨_, rfl⟩
  | duplicate hthere hcolumns hforeignKeys hindexes _ hwrites =>
      exact ⟨_, (ifThere_apply hthere).trans (bind_apply_of_ok hcolumns
        (bind_apply_of_ok hforeignKeys (bind_apply_of_ok hindexes
          (lift_bind_apply_of_ok hwrites rfl))))⟩
  | copyRows hsource htarget htargetColumns hsourceColumns hne =>
      refine ⟨fun outcomes => .outcome (outcomes.headD {}), (ifThere_apply hsource).trans
        ((ifThere_apply htarget).trans (bind_apply_of_ok htargetColumns
          (bind_apply_of_ok hsourceColumns ?_)))⟩
      obtain ⟨column, columns, hcommon⟩ := List.exists_cons_of_ne_nil hne
      rw [hcommon]
      rfl

/-- A preparation that succeeds has nothing in its way. -/
theorem prepared_of_eq {preparation : Preparation}
    (h : task.preparation database session = (.ok preparation, last)) :
    Prepared database session task preparation.writes last := by
  have hcreation : ∀ {source table between}, source.table = .ok table →
      Preparation.ofCreation table between = (.ok preparation, last) →
        Prepared database between (.create source) preparation.writes last := by
    intro source table between htable h
    obtain ⟨writes, hwrites, h⟩ := exists_of_lift_bind_eq_ok h
    cases h
    exact .create htable (Table.exists_creationStatements_iff.mp ⟨writes, hwrites⟩) hwrites
  have halteration : ∀ {source table between}, source.table = .ok table →
      Preparation.ofAlteration database table between = (.ok preparation, last) →
        Prepared database between (.alter source) preparation.writes last := by
    intro source table between htable h
    obtain ⟨missing, found, hmissing, h⟩ := Action.exists_of_bind_eq_ok h
    obtain ⟨writes, hwrites, h⟩ := exists_of_lift_bind_eq_ok h
    cases h
    obtain ⟨hdefaults, hindexes⟩ := Table.exists_alterationStatements_iff.mp ⟨writes, hwrites⟩
    exact .alter htable hmissing hdefaults hindexes hwrites
  cases task with
  | build source =>
      obtain ⟨table, htable, h⟩ := exists_of_lift_bind_eq_ok h
      cases h
      exact .build htable
  | create source =>
      obtain ⟨table, htable, h⟩ := exists_of_lift_bind_eq_ok h
      exact hcreation htable h
  | alter source =>
      obtain ⟨table, htable, h⟩ := exists_of_lift_bind_eq_ok h
      exact halteration htable h
  | createOrAlter source =>
      obtain ⟨table, htable, h⟩ := exists_of_lift_bind_eq_ok h
      obtain ⟨isThere, found, hthere, h⟩ := Action.exists_of_bind_eq_ok h
      cases isThere with
      | false => exact .createNew htable hthere (hcreation htable h)
      | true => exact .alterExisting htable hthere (halteration htable h)
  | drop table =>
      cases h
      exact .drop table
  | duplicate source target =>
      obtain ⟨found, hthere, h⟩ := exists_of_ifThere_eq_ok h
      obtain ⟨columns, first, hcolumns, h⟩ := Action.exists_of_bind_eq_ok h
      obtain ⟨foreignKeys, second, hforeignKeys, h⟩ := Action.exists_of_bind_eq_ok h
      obtain ⟨indexes, third, hindexes, h⟩ := Action.exists_of_bind_eq_ok h
      obtain ⟨writes, hwrites, h⟩ := exists_of_lift_bind_eq_ok h
      cases h
      have hcopied := exists_copyStatements_iff.mp ⟨writes, hwrites⟩
      exact .duplicate hthere hcolumns hforeignKeys hindexes hcopied hwrites
  | copyRows source target =>
      obtain ⟨found, hsource, h⟩ := exists_of_ifThere_eq_ok h
      obtain ⟨both, htarget, h⟩ := exists_of_ifThere_eq_ok h
      obtain ⟨targetColumns, first, htargetColumns, h⟩ := Action.exists_of_bind_eq_ok h
      obtain ⟨sourceColumns, second, hsourceColumns, h⟩ := Action.exists_of_bind_eq_ok h
      have hcommon := Prepared.copyRows hsource htarget htargetColumns hsourceColumns
      cases hnames : commonNames sourceColumns targetColumns with
      | nil =>
          rw [hnames] at h
          cases h
      | cons column columns =>
          rw [hnames] at h hcommon
          cases h
          exact hcommon (List.cons_ne_nil _ _)

/-- What is prepared are statements that write. -/
theorem Prepared.isWrite (h : Prepared database session task writes last) :
    ∀ statement ∈ writes, statement.IsWrite := by
  induction h with
  | build _ => nofun
  | create _ _ hwrites => exact isWrite_creationStatements hwrites
  | alter _ _ _ _ hwrites => exact isWrite_alterationStatements hwrites
  | createNew _ _ _ ih => exact ih
  | alterExisting _ _ _ ih => exact ih
  | drop table => exact List.forall_mem_singleton.mpr (isWrite_removal table)
  | duplicate _ _ _ _ _ hwrites => exact isWrite_copyStatements hwrites
  | copyRows _ _ _ _ _ => exact List.forall_mem_singleton.mpr (isWrite_copyRows _ _ _)

end

/-! ## Changes -/

/-- The statements were submitted in one batch; without any of them nothing is asked. -/
inductive Written (database : String) : List Statement → Session World →
    Except Fault (List Outcome) → Session World → Prop where
  | nothing (session : Session World) : Written database [] session (.ok []) session
  | batch {writes : List Statement} {before after : Session World} {entries : List (Event Note)}
      {result : Except Fault (List Outcome)} :
      writes ≠ [] → Ran database writes before entries result after →
        Written database writes before result after

section

variable {task : SchemaTask} {session : Session World}

theorem written_runBatch (database : String) (writes : List Statement) (session : Session World) :
    Written database writes session (runBatch database writes session).1
      (runBatch database writes session).2 := by
  rcases eq_or_ne writes [] with rfl | hne
  · exact .nothing session
  · obtain ⟨entries, hran⟩ := exists_ran hne (rfl : runBatch database writes session = (_, _))
    exact .batch hne hran

/-- A creation does not ask before it writes. -/
theorem preparation_create_snd (database : Database) (source : TableSource)
    (session : Session World) :
    ((SchemaTask.create source).preparation database session).2 = session :=
  lift_bind_apply_snd fun _ => lift_bind_apply_snd fun _ => rfl

/-- A change to the schema asks its questions first, each of them in a batch of its own.  If
there is nothing in its way its writes, if there are any, are one batch after the questions,
and it ends as this batch does.  Otherwise it ends with a fault, after the questions, and
has not submitted any write; a creation has not asked the engine for anything. -/
theorem change_course (database : Database) (task : SchemaTask) (session : Session World) :
    let ending := task.run database session
    ∃ questions inquiry refusal between,
      Inquiry database.name session questions inquiry refusal between ∧
      (scriptOf session).Advances inquiry (scriptOf between) ∧
      (∀ question ∈ questions, Database.IsQuestion question) ∧
      (∀ event ∈ inquiry, ∀ statement, event.statement? = some statement → statement.IsWrite →
        statement ∈ session.registry.config.setup) ∧
      ((refusal = none ∧ ∃ writes result answer,
          Prepared database session task writes between ∧
          (∀ statement ∈ writes, statement.IsWrite) ∧
          Written database.name writes between result ending.2 ∧
          ending.1 = result.map answer) ∨
        ((∀ writes last, ¬ Prepared database session task writes last) ∧
          ending.2 = between ∧
          (∃ fault, ending.1 = .error fault ∧ ∀ refused, refusal = some refused → refused = fault) ∧
          ∀ source, task = .create source → ending.2 = session)) := by
  intro ending
  obtain ⟨questions, inquiry, refusal, hinquiry, hquestions, hrefusal⟩ :=
    inquires_preparation database task session
  have hending : ending = after (task.preparation database session) fun preparation => do
      let outcomes ← database.executeAll preparation.writes
      return preparation.answer outcomes := by
    change task.run database session = _
    rw [task.run_eq, bind_apply]
  have hsetup := hinquiry.mem_setup_of_isWrite fun question hquestion =>
    (hquestions question hquestion).not_isWrite
  refine ⟨questions, inquiry, refusal, _, hinquiry, hinquiry.advances, hquestions, hsetup, ?_⟩
  rcases hpreparation : task.preparation database session with ⟨fault | preparation, between⟩
  · rw [hpreparation] at hrefusal hending
    refine .inr ⟨fun writes last hprepared => ?_, by rw [hending]; rfl,
      ⟨fault, by rw [hending]; rfl, fun refused hrefused => ?_⟩, ?_⟩
    · obtain ⟨answer, hok⟩ := hprepared.exists_preparation
      rw [hpreparation] at hok
      cases hok
    · exact (Except.error.inj (hrefusal refused hrefused)).symm
    · rintro source rfl
      have hunmoved := preparation_create_snd database source session
      rw [hpreparation] at hunmoved
      rw [hending]
      exact hunmoved
  · rw [hpreparation] at hrefusal hending
    have hprepared := prepared_of_eq hpreparation
    refine .inl ⟨refusal_eq_none hrefusal, preparation.writes,
      (runBatch database.name preparation.writes between).1, preparation.answer, hprepared,
      hprepared.isWrite, ?_⟩
    have hwritten := written_runBatch database.name preparation.writes between
    rw [after_ok, bind_apply, Database.executeAll] at hending
    generalize runBatch database.name preparation.writes between = ran at hwritten hending ⊢
    rw [hending]
    obtain ⟨fault | outcomes, last⟩ := ran
    · exact ⟨hwritten, rfl⟩
    · exact ⟨hwritten, rfl⟩

end

end SqlAccess.Workload
