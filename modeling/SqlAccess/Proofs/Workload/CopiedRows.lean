import SqlAccess.Proofs.Entity.Creation
import SqlAccess.Proofs.Schema.Telling
import SqlAccess.Proofs.Value.Integers
import SqlAccess.Proofs.Workload.Inquiry
import SqlAccess.Schema.Copy

/-!
# Copies of rows

The rows of a table are copied into another one over the columns that both have.  Before
that the engine is asked whether both tables exist, and which columns they have
(`TellsOf`).  It is asked one question at a time, and no more than is needed.

The columns are named once, in the order of the source, and this one list says both where
the values go and where they come from.  So however the columns of the target are ordered,
each value goes to the column of its name.

Main result: a copy of rows ends by what was told, with one insertion over just the shared
columns, or with a fault that names the table it is about and without any insertion
(`copyRows_ends`).
-/

namespace SqlAccess

open SqlAccess.Action Workload
open SqlAccess.Text (listing)

namespace Workload

/-! ## Questions and their answers -/

/-- Questions are put to a database, each in a batch of its own, and all of them are answered
by rows. -/
inductive Learns (database : Database) : Session World → List (Statement × List Row) →
    List (Event Note) → Session World → Prop where
  | done (session : Session World) : Learns database session [] [] session
  | asked {before between after : Session World} {question : Statement} {outcome : Outcome}
      {others : List (Statement × List Row)} {entries more : List (Event Note)} :
      Ran database.name [question] before entries (.ok [outcome]) between →
        Learns database between others more after →
          Learns database before ((question, outcome.rows) :: others) (entries ++ more) after

section

variable {database : Database} {before last : Session World} {question : Statement}
  {rows : List Row} {answers : List (Statement × List Row)} {entries : List (Event Note)}

theorem Learns.inquiry (h : Learns database before answers entries last) :
    Inquiry database.name before (answers.map Prod.fst) entries none last := by
  induction h with
  | done session => exact .done session
  | asked hran _ ih => exact .answered hran ih

/-- The first answer is what the first question gives. -/
theorem Learns.rows_eq (h : Learns database before ((question, rows) :: answers) entries last) :
    ∃ between more, database.rows question before = (.ok rows, between) ∧
      Learns database between answers more last := by
  cases h with
  | asked hran hrest =>
      refine ⟨_, _, ?_, hrest⟩
      exact bind_apply_of_ok (bind_apply_of_ok hran.run_eq rfl) rfl

end

/-! ## What is told of two tables -/

/-- Rows tell whether there is a table. -/
inductive CountsTo : List Row → Bool → Prop where
  | nothing : CountsTo [] false
  | number {row : Row} {rows : List Row} {count : Int} :
      row.get? "_count_" = some (.int count) → CountsTo (row :: rows) (0 < count)

/-- As far as it is asked, an engine tells of two tables whether they exist, and which columns
they have. -/
inductive TellsOf (database : Database) (source target : String) (before : Session World) :
    Option (List ColumnInfo) → Option (List ColumnInfo) → List (Event Note) → Session World →
      Prop where
  | noSource {sourceCount : List Row} {targetColumns : Option (List ColumnInfo)}
      {entries : List (Event Note)} {last : Session World} :
      Learns database before [(Database.tableCount source, sourceCount)] entries last →
      CountsTo sourceCount false →
        TellsOf database source target before none targetColumns entries last
  | noTarget {sourceCount targetCount : List Row} {sourceColumns : List ColumnInfo}
      {entries : List (Event Note)} {last : Session World} :
      Learns database before [(Database.tableCount source, sourceCount),
        (Database.tableCount target, targetCount)] entries last →
      CountsTo sourceCount true → CountsTo targetCount false →
        TellsOf database source target before (some sourceColumns) none entries last
  | both {sourceCount targetCount sourceRows targetRows : List Row}
      {sourceColumns targetColumns : List ColumnInfo} {entries : List (Event Note)}
      {last : Session World} :
      Learns database before [(Database.tableCount source, sourceCount),
        (Database.tableCount target, targetCount), (Database.columnQuestion target, targetRows),
        (Database.columnQuestion source, sourceRows)] entries last →
      CountsTo sourceCount true → CountsTo targetCount true →
      List.Forall₂ ColumnInfo.IsToldBy sourceColumns sourceRows →
      List.Forall₂ ColumnInfo.IsToldBy targetColumns targetRows →
        TellsOf database source target before (some sourceColumns) (some targetColumns) entries
          last

/-- A fault of the schema that names a table. -/
structure IsAbout (table : String) (fault : Fault) : Prop where
  category_eq : fault.category = .schema
  details_eq : fault.details = [("table", .text table)]

/-- How a copy of rows ends, by the columns of the tables that exist. -/
inductive CopyEnds (database : Database) (source target : String) (last : Session World) :
    Option (List ColumnInfo) → Option (List ColumnInfo) → Except Fault Outcome × Session World →
      Prop where
  | noSource {targetColumns : Option (List ColumnInfo)} :
      IsAbout source (.noSource source) →
        CopyEnds database source target last none targetColumns (.error (.noSource source), last)
  | noTarget {sourceColumns : List ColumnInfo} :
      IsAbout target (.noDestination target) →
        CopyEnds database source target last (some sourceColumns) none
        (.error (.noDestination target), last)
  | nothingShared {sourceColumns targetColumns : List ColumnInfo} :
      (∀ name ∈ sourceColumns.map ColumnInfo.name, name ∉ targetColumns.map ColumnInfo.name) →
      IsAbout target (.nothingShared source target) →
        CopyEnds database source target last (some sourceColumns) (some targetColumns)
          (.error (.nothingShared source target), last)
  | copied {sourceColumns targetColumns : List ColumnInfo} {shared : List String}
      {entries : List (Event Note)} {result : Except Fault (List Outcome)}
      {after : Session World} :
      shared ≠ [] → shared.Sublist (sourceColumns.map ColumnInfo.name) →
      (∀ name, name ∈ shared ↔ name ∈ sourceColumns.map ColumnInfo.name ∧
        name ∈ targetColumns.map ColumnInfo.name) →
      ((sourceColumns.map ColumnInfo.name).Nodup → shared.Nodup) →
      Ran database.name
        [⟨s!"INSERT INTO {target} ({listing shared}) SELECT {listing shared} FROM {source}", []⟩]
        last entries result after →
        CopyEnds database source target last (some sourceColumns) (some targetColumns)
          (result.map (·.headD {}), after)

variable {database : Database} {source target table : String} {session found last : Session World}
  {rows : List Row}

theorem hasTable_of_rows {isThere : Bool} (hcounts : CountsTo rows isThere)
    (h : database.rows (Database.tableCount table) session = (.ok rows, found)) :
    database.hasTable table session = (.ok isThere, found) := by
  refine bind_apply_of_ok h ?_
  cases hcounts with
  | nothing => rfl
  | number hcount =>
      refine lift_bind_apply_of_ok (Row.lookup_of_get? hcount) ?_
      rw [Value.greaterThan_int]
      rfl

theorem columnNames_of_rows {columns : List ColumnInfo}
    (htold : List.Forall₂ ColumnInfo.IsToldBy columns rows)
    (h : database.rows (Database.columnQuestion table) session = (.ok rows, found)) :
    database.columnNames table session = (.ok (columns.map ColumnInfo.name), found) :=
  bind_apply_of_ok (bind_apply_of_ok h (congrArg (·, found) (ColumnInfo.ofRows_eq htold))) rfl

theorem mem_commonNames {name : String} {first second : List String} :
    name ∈ commonNames first second ↔ name ∈ first ∧ name ∈ second := by
  unfold commonNames
  rw [List.mem_filter, List.contains_iff_mem]

/-- What is done with the shared columns. -/
def copying (database : Database) (source target : String) (shared : List String) :
    Action World Outcome :=
  if shared = [] then throw (.nothingShared source target)
  else database.execute (.copyRows source target shared)

/-- What is shared is copied by one insertion, unless nothing is. -/
theorem copyEnds_of_shared {sourceColumns targetColumns : List ColumnInfo} {shared : List String}
    (hshared : commonNames (sourceColumns.map ColumnInfo.name)
      (targetColumns.map ColumnInfo.name) = shared) :
    CopyEnds database source target session (some sourceColumns) (some targetColumns)
      (copying database source target shared session) := by
  have hmem : ∀ name, name ∈ shared ↔ name ∈ sourceColumns.map ColumnInfo.name ∧
      name ∈ targetColumns.map ColumnInfo.name := fun name => hshared ▸ mem_commonNames
  have hsublist : shared.Sublist (sourceColumns.map ColumnInfo.name) :=
    hshared ▸ List.filter_sublist
  unfold copying
  by_cases hne : shared = []
  · rw [if_pos hne]
    refine .nothingShared (fun name hsource htarget => ?_) ⟨rfl, rfl⟩
    have hname := (hmem name).mpr ⟨hsource, htarget⟩
    rw [hne] at hname
    exact absurd hname List.not_mem_nil
  · rcases hrun : runBatch database.name [.copyRows source target shared] session
      with ⟨result, after⟩
    obtain ⟨entries, hran⟩ := exists_ran (List.cons_ne_nil _ _) hrun
    have hexecute : database.execute (.copyRows source target shared) session =
        (result.map (·.headD {}), after) := by
      unfold Database.execute Database.executeAll
      rw [bind_apply, hrun]
      cases result <;> rfl
    rw [if_neg hne, hexecute]
    exact .copied hne hsublist hmem (fun hnodup => hnodup.sublist hsublist) hran

theorem TellsOf.copyEnds {sourceColumns targetColumns : Option (List ColumnInfo)}
    {entries : List (Event Note)}
    (h : TellsOf database source target session sourceColumns targetColumns entries last) :
    CopyEnds database source target last sourceColumns targetColumns
      (database.copyRows source target session) := by
  cases h with
  | noSource hlearns hsource =>
      obtain ⟨found, more, hcount, hlast⟩ := hlearns.rows_eq
      cases hlast
      have hending : database.copyRows source target session = (.error (.noSource source), last) :=
        bind_apply_of_ok (hasTable_of_rows hsource hcount) rfl
      rw [hending]
      exact .noSource ⟨rfl, rfl⟩
  | noTarget hlearns hsource htarget =>
      obtain ⟨found, more, hcount, hlearns⟩ := hlearns.rows_eq
      obtain ⟨both, more, hother, hlast⟩ := hlearns.rows_eq
      cases hlast
      have hending : database.copyRows source target session =
          (.error (.noDestination target), last) :=
        bind_apply_of_ok (hasTable_of_rows hsource hcount)
          (bind_apply_of_ok (hasTable_of_rows htarget hother) rfl)
      rw [hending]
      exact .noTarget ⟨rfl, rfl⟩
  | @both _ _ _ _ sourceColumns targetColumns _ _ hlearns hsource htarget hsourceColumns
      htargetColumns =>
      obtain ⟨found, more, hcount, hlearns⟩ := hlearns.rows_eq
      obtain ⟨both, more, hother, hlearns⟩ := hlearns.rows_eq
      obtain ⟨first, more, htargetRows, hlearns⟩ := hlearns.rows_eq
      obtain ⟨second, more, hsourceRows, hlast⟩ := hlearns.rows_eq
      cases hlast
      have hending : database.copyRows source target session =
          copying database source target (commonNames (sourceColumns.map ColumnInfo.name)
            (targetColumns.map ColumnInfo.name)) last := by
        refine bind_apply_of_ok (hasTable_of_rows hsource hcount) ?_
        refine bind_apply_of_ok (hasTable_of_rows htarget hother) ?_
        refine bind_apply_of_ok (columnNames_of_rows htargetColumns htargetRows) ?_
        refine bind_apply_of_ok (columnNames_of_rows hsourceColumns hsourceRows) ?_
        generalize commonNames (sourceColumns.map ColumnInfo.name)
          (targetColumns.map ColumnInfo.name) = shared
        cases shared <;> rfl
      rw [hending]
      exact copyEnds_of_shared rfl

theorem TellsOf.exists_inquiry {sourceColumns targetColumns : Option (List ColumnInfo)}
    {entries : List (Event Note)}
    (h : TellsOf database source target session sourceColumns targetColumns entries last) :
    ∃ questions, Inquiry database.name session questions entries none last ∧
      ∀ question ∈ questions, Database.IsQuestion question := by
  cases h with
  | noSource hlearns =>
      exact ⟨_, hlearns.inquiry, List.forall_mem_singleton.mpr (.tableCount source)⟩
  | noTarget hlearns =>
      exact ⟨_, hlearns.inquiry, List.forall_mem_cons.mpr
        ⟨.tableCount source, List.forall_mem_singleton.mpr (.tableCount target)⟩⟩
  | both hlearns =>
      refine ⟨_, hlearns.inquiry, List.forall_mem_cons.mpr ⟨.tableCount source, ?_⟩⟩
      refine List.forall_mem_cons.mpr ⟨.tableCount target, ?_⟩
      exact List.forall_mem_cons.mpr
        ⟨.columns target, List.forall_mem_singleton.mpr (.columns source)⟩

/-- Nothing is inserted before the questions are answered. -/
theorem Inquiry.not_isInsertion {name : String} {before after : Session World}
    {questions : List Statement} {entries : List (Event Note)} {refusal : Option Fault}
    (h : Inquiry name before questions entries refusal after)
    (hquestions : ∀ question ∈ questions, Database.IsQuestion question) :
    ∀ event ∈ entries, ∀ statement, event.statement? = some statement →
      ¬ StartsWith "INSERT " statement.sql := by
  have hsetup : ∀ statement ∈ before.registry.config.setup,
      ¬ StartsWith "INSERT " statement.sql := by
    refine forall_mem_setup ?_ _
    rintro (_ | _) (_ | (_ | _ | _ | _ | _ | _)) <;> decide
  intro event hevent statement hsent hinsertion
  have hwrite : statement.IsWrite := ⟨"INSERT ", by decide, hinsertion⟩
  have hmem := h.mem_setup_of_isWrite (fun question hquestion =>
    (hquestions question hquestion).not_isWrite) event hevent statement hsent hwrite
  exact hsetup statement hmem hinsertion

/-- Rows are copied by what is told of the tables.  If one of them is missing, or if they
have no column in common, the fault names a table; otherwise there is one insertion over the
shared columns, each of them once and in the order of the source.  Nothing is inserted
before. -/
theorem copyRows_ends {sourceColumns targetColumns : Option (List ColumnInfo)}
    {entries : List (Event Note)}
    (h : TellsOf database source target session sourceColumns targetColumns entries last) :
    CopyEnds database source target last sourceColumns targetColumns
      (database.copyRows source target session) ∧
    (scriptOf session).Advances entries (scriptOf last) ∧
    ∀ event ∈ entries, ∀ statement, event.statement? = some statement →
      ¬ StartsWith "INSERT " statement.sql := by
  obtain ⟨questions, hinquiry, hquestions⟩ := h.exists_inquiry
  exact ⟨h.copyEnds, hinquiry.advances, hinquiry.not_isInsertion hquestions⟩

/-- What is asked before members are copied to people. -/
def memberQuestions : List Statement :=
  [Database.tableCount "members", Database.tableCount "people",
    Database.columnQuestion "people", Database.columnQuestion "members"]

/-- Replies to questions, each of them in a batch of its own. -/
def answering (answers : List (Statement × ResultSet)) : List Reply :=
  answers.flatMap fun answer => [{}, { result := answer.2 }, {}]

theorem runBatch_memberQuestions : ∀ question ∈ memberQuestions, ∀ result replies journal,
    runBatch "app.db" [question] (Entity.serving ({} :: { result } :: {} :: replies) journal) =
      (.ok [.ofResult false result], Entity.serving replies
        (journal ++ [.call (.execute ⟨1⟩ .beginning) {}]
          ++ [.call (.execute ⟨1⟩ question) { result }]
          ++ [.call (.execute ⟨1⟩ .commit) {}])) := by
  refine List.forall_mem_cons.mpr ⟨fun _ _ _ => rfl, ?_⟩
  refine List.forall_mem_cons.mpr ⟨fun _ _ _ => rfl, ?_⟩
  refine List.forall_mem_cons.mpr ⟨fun _ _ _ => rfl, ?_⟩
  exact List.forall_mem_singleton.mpr fun _ _ _ => rfl

theorem exists_learns {answers : List (Statement × ResultSet)}
    (h : ∀ answer ∈ answers, answer.1 ∈ memberQuestions) (journal : List (Event Note)) :
    ∃ entries last, Learns ⟨"app.db"⟩ (Entity.serving (answering answers) journal)
      (answers.map fun answer => (answer.1, Outcome.rowsOf answer.2)) entries last := by
  induction answers generalizing journal with
  | nil => exact ⟨_, _, .done _⟩
  | cons answer answers ih =>
      rw [List.forall_mem_cons] at h
      obtain ⟨entries, hran⟩ := exists_ran (List.cons_ne_nil _ _)
        (runBatch_memberQuestions answer.1 h.1 answer.2 (answering answers) journal)
      obtain ⟨more, last, hlearns⟩ := ih h.2 _
      exact ⟨_, last, .asked hran hlearns⟩

/-- The columns of members, and those of people in another order. -/
def memberColumns : List ColumnInfo :=
  [{ name := "id", type := "INTEGER" }, { name := "since", type := "DATE" },
    { name := "name", type := "TEXT" }]

def peopleColumns : List ColumnInfo :=
  [{ name := "name", type := "TEXT" }, { name := "id", type := "INTEGER" }]

/-- Members are copied to people by their number and their name. -/
theorem copyRows_ends_members :
    let answers := memberQuestions.zip [Telling.presence, Telling.presence,
      Telling.columnAnswer peopleColumns, Telling.columnAnswer memberColumns]
    let session := Entity.serving (answering answers) []
    ∃ entries last, TellsOf ⟨"app.db"⟩ "members" "people" session (some memberColumns)
      (some peopleColumns) entries last ∧
    CopyEnds ⟨"app.db"⟩ "members" "people" last (some memberColumns) (some peopleColumns)
      ((⟨"app.db"⟩ : Database).copyRows "members" "people" session) ∧
    commonNames (memberColumns.map ColumnInfo.name) (peopleColumns.map ColumnInfo.name) =
      ["id", "name"] := by
  intro answers session
  have hanswers : ∀ answer ∈ answers, answer.1 ∈ memberQuestions := fun answer hanswer =>
    (List.of_mem_zip hanswer).1
  obtain ⟨entries, last, hlearns⟩ := exists_learns hanswers []
  have hcount : CountsTo (Outcome.rowsOf Telling.presence) (decide ((0 : Int) < 1)) :=
    .number rfl
  have htells : TellsOf ⟨"app.db"⟩ "members" "people" session (some memberColumns)
      (some peopleColumns) entries last :=
    .both hlearns hcount hcount (Telling.isToldBy_columnAnswer memberColumns)
      (Telling.isToldBy_columnAnswer peopleColumns)
  exact ⟨entries, last, htells, (copyRows_ends htells).1, by decide⟩

end Workload

end SqlAccess
