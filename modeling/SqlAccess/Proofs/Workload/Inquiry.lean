import SqlAccess.Proofs.Schema.Rendering
import SqlAccess.Proofs.Workload.Opening

/-!
# Inquiries

An inquiry is a sequence of questions to a database, each of them in a batch of its own,
up to the first one that is not answered (`Inquiry`).  An action inquires if this is all
that it asks of the engine, and if it ends with the fault of the question that was not
answered (`Inquires`).  Inquiries follow each other as actions do (`inquires_bind`), so
what is asked of the catalog, one question after the other, is an inquiry.

Besides its own questions an inquiry sends only what brackets them, and the setup of the
connection if the database has to be opened.  None of the brackets and none of the
questions write (`Inquiry.mem_setup_of_isWrite`).
-/

namespace SqlAccess.Workload

open SqlAccess.Action

/-! ## What a batch sends -/

section

variable {config : Config} {path database : String} {handle : Handle} {before : Session World}
  {entries : List (Event Note)} {statements : List Statement} {statement : Statement}

theorem Attempt.mem_setup {outcome : Except Fault Handle}
    (h : Attempt config path handle entries outcome) {event : Event Note} (hevent : event ∈ entries)
    (hsent : event.statement? = some statement) : statement ∈ config.setup := by
  cases h with
  | refused _ =>
      rw [List.mem_singleton.mp hevent] at hsent
      cases hsent
  | abandoned _ hfails _ =>
      rcases List.mem_append.mp hevent with hevent | hclosing
      · rcases List.mem_cons.mp hevent with rfl | hevent
        · cases hsent
        · obtain ⟨exchange, hmem, rfl⟩ := exists_exchange_of_statement? hevent hsent
          exact hfails.forall_statement_mem exchange hmem
      · rw [List.mem_singleton.mp hclosing] at hsent
        cases hsent
  | ready _ hpasses =>
      rcases List.mem_cons.mp hevent with rfl | hevent
      · cases hsent
      · obtain ⟨exchange, hmem, rfl⟩ := exists_exchange_of_statement? hevent hsent
        exact hpasses.forall_statement_mem exchange hmem

theorem Opens.mem_setup {result : Except Fault Handle} (h : Opens database before entries result)
    {event : Event Note} (hevent : event ∈ entries) (hsent : event.statement? = some statement) :
    statement ∈ before.registry.config.setup := by
  cases h with
  | already _ => cases hevent
  | attempted _ hattempt _ => exact hattempt.mem_setup hevent hsent

/-- A batch sends the setup of its connection, its own brackets and markers, and its
statements. -/
theorem Transacts.mem_of_statement? {result : Except Fault (List Outcome)}
    (h : Transacts database statements before entries result) {event : Event Note}
    (hevent : event ∈ entries) (hsent : event.statement? = some statement) :
    statement ∈ before.registry.config.setup ∨ statement ∈ ownStatements ∨
      statement ∈ statements := by
  cases h with
  | unopened hopens => exact .inl (hopens.mem_setup hevent hsent)
  | opened hopens hcourse =>
      rcases List.mem_append.mp hevent with hopening | hexchange
      · exact .inl (hopens.mem_setup hopening hsent)
      · obtain ⟨exchange, hmem, rfl⟩ := exists_exchange_of_statement? hexchange hsent
        exact .inr (hcourse.forall_statement_mem exchange hmem)

end

/-! ## Questions one after the other -/

/-- A batch was run, and the entries are what it asked of the engine. -/
structure Ran (database : String) (statements : List Statement) (before : Session World)
    (entries : List (Event Note)) (result : Except Fault (List Outcome))
    (after : Session World) : Prop where
  run_eq : runBatch database statements before = (result, after)
  advances : (scriptOf before).Advances entries (scriptOf after)
  transacts : Transacts database statements before entries result

theorem exists_ran {database : String} {statements : List Statement} (hne : statements ≠ [])
    {session after : Session World} {result : Except Fault (List Outcome)}
    (h : runBatch database statements session = (result, after)) :
    ∃ entries, Ran database statements session entries result after := by
  obtain ⟨entries, hadvances, htransacts⟩ := runBatch_transacts hne session
  rw [h] at hadvances htransacts
  exact ⟨entries, h, hadvances, htransacts⟩

/-- Questions were put to a database, each in a batch of its own.  All of them were
answered, or the last one was not, with the given fault. -/
inductive Inquiry (database : String) : Session World → List Statement → List (Event Note) →
    Option Fault → Session World → Prop where
  | done (session : Session World) : Inquiry database session [] [] none session
  | refused {before after : Session World} {question : Statement} {entries : List (Event Note)}
      {fault : Fault} :
      Ran database [question] before entries (.error fault) after →
        Inquiry database before [question] entries (some fault) after
  | answered {before between after : Session World} {question : Statement}
      {questions : List Statement} {entries more : List (Event Note)} {outcomes : List Outcome}
      {refusal : Option Fault} :
      Ran database [question] before entries (.ok outcomes) between →
        Inquiry database between questions more refusal after →
          Inquiry database before (question :: questions) (entries ++ more) refusal after

section

variable {database : String} {before between after : Session World}
  {questions others : List Statement} {entries more : List (Event Note)} {refusal : Option Fault}

theorem Inquiry.trans (h : Inquiry database before questions entries none between)
    (hmore : Inquiry database between others more refusal after) :
    Inquiry database before (questions ++ others) (entries ++ more) refusal after := by
  generalize hnone : (none : Option Fault) = first at h
  induction h with
  | done session => exact hmore
  | refused _ => cases hnone
  | answered hran _ ih =>
      rw [List.append_assoc]
      exact .answered hran (ih hmore hnone)

theorem Inquiry.advances (h : Inquiry database before questions entries refusal after) :
    (scriptOf before).Advances entries (scriptOf after) := by
  induction h with
  | done session => exact .refl _
  | refused hran => exact hran.advances
  | answered hran _ ih => exact hran.advances.trans ih

/-- Of the statements that an inquiry sends only those of the setup write. -/
theorem Inquiry.mem_setup_of_isWrite (h : Inquiry database before questions entries refusal after)
    (hquestions : ∀ question ∈ questions, ¬ question.IsWrite) :
    ∀ event ∈ entries, ∀ statement, event.statement? = some statement → statement.IsWrite →
      statement ∈ before.registry.config.setup := by
  have hown : ∀ statement ∈ ownStatements, ¬ statement.IsWrite := by decide
  have hbatch : ∀ {before after question entries result},
      Ran database [question] before entries result after → ¬ question.IsWrite →
        ∀ event ∈ entries, ∀ statement, event.statement? = some statement → statement.IsWrite →
          statement ∈ before.registry.config.setup := by
    intro before after question entries result hran hquestion event hevent statement hsent hwrite
    rcases hran.transacts.mem_of_statement? hevent hsent with hsetup | hmem | hmem
    · exact hsetup
    · exact absurd hwrite (hown statement hmem)
    · exact absurd hwrite (List.mem_singleton.mp hmem ▸ hquestion)
  induction h with
  | done session => nofun
  | refused hran => exact hbatch hran (hquestions _ List.mem_cons_self)
  | answered hran _ ih =>
      rw [List.forall_mem_cons] at hquestions
      obtain ⟨hconfig, -⟩ := registry_of_runBatch (List.cons_ne_nil _ _) hran.run_eq
      rw [hconfig] at ih
      exact List.forall_mem_append.mpr ⟨hbatch hran hquestions.1, ih hquestions.2⟩

end

/-! ## Actions that inquire -/

/-- All that an action asks of the engine is an inquiry.  A question that is not answered
ends it. -/
def Inquires {α : Type} (database : String) (action : Action World α) : Prop :=
  ∀ session, ∃ questions entries refusal,
    Inquiry database session questions entries refusal (action session).2 ∧
    (∀ question ∈ questions, Database.IsQuestion question) ∧
    ∀ fault, refusal = some fault → (action session).1 = .error fault

section

variable {α β : Type} {name : String}

theorem refusal_eq_none {refusal : Option Fault} {value : α}
    (h : ∀ fault, refusal = some fault → (.ok value : Except Fault α) = .error fault) :
    refusal = none :=
  Option.eq_none_iff_forall_ne_some.mpr fun fault hfault => nomatch h fault hfault

theorem inquires_of_unmoved {action : Action World α}
    (h : ∀ session, (action session).2 = session) : Inquires name action := by
  intro session
  rw [h session]
  exact ⟨[], [], none, .done session, nofun, nofun⟩

theorem inquires_pure (value : α) : Inquires name (pure value) :=
  inquires_of_unmoved fun _ => rfl

theorem inquires_throw (fault : Fault) : Inquires name (throw fault : Action World α) :=
  inquires_of_unmoved fun _ => rfl

theorem inquires_lift (result : Except Fault α) : Inquires name (liftM result : Action World α) :=
  inquires_of_unmoved fun _ => rfl

theorem inquires_bind {action : Action World α} {next : α → Action World β}
    (haction : Inquires name action) (hnext : ∀ value, Inquires name (next value)) :
    Inquires name (action >>= next) := by
  intro session
  obtain ⟨questions, entries, refusal, hinquiry, hquestions, hrefusal⟩ := haction session
  rw [bind_apply]
  generalize action session = ending at hinquiry hrefusal ⊢
  obtain ⟨fault | value, between⟩ := ending
  · refine ⟨questions, entries, refusal, hinquiry, hquestions, fun refused hrefused => ?_⟩
    exact congrArg Except.error (Except.error.inj (hrefusal refused hrefused))
  · -- the action gave a value, so all of its questions were answered
    obtain rfl := refusal_eq_none hrefusal
    obtain ⟨others, more, refusal, hmore, hothers, hrefusal⟩ := hnext value between
    exact ⟨_, _, refusal, hinquiry.trans hmore, List.forall_mem_append.mpr ⟨hquestions, hothers⟩,
      hrefusal⟩

theorem inquires_ite {condition : Prop} [Decidable condition] {first second : Action World α}
    (hfirst : Inquires name first) (hsecond : Inquires name second) :
    Inquires name (if condition then first else second) := by
  split
  · exact hfirst
  · exact hsecond

theorem inquires_executeAll {database : Database} {question : Statement}
    (hquestion : Database.IsQuestion question) :
    Inquires database.name (database.executeAll [question]) := by
  intro session
  have hquestions : ∀ asked ∈ [question], Database.IsQuestion asked :=
    List.forall_mem_singleton.mpr hquestion
  unfold Database.executeAll
  rcases hrun : runBatch database.name [question] session with ⟨fault | outcomes, after⟩
  · obtain ⟨entries, hran⟩ := exists_ran (List.cons_ne_nil _ _) hrun
    refine ⟨[question], entries, some fault, .refused hran, hquestions, ?_⟩
    rintro _ ⟨⟩
    rfl
  · obtain ⟨entries, hran⟩ := exists_ran (List.cons_ne_nil _ _) hrun
    exact ⟨[question], _, none, .answered hran (.done after), hquestions, nofun⟩

end

/-! ## Questions about the catalog -/

section

variable {database : Database}

theorem inquires_rows {question : Statement} (hquestion : Database.IsQuestion question) :
    Inquires database.name (database.rows question) :=
  inquires_bind (inquires_bind (inquires_executeAll hquestion) fun _ => inquires_pure _)
    fun _ => inquires_pure _

theorem inquires_hasTable (table : String) :
    Inquires database.name (database.hasTable table) := by
  refine inquires_bind (inquires_rows (.tableCount table)) fun rows => ?_
  cases rows with
  | nil => exact inquires_pure false
  | cons row rows => exact inquires_bind (inquires_lift _) fun _ => inquires_lift _

theorem inquires_columnInfos (table : String) :
    Inquires database.name (database.columnInfos table) :=
  inquires_bind (inquires_rows (.columns table)) fun _ => inquires_lift _

theorem inquires_columnNames (table : String) :
    Inquires database.name (database.columnNames table) :=
  inquires_bind (inquires_columnInfos table) fun _ => inquires_pure _

theorem inquires_missingColumns (table : Table) :
    Inquires database.name (database.missingColumns table) :=
  inquires_bind (inquires_columnNames table.name) fun _ => inquires_pure _

theorem inquires_foreignKeyInfos (table : String) :
    Inquires database.name (database.foreignKeyInfos table) :=
  inquires_bind (inquires_rows (.foreignKeys table)) fun _ => inquires_lift _

theorem inquires_indexInfosOf (rows : List Row) :
    Inquires database.name (database.indexInfosOf rows) := by
  induction rows with
  | nil => exact inquires_pure []
  | cons row rows ih =>
      refine inquires_bind (inquires_lift _) fun name => inquires_bind (inquires_lift _) fun _ => ?_
      exact inquires_bind (inquires_rows (.index name.display)) fun _ =>
        inquires_bind (inquires_lift _) fun _ => inquires_bind ih fun _ => inquires_pure _

theorem inquires_indexInfos (table : String) :
    Inquires database.name (database.indexInfos table) :=
  inquires_bind (inquires_rows (.indexes table)) inquires_indexInfosOf

end

end SqlAccess.Workload
