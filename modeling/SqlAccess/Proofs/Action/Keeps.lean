import SqlAccess.Transaction
import SqlAccess.Proofs.Action.Ends

/-!
# What actions keep

An action keeps a property of sessions if the session that it ends in has the
property whenever the session it starts in has it, however it ends.  Every way to
compose actions keeps what its parts keep.

A transaction reaches the engine by statements alone: by those that it was given,
and by those of its own.  What all of these keep, the transaction keeps
(`keeps_transaction`), whichever of them fails.

Whatever is done with a database comes down to requests to the engine and to changes of
the registry, so it keeps what all of these keep (`keeps_opened`, `keeps_closed`,
`keeps_runBatch`).
-/

namespace SqlAccess.Action

variable {ω α β : Type} {kept : Session ω → Prop}

/-- The session at the end satisfies `kept` if the one at the start does. -/
def Keeps (kept : Session ω → Prop) (action : Action ω α) : Prop :=
  ∀ session, kept session → kept (action session).2

theorem Keeps.ends {action : Action ω α} (h : Keeps kept action) {session : Session ω}
    (hkept : kept session) :
    Ends (fun _ after => kept after) (fun _ after => kept after) (action session) :=
  ends_state_iff.mpr (h session hkept)

theorem Keeps.and {kept' : Session ω → Prop} {action : Action ω α} (h : Keeps kept action)
    (h' : Keeps kept' action) : Keeps (fun session => kept session ∧ kept' session) action :=
  fun session hboth => ⟨h session hboth.1, h' session hboth.2⟩

/-! ## Composed actions -/

theorem keeps_pure (value : α) : Keeps kept (pure value : Action ω α) :=
  fun _ h => h

theorem keeps_throw (fault : Fault) : Keeps kept (throw fault : Action ω α) :=
  fun _ h => h

theorem keeps_lift (result : Except Fault α) : Keeps kept (liftM result : Action ω α) :=
  fun _ h => h

theorem keeps_registry : Keeps kept (registry : Action ω Registry) :=
  fun _ h => h

theorem keeps_outside : Keeps kept (outside : Action ω ω) :=
  fun _ h => h

theorem keeps_bind {action : Action ω α} {next : α → Action ω β} (haction : Keeps kept action)
    (hnext : ∀ value, Keeps kept (next value)) : Keeps kept (action >>= next) := by
  intro session h
  have hfirst := haction session h
  rw [bind_apply]
  generalize action session = ending at hfirst ⊢
  obtain ⟨_ | value, after⟩ := ending
  · exact hfirst
  · exact hnext value after hfirst

/-- After a result that is at hand, it is known what it was. -/
theorem keeps_bind_lift {result : Except Fault α} {next : α → Action ω β}
    (hnext : ∀ value, result = .ok value → Keeps kept (next value)) :
    Keeps kept ((liftM result : Action ω α) >>= next) := by
  cases result with
  | error fault => exact keeps_throw fault
  | ok value => exact hnext value rfl

theorem keeps_ite {condition : Prop} [Decidable condition] {first second : Action ω α}
    (hfirst : Keeps kept first) (hsecond : Keeps kept second) :
    Keeps kept (if condition then first else second) := by
  split
  · exact hfirst
  · exact hsecond

/-- A check that something is in order before going on. -/
theorem keeps_guard {condition : Prop} [Decidable condition] {fault : Fault}
    {next : PUnit → Action ω α} (hnext : Keeps kept (next ⟨⟩)) :
    Keeps kept (if condition then throw fault >>= next else next ⟨⟩) :=
  keeps_ite (keeps_bind (keeps_throw fault) fun _ => hnext) hnext

theorem keeps_converting {action : Action ω α} {convert : Fault → Fault}
    (haction : Keeps kept action) : Keeps kept (action.converting convert) := by
  intro session h
  have hend := haction session h
  unfold converting
  generalize action session = ending at hend ⊢
  obtain ⟨_ | _, _⟩ := ending <;> exact hend

theorem keeps_cleaning {action : Action ω α} {cleanUp : Action ω Unit}
    (haction : Keeps kept action) (hclean : Keeps kept cleanUp) :
    Keeps kept (action.cleaning cleanUp) := by
  intro session h
  have hend := haction session h
  unfold cleaning
  generalize action session = ending at hend ⊢
  obtain ⟨fault | value, after⟩ := ending
  · exact keeps_bind hclean (fun _ => keeps_throw fault) after hend
  · exact hend

theorem keeps_attempt {action : Action ω α} (haction : Keeps kept action) :
    Keeps kept action.attempt :=
  fun session h => haction session h

/-! ## Statements and transactions -/

section

variable [Engine ω] {handle : Handle}

theorem keeps_inTransaction : Keeps kept (inTransaction handle : Action ω Bool) :=
  keeps_bind keeps_outside fun _ => keeps_pure _

theorem keeps_executeEach {statements : List Statement}
    (hexecute : ∀ statement ∈ statements,
      Keeps kept (execute handle statement : Action ω ResultSet)) :
    Keeps kept (executeEach handle statements : Action ω Unit) := by
  induction statements with
  | nil => exact keeps_pure ()
  | cons statement statements ih =>
      rw [List.forall_mem_cons] at hexecute
      exact keeps_bind hexecute.1 fun _ => ih hexecute.2

theorem keeps_openHandle {config : Config} (path : String)
    (hconnect : Keeps kept (connect path config.timeout : Action ω Handle))
    (hexecute : ∀ handle, ∀ statement ∈ config.setup,
      Keeps kept (execute handle statement : Action ω ResultSet))
    (hclose : ∀ handle, Keeps kept (close handle : Action ω Unit)) :
    Keeps kept (openHandle config path : Action ω Handle) :=
  keeps_bind hconnect fun handle =>
    keeps_bind (keeps_cleaning (keeps_executeEach (hexecute handle)) (hclose handle))
      fun _ => keeps_pure handle

theorem keeps_runStatement {statement : Statement}
    (hmarker : Keeps kept (execute handle Statement.rowMarker : Action ω ResultSet))
    (hexecute : Keeps kept (execute handle statement : Action ω ResultSet)) :
    Keeps kept (runStatement handle statement : Action ω Outcome) := by
  have hrun : Keeps kept ((do
      let result ← execute handle statement
      return .ofResult statement.isInsertion result) : Action ω Outcome) :=
    keeps_bind hexecute fun _ => keeps_pure _
  unfold runStatement
  split
  · exact keeps_bind hmarker fun _ => hrun
  · exact hrun

theorem keeps_runFrom {statements : List Statement}
    (hmarker : Keeps kept (execute handle Statement.rowMarker : Action ω ResultSet))
    (hexecute : ∀ statement ∈ statements,
      Keeps kept (execute handle statement : Action ω ResultSet)) (position : Nat) :
    Keeps kept (runFrom handle position statements : Action ω (List Outcome)) := by
  induction statements generalizing position with
  | nil => exact keeps_pure []
  | cons statement statements ih =>
      rw [List.forall_mem_cons] at hexecute
      exact keeps_bind (keeps_converting (keeps_runStatement hmarker hexecute.1)) fun _ =>
        keeps_bind (ih hexecute.2 (position + 1)) fun _ => keeps_pure _

theorem rollBack_apply (handle : Handle) (session : Session ω) :
    rollBack handle session =
      (if Engine.inTransaction handle session.outside then do
        let _ ← execute handle Statement.rollback
      else pure () : Action ω Unit) session := rfl

theorem keeps_rollBack
    (hexecute : Keeps kept (execute handle Statement.rollback : Action ω ResultSet)) :
    Keeps kept (rollBack handle : Action ω Unit) := by
  refine keeps_bind keeps_inTransaction fun isActive => ?_
  exact keeps_ite (keeps_bind hexecute fun _ => keeps_pure ()) (keeps_pure ())

/-- The statements that a transaction runs of its own. -/
def ownStatements : List Statement :=
  [.beginning, .rowMarker, .commit, .rollback]

theorem keeps_transaction {statements : List Statement}
    (hown : ∀ statement ∈ ownStatements,
      Keeps kept (execute handle statement : Action ω ResultSet))
    (hexecute : ∀ statement ∈ statements,
      Keeps kept (execute handle statement : Action ω ResultSet)) :
    Keeps kept (transaction handle (runFrom handle 0 statements) : Action ω (List Outcome)) := by
  simp only [ownStatements, List.forall_mem_cons, List.not_mem_nil, false_implies,
    implies_true, and_true] at hown
  obtain ⟨hbeginning, hmarker, hcommit, hrollback⟩ := hown
  -- a beginning that is refused is not cleaned up after, everything behind it is
  refine keeps_bind hbeginning fun _ => keeps_cleaning ?_ (keeps_rollBack hrollback)
  exact keeps_bind (keeps_runFrom hmarker hexecute 0) fun _ =>
    keeps_bind hcommit fun _ => keeps_pure _

end

/-! ## Databases -/

section

variable [Engine ω] (database : String)
  (hchange : ∀ change, Keeps kept (modifyRegistry change : Action ω Unit))
  (hconnect : ∀ path timeout, Keeps kept (connect path timeout : Action ω Handle))
  (hexecute : ∀ handle statement, Keeps kept (execute handle statement : Action ω ResultSet))
  (hclose : ∀ handle, Keeps kept (close handle : Action ω Unit))

include hchange

omit [Engine ω] in
theorem keeps_registering : Keeps kept (connection database : Action ω Connection) :=
  keeps_bind (hchange _) fun _ => keeps_bind keeps_registry fun _ => keeps_pure _

include hclose

theorem keeps_closed : Keeps kept (closed database : Action ω Unit) := by
  refine keeps_bind keeps_registry fun registry => ?_
  split
  · exact keeps_pure ()
  · exact keeps_bind (hchange _) fun _ => hclose _

include hconnect hexecute

theorem keeps_opened : Keeps kept (opened database : Action ω Handle) := by
  refine keeps_bind (keeps_registering database hchange) fun connection => ?_
  split
  · exact keeps_pure _
  · refine keeps_bind keeps_registry fun registry => ?_
    have hopenHandle := keeps_openHandle connection.path (hconnect _ registry.config.timeout)
      (fun handle statement _ => hexecute handle statement) hclose
    exact keeps_bind (keeps_converting hopenHandle) fun _ =>
      keeps_bind (hchange _) fun _ => keeps_pure _

theorem keeps_runBatch (statements : List Statement) :
    Keeps kept (runBatch database statements : Action ω (List Outcome)) := by
  refine keeps_ite (keeps_pure []) ?_
  refine keeps_bind (keeps_opened database hchange hconnect hexecute hclose) fun handle => ?_
  exact keeps_converting (keeps_transaction (fun statement _ => hexecute handle statement)
    fun statement _ => hexecute handle statement)

end

end SqlAccess.Action
