import SqlAccess.Proofs.Fault.Cause
import SqlAccess.Proofs.Fault.Failing

/-!
# Accounting for the failures of requests

An action makes requests to the world outside, and some of them fail.  It accounts for
these failures if it gives a value only when none of its requests failed, and if a
fault that it ends with is either its own, when none failed, or was made from the last
failure (`Accounts`).  So no failure gets lost, also when a clean-up fails after the
action itself has.

What the world outside tells of failures is a list that each request extends by its
own one, if it fails (`Records`).
-/

namespace SqlAccess

open Fault

/-- The failure that a result is. -/
def failureOf {α : Type} : Except Fault α → List Fault
  | .ok _ => []
  | .error fault => [fault]

/-- The result is accounted for by the failures of the requests that led to it. -/
def AccountedBy {α : Type} (own passed : Fault → Prop) (failures : List Fault) :
    Except Fault α → Prop
  | .ok _ => failures = []
  | .error fault => failures = [] ∧ own fault ∨
      ∃ cause, failures.getLast? = some cause ∧ HasCause cause fault ∧ passed fault

namespace AccountedBy

variable {α : Type} {own own' passed passed' : Fault → Prop} {failures : List Fault}
  {result : Except Fault α}

theorem mono (h : AccountedBy own passed failures result)
    (hown : ∀ fault, own fault → own' fault) (hpassed : ∀ fault, passed fault → passed' fault) :
    AccountedBy own' passed' failures result := by
  cases result with
  | ok value => exact h
  | error fault =>
      rcases h with ⟨hnone, h⟩ | ⟨cause, hlast, hcause, h⟩
      · exact .inl ⟨hnone, hown fault h⟩
      · exact .inr ⟨cause, hlast, hcause, hpassed fault h⟩

/-- What failed before does not matter to a fault that a failure accounts for. -/
theorem append {β : Type} {fault : Fault}
    (h : AccountedBy (fun _ => False) passed failures (.error fault : Except Fault β))
    (former : List Fault) :
    AccountedBy own passed (former ++ failures) (.error fault : Except Fault α) := by
  rcases h with ⟨-, h⟩ | ⟨cause, hlast, hcause, h⟩
  · exact h.elim
  · refine .inr ⟨cause, ?_, hcause, h⟩
    rw [List.getLast?_append, hlast]
    rfl

end AccountedBy

/-- What the world outside tells of failures: each request adds its own one, if it
fails. -/
structure Records {ω : Type} [Engine ω] (told : ω → List Fault) : Prop where
  connect (path : String) (timeout : Floating) (outside : ω) :
    told (Engine.connect path timeout outside).2 =
      told outside ++ failureOf (Engine.connect path timeout outside).1
  execute (handle : Handle) (statement : Statement) (outside : ω) :
    told (Engine.execute handle statement outside).2 =
      told outside ++ failureOf (Engine.execute handle statement outside).1
  close (handle : Handle) (outside : ω) :
    told (Engine.close handle outside).2 =
      told outside ++ failureOf (Engine.close handle outside).1

namespace Action

variable {ω α β : Type} {told : ω → List Fault} {own own' passed passed' : Fault → Prop}

/-- Each ending of the action is accounted for by what failed on the way to it. -/
def Accounts (told : ω → List Fault) (own passed : Fault → Prop) (action : Action ω α) : Prop :=
  ∀ session, ∃ failures, told (action session).2.outside = told session.outside ++ failures ∧
    AccountedBy own passed failures (action session).1

theorem Accounts.mono {action : Action ω α} (h : Accounts told own passed action)
    (hown : ∀ fault, own fault → own' fault) (hpassed : ∀ fault, passed fault → passed' fault) :
    Accounts told own' passed' action := by
  intro session
  obtain ⟨failures, htold, haccounted⟩ := h session
  exact ⟨failures, htold, haccounted.mono hown hpassed⟩

/-! ## Composed actions -/

/-- An action that makes no requests. -/
theorem accounts_of_told_eq {action : Action ω α}
    (htold : ∀ session, told (action session).2.outside = told session.outside)
    (hown : ∀ session, FailsOnly own (action session).1) : Accounts told own passed action := by
  intro session
  refine ⟨[], ?_, ?_⟩
  · rw [htold, List.append_nil]
  · have hfails := hown session
    generalize (action session).1 = result at hfails ⊢
    cases result with
    | ok value => exact rfl
    | error fault => exact .inl ⟨rfl, hfails fault rfl⟩

theorem accounts_pure (value : α) : Accounts told own passed (pure value : Action ω α) :=
  accounts_of_told_eq (fun _ => rfl) fun _ => failsOnly_ok value

theorem accounts_lift {result : Except Fault α} (h : FailsOnly own result) :
    Accounts told own passed (liftM result : Action ω α) :=
  accounts_of_told_eq (fun _ => rfl) fun _ => h

theorem accounts_throw {fault : Fault} (h : own fault) :
    Accounts told own passed (throw fault : Action ω α) :=
  accounts_of_told_eq (fun _ => rfl) fun _ => failsOnly_error h

theorem accounts_registry : Accounts told own passed (registry : Action ω Registry) :=
  accounts_of_told_eq (fun _ => rfl) fun _ => failsOnly_ok _

theorem accounts_outside : Accounts told own passed (outside : Action ω ω) :=
  accounts_of_told_eq (fun _ => rfl) fun _ => failsOnly_ok _

theorem accounts_modifyRegistry (change : Registry → Registry) :
    Accounts told own passed (modifyRegistry change : Action ω Unit) :=
  accounts_of_told_eq (fun _ => rfl) fun _ => failsOnly_ok _

theorem accounts_modifyOutside {change : ω → ω}
    (h : ∀ outside, told (change outside) = told outside) :
    Accounts told own passed (modifyOutside change) :=
  accounts_of_told_eq (fun _ => h _) fun _ => failsOnly_ok _

theorem accounts_bind {action : Action ω α} {next : α → Action ω β}
    (haction : Accounts told own passed action)
    (hnext : ∀ value, Accounts told own passed (next value)) :
    Accounts told own passed (action >>= next) := by
  intro session
  obtain ⟨failures, htold, haccounted⟩ := haction session
  rw [bind_apply]
  generalize action session = ending at htold haccounted ⊢
  obtain ⟨fault | value, after⟩ := ending
  · exact ⟨failures, htold, haccounted⟩
  · -- a value came without a failure, so only what comes next can fail
    obtain rfl : failures = [] := haccounted
    obtain ⟨failures, htold', haccounted'⟩ := hnext value after
    refine ⟨failures, ?_, haccounted'⟩
    rw [after_ok, htold', htold, List.append_nil]

/-- After a result that is at hand, it is known what it was. -/
theorem accounts_bind_lift {result : Except Fault α} {next : α → Action ω β}
    (hresult : FailsOnly own result)
    (hnext : ∀ value, result = .ok value → Accounts told own passed (next value)) :
    Accounts told own passed ((liftM result : Action ω α) >>= next) := by
  cases result with
  | error fault => exact accounts_throw (hresult fault rfl)
  | ok value => exact hnext value rfl

theorem accounts_connection (database : String) :
    Accounts told own passed (connection database : Action ω Connection) :=
  accounts_bind (accounts_modifyRegistry _) fun _ =>
    accounts_bind accounts_registry fun _ => accounts_pure _

theorem accounts_ite {condition : Prop} [Decidable condition] {first second : Action ω α}
    (hfirst : Accounts told own passed first) (hsecond : Accounts told own passed second) :
    Accounts told own passed (if condition then first else second) := by
  split
  · exact hfirst
  · exact hsecond

/-- A check that something is in order before going on. -/
theorem accounts_guard {condition : Prop} [Decidable condition] {fault : Fault}
    {next : PUnit → Action ω α} (hfault : own fault) (hnext : Accounts told own passed (next ⟨⟩)) :
    Accounts told own passed (if condition then throw fault >>= next else next ⟨⟩) :=
  accounts_ite (accounts_bind (accounts_throw hfault) fun _ => hnext) hnext

theorem accounts_converting {action : Action ω α} {convert : Fault → Fault}
    (haction : Accounts told own passed action) (hown : ∀ fault, own fault → own' (convert fault))
    (hconvert : Translates convert) (hpassed : ∀ fault, fault.NotEngine → passed' fault) :
    Accounts told own' passed' (action.converting convert) := by
  intro session
  obtain ⟨failures, htold, haccounted⟩ := haction session
  unfold converting
  generalize action session = ending at htold haccounted ⊢
  refine ⟨failures, ?_⟩
  obtain ⟨fault | value, after⟩ := ending
  · refine ⟨htold, ?_⟩
    rcases haccounted with ⟨hnone, h⟩ | ⟨cause, hlast, hcause, -⟩
    · exact .inl ⟨hnone, hown fault h⟩
    · exact .inr ⟨cause, hlast, hconvert.hasCause hcause, hpassed _ (hconvert.notEngine fault)⟩
  · exact ⟨htold, haccounted⟩

/-- A clean-up may replace a fault only by one that it was made to fail with. -/
theorem accounts_cleaning {action : Action ω α} {cleanUp : Action ω Unit}
    (haction : Accounts told own passed action)
    (hclean : Accounts told (fun _ => False) passed cleanUp) :
    Accounts told own passed (action.cleaning cleanUp) := by
  intro session
  obtain ⟨failures, htold, haccounted⟩ := haction session
  unfold cleaning
  generalize action session = ending at htold haccounted ⊢
  obtain ⟨fault | value, after⟩ := ending
  · obtain ⟨failures', htold', haccounted'⟩ := hclean after
    change ∃ failures, told (Action.after (cleanUp after) fun _ => throw fault).2.outside = _ ∧
      AccountedBy own passed failures (Action.after (cleanUp after) fun _ => throw fault).1
    generalize cleanUp after = ending at htold' haccounted' ⊢
    obtain ⟨fault' | _, last⟩ := ending
    · refine ⟨failures ++ failures', ?_, haccounted'.append failures⟩
      rw [after_error, htold', htold, List.append_assoc]
    · obtain rfl : failures' = [] := haccounted'
      refine ⟨failures, ?_, haccounted⟩
      rw [after_ok, throw_apply, htold', htold, List.append_nil]
  · exact ⟨failures, htold, haccounted⟩

/-! ## What is raised -/

/-- The action fails with faults that satisfy the law, and with no others. -/
def RaisesOnly (law : Fault → Prop) (action : Action ω α) : Prop :=
  ∀ session, FailsOnly law (action session).1

theorem Accounts.raisesOnly {law : Fault → Prop} {action : Action ω α}
    (h : Accounts told own passed action) (hown : ∀ fault, own fault → law fault)
    (hpassed : ∀ fault, passed fault → law fault) : RaisesOnly law action := by
  intro session fault hfault
  obtain ⟨failures, -, haccounted⟩ := h session
  rw [hfault] at haccounted
  rcases haccounted with ⟨-, h⟩ | ⟨cause, -, -, h⟩
  · exact hown fault h
  · exact hpassed fault h

theorem raisesOnly_bind {law : Fault → Prop} {action : Action ω α} {next : α → Action ω β}
    (haction : RaisesOnly law action) (hnext : ∀ value, RaisesOnly law (next value)) :
    RaisesOnly law (action >>= next) := by
  intro session
  have hfails := haction session
  rw [bind_apply]
  generalize action session = ending at hfails ⊢
  obtain ⟨fault | value, after⟩ := ending
  · exact failsOnly_error (hfails fault rfl)
  · exact hnext value after

theorem raisesOnly_converting {law : Fault → Prop} {action : Action ω α}
    {convert : Fault → Fault} (hconvert : ∀ fault, law (convert fault)) :
    RaisesOnly law (action.converting convert) := by
  intro session
  unfold converting
  generalize action session = ending
  obtain ⟨fault | value, after⟩ := ending
  · exact failsOnly_error (hconvert fault)
  · exact failsOnly_ok value

/-! ## Failures that are passed on as they are -/

/-- The action fails with the failure of a request, as it is, and then at once. -/
def PassesOn (told : ω → List Fault) (action : Action ω α) : Prop :=
  ∀ session, told (action session).2.outside =
    told session.outside ++ failureOf (action session).1

theorem PassesOn.accounts {action : Action ω α} (h : PassesOn told action) :
    Accounts told own (fun _ => True) action := by
  intro session
  refine ⟨_, h session, ?_⟩
  cases (action session).1 with
  | ok value => exact rfl
  | error fault => exact .inr ⟨fault, rfl, .itself, trivial⟩

theorem passesOn_of_ok {action : Action ω α}
    (htold : ∀ session, told (action session).2.outside = told session.outside)
    (hok : ∀ session, failureOf (action session).1 = []) : PassesOn told action := by
  intro session
  rw [htold, hok, List.append_nil]

theorem passesOn_pure (value : α) : PassesOn told (pure value : Action ω α) :=
  passesOn_of_ok (fun _ => rfl) fun _ => rfl

theorem passesOn_registry : PassesOn told (registry : Action ω Registry) :=
  passesOn_of_ok (fun _ => rfl) fun _ => rfl

theorem passesOn_modifyRegistry (change : Registry → Registry) :
    PassesOn told (modifyRegistry change : Action ω Unit) :=
  passesOn_of_ok (fun _ => rfl) fun _ => rfl

theorem passesOn_bind {action : Action ω α} {next : α → Action ω β}
    (haction : PassesOn told action) (hnext : ∀ value, PassesOn told (next value)) :
    PassesOn told (action >>= next) := by
  intro session
  have htold := haction session
  rw [bind_apply]
  generalize action session = ending at htold ⊢
  obtain ⟨fault | value, after⟩ := ending
  · exact htold
  · rw [after_ok, hnext value after, htold]
    exact congrArg (· ++ _) (List.append_nil _)

section

variable [Engine ω] (hrecords : Records told)

include hrecords

theorem passesOn_connect (path : String) (timeout : Floating) :
    PassesOn told (connect path timeout : Action ω Handle) :=
  fun session => hrecords.connect path timeout session.outside

theorem passesOn_execute (handle : Handle) (statement : Statement) :
    PassesOn told (execute handle statement : Action ω ResultSet) :=
  fun session => hrecords.execute handle statement session.outside

theorem passesOn_close (handle : Handle) : PassesOn told (close handle : Action ω Unit) :=
  fun session => hrecords.close handle session.outside

theorem passesOn_executeEach (handle : Handle) (statements : List Statement) :
    PassesOn told (executeEach handle statements : Action ω Unit) := by
  induction statements with
  | nil => exact passesOn_pure ()
  | cons statement statements ih =>
      exact passesOn_bind (passesOn_execute hrecords handle statement) fun _ => ih

/-- Closing a connection fails with the failure of the engine. -/
theorem passesOn_closed (database : String) :
    PassesOn told (closed database : Action ω Unit) := by
  refine passesOn_bind passesOn_registry fun registry => ?_
  split
  · exact passesOn_pure ()
  · exact passesOn_bind (passesOn_modifyRegistry _) fun _ => passesOn_close hrecords _

theorem passesOn_closedAll : PassesOn told (closedAll : Action ω Unit) := by
  have hclosedEach : ∀ databases, PassesOn told (closedEach databases : Action ω Unit) := by
    intro databases
    induction databases with
    | nil => exact passesOn_pure ()
    | cons database databases ih =>
        exact passesOn_bind (passesOn_closed hrecords database) fun _ => ih
  exact passesOn_bind passesOn_registry fun registry => hclosedEach registry.names

/-! ## Opening and transactions -/

theorem accounts_runStatement (handle : Handle) (statement : Statement) :
    Accounts told (fun _ => False) (fun _ => True)
      (runStatement handle statement : Action ω Outcome) := by
  have hexecute := passesOn_execute hrecords handle
  have hrun : PassesOn told ((do
      let result ← execute handle statement
      return .ofResult statement.isInsertion result) : Action ω Outcome) :=
    passesOn_bind (hexecute statement) fun _ => passesOn_pure _
  unfold runStatement
  split
  · exact (passesOn_bind (hexecute _) fun _ => hrun).accounts
  · exact hrun.accounts

theorem accounts_runFrom (handle : Handle) (position : Nat) (statements : List Statement) :
    Accounts told (fun _ => False) (fun _ => True)
      (runFrom handle position statements : Action ω (List Outcome)) := by
  induction statements generalizing position with
  | nil => exact accounts_pure []
  | cons statement statements ih =>
      refine accounts_bind ?_ fun _ => accounts_bind (ih (position + 1)) fun _ => accounts_pure _
      exact accounts_converting (accounts_runStatement hrecords handle statement)
        (fun _ h => h) (translates_statementFault position statement) fun _ _ => trivial

theorem accounts_rollBack (handle : Handle) :
    Accounts told (fun _ => False) (fun _ => True) (rollBack handle : Action ω Unit) := by
  refine accounts_bind (accounts_bind accounts_outside fun _ => accounts_pure _) fun isActive => ?_
  refine accounts_ite ?_ (accounts_pure ())
  exact accounts_bind (passesOn_execute hrecords handle _).accounts fun _ => accounts_pure ()

theorem accounts_transaction (handle : Handle) {body : Action ω α}
    (hbody : Accounts told (fun _ => False) (fun _ => True) body) :
    Accounts told (fun _ => False) (fun _ => True) (transaction handle body) := by
  have hexecute := passesOn_execute hrecords handle
  refine accounts_bind (hexecute _).accounts fun _ => ?_
  refine accounts_cleaning ?_ (accounts_rollBack hrecords handle)
  exact accounts_bind hbody fun _ => accounts_bind (hexecute _).accounts fun _ => accounts_pure _

/-- A database fails to open with something that is made from the last failure. -/
theorem accounts_opened (database : String) :
    Accounts told (fun _ => False) NotEngine (opened database : Action ω Handle) := by
  have hopenHandle : ∀ config path, Accounts told (fun _ => False) (fun _ => True)
      (openHandle config path : Action ω Handle) := by
    intro config path
    refine accounts_bind (passesOn_connect hrecords path _).accounts fun handle => ?_
    refine accounts_bind (accounts_cleaning ?_ ?_) fun _ => accounts_pure handle
    · exact (passesOn_executeEach hrecords handle config.setup).accounts
    · exact (passesOn_close hrecords handle).accounts
  refine accounts_bind (accounts_connection database) fun connection => ?_
  split
  · exact accounts_pure _
  · refine accounts_bind accounts_registry fun registry => ?_
    refine accounts_bind (accounts_converting (hopenHandle registry.config connection.path)
      (fun _ h => h) (translates_openingFault database) fun _ h => h) fun _ => ?_
    exact accounts_bind (accounts_modifyRegistry _) fun _ => accounts_pure _

/-- A batch fails with something that is made from the last failure, be it that of a
statement or that of the rollback after it. -/
theorem accounts_runBatch (database : String) (statements : List Statement) :
    Accounts told (fun _ => False) NotEngine
      (runBatch database statements : Action ω (List Outcome)) := by
  unfold runBatch
  split
  · exact accounts_pure []
  · refine accounts_bind (accounts_opened hrecords database) fun handle => ?_
    have hbody := accounts_runFrom hrecords handle 0 statements
    exact accounts_converting (accounts_transaction hrecords handle hbody) (fun _ h => h)
      (translates_transactionFault database) fun _ h => h

end

end Action

end SqlAccess
