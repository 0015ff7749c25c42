import SqlAccess.Session

/-!
# Logs of steps

Actions that are done in steps, up to the first step that fails, leave a log: the
steps that were begun, each with its result.  What the whole gives can be read off
the log (`performEach_apply`), and since nothing is begun after a failure, so can
how far it came:

* the steps that were begun are the first ones of those planned
  (`begun_logged_prefix`), and all but the last one of them have returned
  (`returned_before`);
* a step was begun exactly if all planned before it returned
  (`mem_begun_logged_iff`).
-/

namespace SqlAccess

variable {ω ι : Type}

/-- The steps that were begun, in order, with their results. -/
abbrev StepLog (ι : Type) := List (ι × Except Fault Unit)

namespace StepLog

/-- The steps that were begun. -/
def begun (log : StepLog ι) : List ι :=
  log.map Prod.fst

/-- The result of the whole: the first fault, as it is converted for its step. -/
def verdict (convert : ι → Fault → Fault) : StepLog ι → Except Fault Unit
  | [] => .ok ()
  | (_, .ok ()) :: log => verdict convert log
  | (step, .error fault) :: _ => .error (convert step fault)

/-- A log tells what was done between two sessions: each step in the session that
the steps before it left, with the result that it had there. -/
inductive Tells (perform : ι → Action ω Unit) : StepLog ι → Session ω → Session ω → Prop where
  | nil (session : Session ω) : Tells perform [] session session
  | cons {step : ι} {result : Except Fault Unit} {log : StepLog ι}
      {first between last : Session ω} :
      perform step first = (result, between) → Tells perform log between last →
      Tells perform ((step, result) :: log) first last

/-- Every entry of a log is what came of its step in some session. -/
theorem Tells.exists_of_mem {perform : ι → Action ω Unit} {log : StepLog ι}
    {first last : Session ω} (h : log.Tells perform first last) {step : ι}
    {result : Except Fault Unit} (hmem : (step, result) ∈ log) :
    ∃ before after, perform step before = (result, after) := by
  induction h with
  | nil => cases hmem
  | cons hperform _ ih =>
      rcases List.mem_cons.mp hmem with hhead | htail
      · cases hhead
        exact ⟨_, _, hperform⟩
      · exact ih htail

theorem mem_begun_of_mem {log : StepLog ι} {step : ι} {result : Except Fault Unit}
    (h : (step, result) ∈ log) : step ∈ log.begun :=
  List.mem_map_of_mem h

end StepLog

namespace Action

/-- Does steps up to the first one that fails; gives the log. -/
def logged (perform : ι → Action ω Unit) : List ι → Session ω → StepLog ι × Session ω
  | [], session => ([], session)
  | step :: steps, session =>
    match perform step session with
    | (.ok (), after) =>
      ((step, .ok ()) :: (logged perform steps after).1, (logged perform steps after).2)
    | (.error fault, after) => ([(step, .error fault)], after)

/-- Does steps one after the other, converting the fault of each. -/
def performEach (perform : ι → Action ω Unit) (convert : ι → Fault → Fault) :
    List ι → Action ω Unit
  | [] => pure ()
  | step :: steps => do
    (perform step).converting (convert step)
    performEach perform convert steps

variable {perform : ι → Action ω Unit} {convert : ι → Fault → Fault} {session : Session ω}
  {step : ι} {earlier later steps : List ι}

theorem performEach_append (first second : List ι) :
    performEach perform convert (first ++ second) = (do
      performEach perform convert first
      performEach perform convert second) := by
  induction first with
  | nil => rfl
  | cons step first ih =>
      change (do
        (perform step).converting (convert step)
        performEach perform convert (first ++ second)) = _
      rw [ih]
      exact (bind_assoc _ _ _).symm

/-- The whole gives what the log says. -/
theorem performEach_apply (steps : List ι) (session : Session ω) :
    performEach perform convert steps session =
      ((logged perform steps session).1.verdict convert, (logged perform steps session).2) := by
  induction steps generalizing session with
  | nil => rfl
  | cons step steps ih =>
      change after ((perform step).converting (convert step) session) _ = _
      unfold converting logged
      rcases perform step session with ⟨fault | _, between⟩
      · rfl
      · exact ih between

theorem tells_logged (steps : List ι) (session : Session ω) :
    StepLog.Tells perform (logged perform steps session).1 session
      (logged perform steps session).2 := by
  induction steps generalizing session with
  | nil => exact .nil session
  | cons step steps ih =>
      unfold logged
      rcases hperform : perform step session with ⟨fault | _, between⟩
      · exact .cons hperform (.nil between)
      · exact .cons hperform (ih between)

/-! ## How far it came -/

theorem begun_logged_prefix (steps : List ι) (session : Session ω) :
    (logged perform steps session).1.begun <+: steps := by
  induction steps generalizing session with
  | nil => exact List.prefix_refl _
  | cons step steps ih =>
      unfold logged
      rcases perform step session with ⟨fault | _, between⟩
      · exact List.cons_prefix_cons.mpr ⟨rfl, List.nil_prefix⟩
      · exact List.cons_prefix_cons.mpr ⟨rfl, ih between⟩

/-- What stands in a log before something else has returned. -/
theorem returned_before {first rest : StepLog ι} {entry : ι × Except Fault Unit}
    (hlog : (logged perform steps session).1 = first ++ entry :: rest) :
    ∀ former ∈ first, former.2 = .ok () := by
  induction steps generalizing session first with
  | nil => simp [logged] at hlog
  | cons step steps ih =>
      cases first with
      | nil => simp
      | cons head first =>
          unfold logged at hlog
          rcases hperform : perform step session with ⟨fault | _, between⟩
          · simp [hperform] at hlog
          · rw [hperform, List.cons_append, List.cons.injEq] at hlog
            obtain ⟨rfl, hlog⟩ := hlog
            exact List.forall_mem_cons.mpr ⟨rfl, ih hlog⟩

private theorem forall_returned_cons {log : StepLog ι} (hstep : step ∉ steps) :
    (∀ other ∈ step :: steps, (other, .ok ()) ∈ (step, .ok ()) :: log) ↔
      ∀ other ∈ steps, (other, .ok ()) ∈ log := by
  rw [List.forall_mem_cons, and_iff_right List.mem_cons_self]
  refine forall_congr' fun other => imp_congr_right fun hmem => ?_
  have hother : other ≠ step := by
    rintro rfl
    exact hstep hmem
  simp [hother]

private theorem not_forall_returned_error {fault : Fault} :
    ¬ ∀ other ∈ step :: steps, (other, .ok ()) ∈ [(step, (.error fault : Except Fault Unit))] := by
  intro h
  simpa using h step List.mem_cons_self

/-- A step is begun exactly if all steps that are planned before it have
returned. -/
theorem mem_begun_logged_iff (perform : ι → Action ω Unit)
    (hnodup : (earlier ++ step :: later).Nodup) (session : Session ω) :
    step ∈ (logged perform (earlier ++ step :: later) session).1.begun ↔
      ∀ former ∈ earlier,
        (former, .ok ()) ∈ (logged perform (earlier ++ step :: later) session).1 := by
  -- the induction is on what is planned before the step; that the steps are distinct
  -- keeps an entry of one of them from being taken for that of a later one
  induction earlier generalizing session with
  | nil =>
      simp only [List.nil_append, List.not_mem_nil, false_implies, implies_true, iff_true]
      unfold logged
      rcases perform step session with ⟨fault | _, between⟩ <;> exact List.mem_cons_self
  | cons former earlier ih =>
      rw [List.cons_append, List.nodup_cons] at hnodup
      obtain ⟨hformer, hnodup⟩ := hnodup
      have hstep : step ≠ former := by
        rintro rfl
        exact hformer (List.mem_append_right _ List.mem_cons_self)
      rw [List.cons_append]
      unfold logged
      rcases perform former session with ⟨fault | _, between⟩
      · refine iff_of_false ?_ not_forall_returned_error
        simpa [StepLog.begun] using hstep
      · rw [forall_returned_cons fun hmem => hformer (List.mem_append_left _ hmem),
          ← ih hnodup between]
        simp [StepLog.begun, hstep]

/-! ## The verdict -/

theorem verdict_logged_eq_ok_iff (perform : ι → Action ω Unit) (convert : ι → Fault → Fault)
    (hnodup : steps.Nodup) (session : Session ω) :
    (logged perform steps session).1.verdict convert = .ok () ↔
      ∀ step ∈ steps, (step, .ok ()) ∈ (logged perform steps session).1 := by
  induction steps generalizing session with
  | nil => simp [logged, StepLog.verdict]
  | cons step steps ih =>
      rw [List.nodup_cons] at hnodup
      unfold logged
      rcases perform step session with ⟨fault | _, between⟩
      · exact iff_of_false (by simp [StepLog.verdict]) not_forall_returned_error
      · rw [forall_returned_cons hnodup.1, ← ih hnodup.2 between]
        rfl

theorem verdict_logged_of_error {fault : Fault}
    (hmem : (step, .error fault) ∈ (logged perform steps session).1) :
    (logged perform steps session).1.verdict convert = .error (convert step fault) := by
  induction steps generalizing session with
  | nil => simp [logged] at hmem
  | cons head steps ih =>
      unfold logged at hmem ⊢
      rcases hperform : perform head session with ⟨other | _, between⟩
      · simp only [hperform, List.mem_singleton, Prod.mk.injEq, Except.error.injEq] at hmem
        obtain ⟨rfl, rfl⟩ := hmem
        rfl
      · simp only [hperform, List.mem_cons, Prod.mk.injEq, reduceCtorEq, and_false,
          false_or] at hmem
        exact ih hmem

end Action

end SqlAccess
