import SqlAccess.Session

/-!
# How actions end

An action ends with a value or with a fault, and in both cases in a session.
`Ends returns faults` says of such an ending that a value satisfies `returns`
and a fault satisfies `faults`, each together with the state it ended in.  It is
said of endings and not of actions, so that what is known of the session at the
start is an ordinary hypothesis.

For each way to compose actions there is one rule: `ends_bind` hands what is
known of a value on to the next action, `ends_converting` moves the conversion
of a fault into the statement about it, and `ends_cleaning` starts the cleaning
up with what is known of the fault.
-/

namespace SqlAccess

variable {σ α β ω : Type}

/-- A value satisfies `returns` and a fault satisfies `faults`, each together
with the state it ended in. -/
def Ends (returns : α → σ → Prop) (faults : Fault → σ → Prop) : Except Fault α × σ → Prop
  | (.ok value, state) => returns value state
  | (.error fault, state) => faults fault state

section

variable {returns returns' : α → σ → Prop} {faults faults' : Fault → σ → Prop}

@[simp] theorem ends_ok (value : α) (state : σ) :
    Ends returns faults (.ok value, state) = returns value state := rfl

@[simp] theorem ends_error (fault : Fault) (state : σ) :
    Ends returns faults (.error fault, state) = faults fault state := rfl

theorem Ends.mono {ending : Except Fault α × σ} (h : Ends returns faults ending)
    (hreturns : ∀ value state, returns value state → returns' value state)
    (hfaults : ∀ fault state, faults fault state → faults' fault state) :
    Ends returns' faults' ending := by
  obtain ⟨_ | _, state⟩ := ending
  · exact hfaults _ _ h
  · exact hreturns _ _ h

theorem Ends.and {ending : Except Fault α × σ} (h : Ends returns faults ending)
    (h' : Ends returns' faults' ending) :
    Ends (fun value state => returns value state ∧ returns' value state)
      (fun fault state => faults fault state ∧ faults' fault state) ending := by
  obtain ⟨_ | _, state⟩ := ending
  · exact ⟨h, h'⟩
  · exact ⟨h, h'⟩

theorem ends_anyhow (ending : Except Fault α × σ) :
    Ends (fun _ _ => True) (fun _ _ => True) ending := by
  obtain ⟨_ | _, state⟩ := ending <;> trivial

/-- What holds of the state at the end, whatever the ending. -/
theorem ends_state_iff {kept : σ → Prop} {ending : Except Fault α × σ} :
    Ends (fun _ state => kept state) (fun _ state => kept state) ending ↔ kept ending.2 := by
  obtain ⟨_ | _, state⟩ := ending <;> exact Iff.rfl

/-- What holds of the result and the state at the end. -/
theorem ends_result_iff {holds : Except Fault α → σ → Prop} {ending : Except Fault α × σ} :
    Ends (fun value => holds (.ok value)) (fun fault => holds (.error fault)) ending ↔
      holds ending.1 ending.2 := by
  obtain ⟨_ | _, state⟩ := ending <;> exact Iff.rfl

end

namespace Action

variable {returns : β → Session ω → Prop} {faults : Fault → Session ω → Prop}
  {session : Session ω}

/-! ## One rule for each way to compose actions -/

theorem ends_bind {action : Action ω α} {next : α → Action ω β} {between : α → Session ω → Prop}
    (h : Ends between faults (action session))
    (hnext : ∀ value after, between value after → Ends returns faults (next value after)) :
    Ends returns faults ((action >>= next) session) := by
  rw [bind_apply]
  generalize action session = ending at h ⊢
  obtain ⟨_ | value, after⟩ := ending
  · exact h
  · exact hnext value after h

/-- After a result that is at hand, it is known what it was. -/
theorem ends_bind_lift {result : Except Fault α} {next : α → Action ω β}
    (hfaults : ∀ fault, result = .error fault → faults fault session)
    (hnext : ∀ value, result = .ok value → Ends returns faults (next value session)) :
    Ends returns faults (((liftM result : Action ω α) >>= next) session) := by
  cases result with
  | error fault => exact hfaults fault rfl
  | ok value => exact hnext value rfl

theorem lift_ok_bind {α : Type} (value : α) (next : α → Action ω β) :
    ((liftM (.ok value : Except Fault α) : Action ω α) >>= next) = next value := rfl

theorem bind_apply_of_ok {α : Type} {action : Action ω α} {next : α → Action ω β} {value : α}
    {between : Session ω} {ending : Except Fault β × Session ω}
    (h : action session = (.ok value, between)) (hnext : next value between = ending) :
    (action >>= next) session = ending := by
  rw [bind_apply, h, after_ok, hnext]

theorem lift_bind_apply_of_ok {α : Type} {result : Except Fault α} {next : α → Action ω β}
    {value : α} {ending : Except Fault β × Session ω} (h : result = .ok value)
    (hnext : next value session = ending) :
    ((liftM result : Action ω α) >>= next) session = ending := by
  rw [h, lift_ok_bind, hnext]

theorem lift_bind_apply_snd {α : Type} {result : Except Fault α} {next : α → Action ω β}
    (h : ∀ value, (next value session).2 = session) :
    (((liftM result : Action ω α) >>= next) session).2 = session := by
  cases result with
  | error fault => rfl
  | ok value => exact h value

/-- What a bind gave was given by what comes next. -/
theorem exists_of_bind_eq_ok {α : Type} {action : Action ω α} {next : α → Action ω β} {value : β}
    {last : Session ω} (h : (action >>= next) session = (.ok value, last)) :
    ∃ first between, action session = (.ok first, between) ∧
      next first between = (.ok value, last) := by
  rw [bind_apply] at h
  rcases haction : action session with ⟨fault | first, between⟩
  · rw [haction] at h
    cases h
  · rw [haction] at h
    exact ⟨first, between, rfl, h⟩

theorem bind_eq_ok_iff {α : Type} {action : Action ω α} {next : α → Action ω β} {value : β}
    {last : Session ω} :
    (action >>= next) session = (.ok value, last) ↔
      ∃ first between, action session = (.ok first, between) ∧
        next first between = (.ok value, last) :=
  ⟨exists_of_bind_eq_ok, fun ⟨_, _, hfirst, hnext⟩ => bind_apply_of_ok hfirst hnext⟩

theorem converting_eq_ok_iff {action : Action ω β} {convert : Fault → Fault} {value : β}
    {last : Session ω} :
    action.converting convert session = (.ok value, last) ↔
      action session = (.ok value, last) := by
  unfold converting
  obtain ⟨_ | _, _⟩ := action session <;> simp

/-- Nothing is cleaned up after a value, and cleaning up gives none. -/
theorem cleaning_eq_ok_iff {action : Action ω β} {cleanUp : Action ω Unit} {value : β}
    {last : Session ω} :
    action.cleaning cleanUp session = (.ok value, last) ↔ action session = (.ok value, last) := by
  unfold cleaning
  rcases action session with ⟨fault | _, failed⟩
  · refine iff_of_false (fun h => ?_) nofun
    obtain ⟨_, _, -, hthrown⟩ := exists_of_bind_eq_ok h
    cases hthrown
  · exact Iff.rfl

theorem request_eq_ok_iff {ask : ω → Except Fault β × ω} {value : β} {last : Session ω} :
    request ask session = (.ok value, last) ↔
      ∃ outside, ask session.outside = (.ok value, outside) ∧ last = { session with outside } := by
  unfold request
  obtain ⟨result, outside⟩ := ask session.outside
  simp only [Prod.mk.injEq]
  constructor
  · rintro ⟨rfl, rfl⟩
    exact ⟨outside, ⟨rfl, rfl⟩, rfl⟩
  · rintro ⟨_, ⟨rfl, rfl⟩, rfl⟩
    exact ⟨rfl, rfl⟩

theorem exists_of_lift_bind_eq_ok {α : Type} {result : Except Fault α} {next : α → Action ω β}
    {value : β} {last : Session ω}
    (h : ((liftM result : Action ω α) >>= next) session = (.ok value, last)) :
    ∃ first, result = .ok first ∧ next first session = (.ok value, last) := by
  cases result with
  | error fault => cases h
  | ok first => exact ⟨first, rfl, h⟩

theorem ends_converting {action : Action ω β} {convert : Fault → Fault}
    (h : Ends returns (fun fault after => faults (convert fault) after) (action session)) :
    Ends returns faults (action.converting convert session) := by
  unfold converting
  generalize action session = ending at h ⊢
  obtain ⟨_ | _, _⟩ := ending <;> exact h

theorem ends_cleaning {action : Action ω β} {cleanUp : Action ω Unit}
    {between : Fault → Session ω → Prop} (h : Ends returns between (action session))
    (hclean : ∀ fault after, between fault after →
      Ends (fun _ last => faults fault last) faults (cleanUp after)) :
    Ends returns faults (action.cleaning cleanUp session) := by
  unfold cleaning
  generalize action session = ending at h ⊢
  obtain ⟨fault | value, after⟩ := ending
  · exact ends_bind (hclean fault after h) fun _ _ hlast => hlast
  · exact h

/-- A request ends as it is answered. -/
theorem ends_request_of_eq {ask : ω → Except Fault β × ω}
    (hreturns : ∀ value outside, ask session.outside = (.ok value, outside) →
      returns value { session with outside })
    (hfaults : ∀ fault outside, ask session.outside = (.error fault, outside) →
      faults fault { session with outside }) :
    Ends returns faults (request ask session) := by
  unfold request
  rcases hask : ask session.outside with ⟨fault | value, outside⟩
  · exact hfaults fault outside hask
  · exact hreturns value outside hask

/-- What is known of the answer to a request is known of the request as an action,
which leaves the registry alone. -/
theorem ends_request_registry (session : Session ω) {returns : β → ω → Prop}
    {faults : Fault → ω → Prop} {ask : ω → Except Fault β × ω}
    (h : Ends returns faults (ask session.outside)) :
    Ends (fun value after => after.registry = session.registry ∧ returns value after.outside)
      (fun fault after => after.registry = session.registry ∧ faults fault after.outside)
      (request ask session) := by
  unfold request
  generalize ask session.outside = ending at h ⊢
  obtain ⟨_ | _, _⟩ := ending <;> exact ⟨rfl, h⟩

theorem ends_request {returns : β → ω → Prop} {faults : Fault → ω → Prop}
    {ask : ω → Except Fault β × ω} (h : Ends returns faults (ask session.outside)) :
    Ends (fun value after => returns value after.outside)
      (fun fault after => faults fault after.outside) (request ask session) :=
  (ends_request_registry session h).mono (fun _ _ => And.right) fun _ _ => And.right

end Action

end SqlAccess
