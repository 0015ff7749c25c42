import SqlAccess.Proofs.Action.Ends

/-!
# Actions that do the same with other values

A second action mirrors a first one if, whenever the first one gives a value, the
second one gives the image of this value and leaves the same session.  Nothing is
said of faults, which may well tell what the action was about.

Ways to compose actions preserve this as long as what comes next mirrors what comes
next.
-/

namespace SqlAccess.Action

variable {ω α α' β β' : Type}

/-- Where the first action gives a value, the second one gives its image, in the same
session. -/
def Mirrors (image : α → β) (first : Action ω α) (second : Action ω β) : Prop :=
  ∀ session value after, first session = (.ok value, after) →
    second session = (.ok (image value), after)

theorem mirrors_refl (action : Action ω α) : Mirrors id action action :=
  fun _ _ _ h => h

theorem mirrors_pure {image : α → β} (value : α) :
    Mirrors image (pure value : Action ω α) (pure (image value)) := by
  intro session found after h
  cases h
  rfl

theorem mirrors_lift {image : α → β} {result : Except Fault α} {result' : Except Fault β}
    (h : ∀ value, result = .ok value → result' = .ok (image value)) :
    Mirrors image (liftM result : Action ω α) (liftM result') := by
  intro session value after hvalue
  obtain ⟨hresult, rfl⟩ := Prod.mk.inj hvalue
  exact Prod.ext (h value hresult) rfl

theorem mirrors_bind {image : α → α'} {imageNext : β → β'} {action : Action ω α}
    {action' : Action ω α'} {next : α → Action ω β} {next' : α' → Action ω β'}
    (haction : Mirrors image action action')
    (hnext : ∀ value, Mirrors imageNext (next value) (next' (image value))) :
    Mirrors imageNext (action >>= next) (action' >>= next') := by
  intro session value after h
  obtain ⟨found, between, hfound, h⟩ := exists_of_bind_eq_ok h
  rw [bind_apply, haction session found between hfound, after_ok]
  exact hnext found between value after h

theorem mirrors_converting {image : α → β} {action : Action ω α} {action' : Action ω β}
    {convert convert' : Fault → Fault} (h : Mirrors image action action') :
    Mirrors image (action.converting convert) (action'.converting convert') := by
  intro session value after hvalue
  unfold converting at hvalue ⊢
  rcases haction : action session with ⟨fault | found, between⟩
  · rw [haction] at hvalue
    cases hvalue
  · rw [haction] at hvalue
    cases hvalue
    rw [h _ _ _ haction]

theorem mirrors_cleaning {image : α → β} {action : Action ω α} {action' : Action ω β}
    {cleanUp cleanUp' : Action ω Unit} (h : Mirrors image action action') :
    Mirrors image (action.cleaning cleanUp) (action'.cleaning cleanUp') := by
  intro session value after hvalue
  unfold cleaning at hvalue ⊢
  rcases haction : action session with ⟨fault | found, between⟩
  · -- a fault is passed on after the cleaning up, so no value comes of it
    rw [haction] at hvalue
    obtain ⟨_, _, -, hthrow⟩ := exists_of_bind_eq_ok hvalue
    cases hthrow
  · rw [haction] at hvalue
    cases hvalue
    rw [h _ _ _ haction]

end SqlAccess.Action
