/-!
# How computations can fail

`FailsOnly law result` says that a result, if it is an error, is one that satisfies a
law.  A computation that is composed of others fails with what one of these fails
with, so there is one rule for each way to compose them.
-/

namespace SqlAccess

variable {ε α β γ : Type} {law : ε → Prop}

/-- An error satisfies the law. -/
def FailsOnly (law : ε → Prop) (result : Except ε α) : Prop :=
  ∀ error, result = .error error → law error

theorem failsOnly_ok (value : α) : FailsOnly law (.ok value : Except ε α) := nofun

theorem failsOnly_pure (value : α) : FailsOnly law (pure value : Except ε α) := nofun

theorem failsOnly_error {error : ε} (h : law error) :
    FailsOnly law (.error error : Except ε α) := by
  rintro _ ⟨⟩
  exact h

theorem FailsOnly.mono {law' : ε → Prop} {result : Except ε α} (h : FailsOnly law result)
    (hlaw : ∀ error, law error → law' error) : FailsOnly law' result :=
  fun error herror => hlaw error (h error herror)

theorem failsOnly_bind {result : Except ε α} {next : α → Except ε β} (h : FailsOnly law result)
    (hnext : ∀ value, FailsOnly law (next value)) : FailsOnly law (result >>= next) := by
  cases result with
  | error error => exact failsOnly_error (h error rfl)
  | ok value => exact hnext value

theorem failsOnly_map {result : Except ε α} {f : α → β} (h : FailsOnly law result) :
    FailsOnly law (f <$> result) := by
  cases result with
  | error error => exact failsOnly_error (h error rfl)
  | ok value => exact failsOnly_ok (f value)

theorem failsOnly_ite {condition : Prop} [Decidable condition] {first second : Except ε α}
    (hfirst : FailsOnly law first) (hsecond : FailsOnly law second) :
    FailsOnly law (if condition then first else second) := by
  split
  · exact hfirst
  · exact hsecond

/-- A check that something is in order before going on. -/
theorem failsOnly_guard {condition : Prop} [Decidable condition] {error : ε}
    {next : PUnit → Except ε α} (herror : law error) (hnext : FailsOnly law (next ⟨⟩)) :
    FailsOnly law (if condition then (throw error : Except ε PUnit) >>= next else next ⟨⟩) :=
  failsOnly_ite (failsOnly_error herror) hnext

theorem failsOnly_mapM {f : α → Except ε β} {items : List α}
    (h : ∀ item, FailsOnly law (f item)) : FailsOnly law (items.mapM f) := by
  induction items with
  | nil => exact failsOnly_ok []
  | cons item items ih =>
      rw [List.mapM_cons]
      exact failsOnly_bind (h item) fun _ => failsOnly_bind ih fun _ => failsOnly_ok _

theorem failsOnly_optionMapM {f : α → Except ε β} {item? : Option α}
    (h : ∀ item, FailsOnly law (f item)) : FailsOnly law (item?.mapM f) := by
  cases item? with
  | none => exact failsOnly_pure none
  | some item => exact failsOnly_map (h item)

theorem failsOnly_foldlM {f : β → α → Except ε β} {items : List α} {start : β}
    (h : ∀ item ∈ items, ∀ value, FailsOnly law (f value item)) :
    FailsOnly law (items.foldlM f start) := by
  induction items generalizing start with
  | nil => exact failsOnly_ok start
  | cons item items ih =>
      rw [List.forall_mem_cons] at h
      exact failsOnly_bind (h.1 start) fun _ => ih h.2

theorem failsOnly_forM {f : α → Except ε PUnit} {items : List α}
    (h : ∀ item ∈ items, FailsOnly law (f item)) : FailsOnly law (items.forM f) := by
  induction items with
  | nil => exact failsOnly_ok PUnit.unit
  | cons item items ih =>
      rw [List.forall_mem_cons] at h
      exact failsOnly_bind h.1 fun _ => ih h.2

end SqlAccess
