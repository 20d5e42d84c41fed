import TransitStore.Error

/-!
# Edits

An edit changes a state and gives a value, or fails.  It gives the state also
where it fails, since a failing edit may have done a part of its work.
-/

namespace TransitStore

/-- A change of a state `σ` that gives an `α` or fails. -/
abbrev Edit (σ α : Type) := EStateM Error σ α

namespace Edit

variable {σ α β : Type}

/-- The answer of an edit at a state. -/
def answer (edit : Edit σ α) (s : σ) : Except Error α :=
  match edit s with
  | .ok a _ => .ok a
  | .error e _ => .error e

/-- The state behind an edit, whether it fails or not. -/
def after (edit : Edit σ α) (s : σ) : σ :=
  match edit s with
  | .ok _ t => t
  | .error _ t => t

/-- An edit that changes nothing. -/
def ofExcept : Except Error α → Edit σ α
  | .ok a => pure a
  | .error e => throw e

/-- Two edits in a row succeed together if each of them does. -/
theorem bind_eq_ok {x : Edit σ α} {f : α → Edit σ β} {s t : σ} {b : β} :
    (x >>= f) s = .ok b t ↔ ∃ a r, x s = .ok a r ∧ f a r = .ok b t := by
  show EStateM.bind x f s = _ ↔ _
  unfold EStateM.bind
  constructor
  · intro h
    cases hx : x s with
    | ok a r => exact ⟨a, r, rfl, by simpa [hx] using h⟩
    | error e r => simp [hx] at h
  · rintro ⟨a, r, hx, hf⟩
    simpa [hx] using hf

theorem ofExcept_eq_ok {result : Except Error α} {s t : σ} {a : α} :
    (ofExcept result : Edit σ α) s = .ok a t ↔ result = .ok a ∧ t = s := by
  cases result with
  | ok b =>
    show EStateM.Result.ok b s = _ ↔ _
    simp [eq_comm]
  | error e =>
    show EStateM.Result.error e s = _ ↔ _
    simp

end Edit

end TransitStore
