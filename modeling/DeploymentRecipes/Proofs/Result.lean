import Mathlib.Tactic.Use

/-!
# Results

What is known of the parts of a computation that may go wrong when its outcome is known.
-/

namespace DeploymentRecipes

variable {ε ε' α β γ : Type}

/-- What never goes wrong gives a result. -/
theorem exists_eq_ok {x : Except ε α} (h : ∀ e, x ≠ .error e) :
  ∃ a, x = .ok a
  := by
  cases x with
  | error e => cases h e rfl
  | ok a => use a

theorem exists_eq_ok_of_isSome {x : Except ε α} (h : x.toOption.isSome) :
  ∃ a, x = .ok a
  := by
  cases x with
  | error e => cases h
  | ok a => use a

theorem eq_ok_of_toOption {x : Except ε α} {a : α} (h : x.toOption = some a) :
  x = .ok a
  := by
  cases x with
  | error e => cases h
  | ok b => rw [Option.some.inj h]

theorem map_map (f : α → β) (g : β → γ) (x : Except ε α) :
  (x.map f).map g = x.map (g ∘ f)
  := by
  cases x <;> rfl

/-- A result that was mapped comes from a result. -/
theorem exists_of_map_eq_ok {f : α → β} {x : Except ε α} {b : β} (h : x.map f = .ok b) :
  ∃ a, x = .ok a ∧ f a = b
  := by
  cases x with
  | error e => cases h
  | ok a => exact ⟨a, rfl, Except.ok.inj h⟩

theorem eq_ok_of_mapError {f : ε → ε'} {x : Except ε α} {a : α} (h : x.mapError f = .ok a) :
  x = .ok a
  := by
  cases x with
  | error e => cases h
  | ok b => rw [Except.ok.inj h]

/-- An error that was mapped comes from an error. -/
theorem exists_of_mapError_eq_error {f : ε → ε'} {x : Except ε α} {e' : ε'}
    (h : x.mapError f = .error e') :
  ∃ e, x = .error e ∧ f e = e'
  := by
  cases x with
  | error e => exact ⟨e, rfl, Except.error.inj h⟩
  | ok a => cases h

/-- A sequence gives a result when both of its parts do. -/
theorem exists_of_bind_eq_ok {x : Except ε α} {f : α → Except ε β} {b : β}
    (h : x >>= f = .ok b) :
  ∃ a, x = .ok a ∧ f a = .ok b
  := by
  cases x with
  | error e => cases h
  | ok a => exact ⟨a, rfl, h⟩

/-- A sequence goes wrong in one of its parts. -/
theorem eq_error_of_bind {x : Except ε α} {f : α → Except ε β} {e : ε}
    (h : x >>= f = .error e) :
  x = .error e ∨ ∃ a, x = .ok a ∧ f a = .error e
  := by
  cases x with
  | error e' => exact Or.inl (congrArg Except.error (Except.error.inj h))
  | ok a => exact Or.inr ⟨a, rfl, h⟩

end DeploymentRecipes
