import ByteScan.Fault

/-!
# Running computations that may fault

How a sequence of steps unfolds when the outcome of its first step is known: a value is handed on, a
fault or a refusal ends the sequence. A sequence that has a value therefore has one at each step.
-/

namespace ByteScan

variable {ε α β : Type}

@[simp] theorem ok_bind (a : α) (f : α → Except ε β) : (Except.ok a >>= f) = f a := rfl

@[simp] theorem error_bind (e : ε) (f : α → Except ε β) : (Except.error e >>= f) = .error e := rfl

@[simp] theorem pure_eq_ok (a : α) : (pure a : Except ε α) = .ok a := rfl

@[simp] theorem map_ok (f : α → β) (a : α) : (Except.ok a : Except ε α).map f = .ok (f a) := rfl

/-- A sequence of two computations has a value only if the first has one. -/
theorem exists_of_bind_eq_ok {x : Except ε α} {f : α → Except ε β} {b : β}
    (h : x >>= f = .ok b) : ∃ a, x = .ok a ∧ f a = .ok b := by
  cases x with
  | error e => cases h
  | ok a => exact ⟨a, rfl, h⟩

theorem eq_ok_of_mapError {ε' : Type} {f : ε → ε'} {x : Except ε α} {a : α}
    (h : x.mapError f = .ok a) : x = .ok a := by
  cases x with
  | error e => cases h
  | ok a' =>
    cases h
    rfl

namespace Attempt

@[simp] theorem ofExcept_ok_bind (a : α) (f : α → Attempt ε β) :
    (ofExcept (.ok a) >>= f) = f a := rfl

@[simp] theorem ofExcept_error_bind (e : ε) (f : α → Attempt ε β) :
    (ofExcept (.error e) >>= f) = throw e := rfl

theorem ofExcept_eq_pure_iff {x : Except ε α} {a : α} : ofExcept x = pure a ↔ x = .ok a := by
  constructor
  · intro h
    cases h
    rfl
  · rintro rfl
    rfl

theorem eq_pure_of_mapError {ε' : Type} {f : ε → ε'} {x : Attempt ε α} {a : α}
    (h : x.mapError f = pure a) : x = pure a := by
  rcases x with fault | e | a'
  · cases h
  · cases h
  · cases h
    rfl

theorem exists_of_bind_eq_pure {x : Attempt ε α} {f : α → Attempt ε β} {b : β}
    (h : x >>= f = pure b) : ∃ a, x = pure a ∧ f a = pure b := by
  rcases x with fault | e | a
  · cases h
  · cases h
  · exact ⟨a, rfl, h⟩

/-- A computation that does not fault gives its value wherever errors are possible too. -/
theorem liftM_eq_pure {x : Except Fault α} {a : α} (h : x = .ok a) :
    (liftM x : Attempt ε α) = pure a := by
  rw [h]
  rfl

end Attempt

end ByteScan
