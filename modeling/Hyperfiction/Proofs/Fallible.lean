/-!
# Computations that may fail

What is read of files and settings may fail at every step. These laws take a computation that succeeded
apart, step by step, and say where one that failed did.
-/

namespace Hyperfiction

variable {ε α β : Type}

/-- Steps in a row succeed when each of them does. -/
theorem bind_eq_ok_iff {x : Except ε α} {f : α → Except ε β} {b : β} :
    (x >>= f) = .ok b ↔ ∃ a, x = .ok a ∧ f a = .ok b := by
  cases x <;> simp [bind, Except.bind]

/-- Steps in a row fail where the first of them does. -/
theorem bind_eq_error_iff {x : Except ε α} {f : α → Except ε β} {e : ε} :
    (x >>= f) = .error e ↔ x = .error e ∨ ∃ a, x = .ok a ∧ f a = .error e := by
  cases x <;> simp [bind, Except.bind]

theorem pure_eq_ok_iff {a b : α} : (pure a : Except ε α) = .ok b ↔ a = b := by
  simp [pure, Except.pure]

theorem pure_ne_error (a : α) (e : ε) : (pure a : Except ε α) ≠ .error e := by
  simp [pure, Except.pure]

theorem throw_ne_ok (e : ε) (a : α) : (throw e : Except ε α) ≠ .ok a := by
  simp [throw, throwThe, MonadExceptOf.throw]

theorem eq_ok_of_toOption {x : Except ε α} {a : α} (h : x.toOption = some a) : x = .ok a := by
  cases x with
  | error e => simp [Except.toOption] at h
  | ok b => simpa [Except.toOption] using h

/-- **A list is read** when each of its items is. -/
theorem mapM_eq_ok {f : α → Except ε (List β)} {xs : List α} {found : List (List β)}
    (h : xs.mapM f = .ok found) : found = xs.map fun x => (f x).toOption.getD [] := by
  induction xs generalizing found with
  | nil => exact (pure_eq_ok_iff.mp h).symm
  | cons x xs ih =>
    rw [List.mapM_cons] at h
    obtain ⟨first, hfirst, h⟩ := bind_eq_ok_iff.mp h
    obtain ⟨rest, hrest, h⟩ := bind_eq_ok_iff.mp h
    rw [← pure_eq_ok_iff.mp h, List.map_cons, hfirst, ← ih hrest]
    rfl

end Hyperfiction
