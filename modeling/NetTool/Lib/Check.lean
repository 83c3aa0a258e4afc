import Mathlib.Tactic.Common
/-!
# Check — chains of checks

A validation is a chain of `if … then .error …` in `Except`.  These lemmas take such a chain apart, one check at a time:
the chain succeeds exactly when no check fires.
-/
namespace NetTool
namespace Check

variable {ε α β γ : Type}

@[simp] theorem error_bind (e : ε) (f : α → Except ε β) : (Except.error e >>= f) = .error e := rfl

@[simp] theorem ok_bind (a : α) (f : α → Except ε β) : (Except.ok a >>= f) = f a := rfl

@[simp] theorem pure_ok (a b : α) : (pure a : Except ε α) = .ok b ↔ a = b := by
  show (Except.ok a : Except ε α) = .ok b ↔ _
  rw [Except.ok.injEq]

@[simp] theorem guard_ok (c : Prop) [Decidable c] (e : ε) (rest : Except ε α) (a : α) :
    (if c then .error e else rest) = .ok a ↔ ¬ c ∧ rest = .ok a := by
  by_cases hc : c
  · rw [if_pos hc]
    exact ⟨fun h => (by cases h), fun h => absurd hc h.1⟩
  · rw [if_neg hc]
    exact ⟨fun h => ⟨hc, h⟩, fun h => h.2⟩

@[simp] theorem bind_ok (x : Except ε α) (f : α → Except ε β) (b : β) :
    (x >>= f) = .ok b ↔ ∃ a, x = .ok a ∧ f a = .ok b := by
  cases x with
  | error e => exact ⟨fun h => (by cases h), fun ⟨_, h, _⟩ => (by cases h)⟩
  | ok a =>
    constructor
    · exact fun h => ⟨a, rfl, h⟩
    · rintro ⟨_, ⟨⟩, h⟩
      exact h

theorem mapError_ok {δ : Type} {x : Except ε α} {f : ε → δ} {a : α} : x.mapError f = .ok a ↔ x = .ok a := by
  cases x with
  | error e => simp [Except.mapError]
  | ok v => simp [Except.mapError]

/-- Two computations that do not depend on each other succeed together when each succeeds. -/
theorem both_ok (x : Except ε α) (y : Except ε β) (f : α → β → γ) :
    (∃ c, (do let a ← x; let b ← y; pure (f a b)) = Except.ok c) ↔ (∃ a, x = .ok a) ∧ ∃ b, y = .ok b := by
  cases x with
  | error e => simp
  | ok a => cases y <;> simp

end Check
end NetTool
