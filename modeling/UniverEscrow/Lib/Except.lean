import Mathlib.Tactic.Common

/-!
# Results that may fail

When a sequence of fallible steps succeeds, and when it fails.
-/

namespace UniverEscrow

variable {ε α β γ : Type} {x : Except ε α} {g : α → Except ε β}

theorem bind_eq_ok {b : β} : (x >>= g) = .ok b ↔ ∃ a, x = .ok a ∧ g a = .ok b := by
  cases x with
  | error e => simp [bind, Except.bind]
  | ok a => simp [bind, Except.bind]

theorem bind_eq_error {e : ε} :
    (x >>= g) = .error e ↔ x = .error e ∨ ∃ a, x = .ok a ∧ g a = .error e := by
  cases x with
  | error e => simp [bind, Except.bind]
  | ok a => simp [bind, Except.bind]

theorem map_bind (f : β → γ) (x : Except ε α) (g : α → Except ε β) :
    (x >>= g).map f = x >>= fun a => (g a).map f := by
  cases x <;> rfl

theorem map_eq_ok {f : α → β} {b : β} : x.map f = .ok b ↔ ∃ a, x = .ok a ∧ f a = b := by
  cases x <;> simp [Except.map]

theorem mapError_eq_ok {ε' : Type} {f : ε → ε'} {a : α} : x.mapError f = .ok a ↔ x = .ok a := by
  cases x <;> simp [Except.mapError]

instance decidableForallOk {p : α → Prop} [∀ a, Decidable (p a)] :
    Decidable (∀ a, x = .ok a → p a) :=
  match x with
  | .ok a => decidable_of_iff (p a) ⟨fun h _ heq => Except.ok.inj heq ▸ h, fun h => h a rfl⟩
  | .error _ => .isTrue fun _ heq => absurd heq (by simp)

end UniverEscrow
