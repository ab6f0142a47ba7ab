import Mathlib.Tactic.Common

/-!
# Bounded retries

A loop that numbers its attempts and stops at the first one that gives a result.  Its rule is
that of a loop invariant with two exits: the attempt that gave the result, and the end of the
attempts.
-/

namespace UniverEscrow.Lib.Retry

variable {σ α : Type*} (attempt : ℕ → σ → σ × Option α)

/-- At most `k` attempts, from number `n` on. -/
def retry : ℕ → ℕ → σ → σ × Option α
  | 0, _, s => (s, none)
  | k + 1, n, s =>
      match attempt n s with
      | (s', some a) => (s', some a)
      | (s', none) => retry k (n + 1) s'

variable {attempt}

/-- What one attempt has to show: it gives a result that meets `Post`, or keeps the invariant. -/
def Keeps (attempt : ℕ → σ → σ × Option α) (Inv : ℕ → σ → Prop) (Post : ℕ → σ → α → Prop) : Prop :=
  ∀ n s, Inv n s → ∃ s', (∃ a, attempt n s = (s', some a) ∧ Post n s' a) ∨
    (attempt n s = (s', none) ∧ Inv (n + 1) s')

theorem retry_spec {Inv : ℕ → σ → Prop} {Post : ℕ → σ → α → Prop} (hkeeps : Keeps attempt Inv Post)
    {k n : ℕ} {s : σ} (hinv : Inv n s) :
    (∃ m s' a, m < n + k ∧ retry attempt k n s = (s', some a) ∧ Post m s' a) ∨
      ∃ s', retry attempt k n s = (s', none) ∧ Inv (n + k) s' := by
  induction k generalizing n s with
  | zero => exact .inr ⟨s, rfl, hinv⟩
  | succ k ih =>
      obtain ⟨s', ⟨a, hresult, hpost⟩ | ⟨hnone, hnext⟩⟩ := hkeeps n s hinv
      · refine .inl ⟨n, s', a, by omega, ?_, hpost⟩
        rw [retry, hresult]
      · have hrest : retry attempt (k + 1) n s = retry attempt k (n + 1) s' := by
          rw [retry, hnone]
        rw [hrest]
        rcases ih hnext with ⟨m, s'', a, hm, hresult, hpost⟩ | ⟨s'', hresult, hlast⟩
        · exact .inl ⟨m, s'', a, by omega, hresult, hpost⟩
        · refine .inr ⟨s'', hresult, ?_⟩
          rwa [Nat.add_right_comm, Nat.add_assoc] at hlast

end UniverEscrow.Lib.Retry
