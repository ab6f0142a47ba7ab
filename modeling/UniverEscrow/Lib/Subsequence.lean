import Mathlib.Data.List.Basic
import Mathlib.Data.List.Induction

/-!
# Meeting a pattern in order

An automaton runs along a list and counts how much of a pattern it has met in order, each entry
at its first chance.  It meets the first `n` entries exactly when they are a subsequence.
-/

namespace UniverEscrow.Lib.Subsequence

open List

section

variable {α : Type*} {pattern l xs init : List α} {x : α} {n : ℕ}

theorem sublist_append_singleton_iff :
    l <+ xs ++ [x] ↔ l <+ xs ∨ ∃ init, l = init ++ [x] ∧ init <+ xs := by
  rw [List.sublist_append_iff]
  constructor
  · intro ⟨init, last, hl, hinit, hlast⟩
    cases List.sublist_singleton.1 hlast with
    | inl hnil =>
        rw [hnil, List.append_nil] at hl
        exact .inl (hl ▸ hinit)
    | inr hx => exact .inr ⟨init, hx ▸ hl, hinit⟩
  · intro h
    cases h with
    | inl hl => exact ⟨l, [], (List.append_nil l).symm, hl, List.nil_sublist _⟩
    | inr hinit =>
        obtain ⟨init, hl, hinit⟩ := hinit
        exact ⟨init, [x], hl, hinit, List.Sublist.refl _⟩

theorem take_eq_append_singleton_iff (hn : n ≤ pattern.length) :
    pattern.take n = init ++ [x] ↔
      ∃ m, n = m + 1 ∧ init = pattern.take m ∧ pattern[m]? = some x := by
  cases n with
  | zero => simp
  | succ m =>
      have hget : pattern[m]? = some (pattern.get ⟨m, hn⟩) := List.getElem?_eq_getElem hn
      have htake : pattern.take (m + 1) = pattern.take m ++ [pattern.get ⟨m, hn⟩] :=
        List.take_succ_eq_append_getElem hn
      rw [htake]
      constructor
      · intro h
        obtain ⟨hinit, hx⟩ := List.append_inj' h rfl
        exact ⟨m, rfl, hinit.symm, hget.trans (congrArg some (List.cons.inj hx).1)⟩
      · intro ⟨k, hk, hinit, hx⟩
        obtain rfl : m = k := by omega
        rw [hinit, Option.some.inj (hget.symm.trans hx)]

end

variable {α : Type*} [DecidableEq α] {pattern xs : List α} {x : α} {n : ℕ}

def advance (pattern : List α) (met : ℕ) (x : α) : ℕ :=
  if pattern[met]? = some x then met + 1 else met

def met (pattern xs : List α) : ℕ := xs.foldl (advance pattern) 0

@[simp] theorem met_nil : met pattern [] = 0 := rfl

theorem met_append_singleton : met pattern (xs ++ [x]) = advance pattern (met pattern xs) x := by
  simp only [met, List.foldl_append, List.foldl_cons, List.foldl_nil]

theorem met_le : met pattern xs ≤ pattern.length := by
  induction xs using List.reverseRecOn with
  | nil => exact Nat.zero_le _
  | append_singleton xs x ih =>
      rw [met_append_singleton, advance]
      by_cases hx : pattern[met pattern xs]? = some x
      · rw [if_pos hx]
        exact (List.getElem?_eq_some_iff.1 hx).1
      · rw [if_neg hx]
        exact ih

/-- The automaton stands in front of the entry it wants next. -/
theorem le_advance_iff {met : ℕ} :
    n ≤ advance pattern met x ↔ n ≤ met ∨ ∃ m ≤ met, n = m + 1 ∧ pattern[m]? = some x := by
  unfold advance
  by_cases hx : pattern[met]? = some x
  · rw [if_pos hx]
    constructor
    · intro hle
      by_cases hlt : n ≤ met
      · exact .inl hlt
      · exact .inr ⟨met, Nat.le_refl _, by omega, hx⟩
    · intro h
      cases h with
      | inl hle => omega
      | inr hm =>
          obtain ⟨m, hle, hm, -⟩ := hm
          omega
  · rw [if_neg hx]
    constructor
    · exact .inl
    · intro h
      cases h with
      | inl hle => exact hle
      | inr hm =>
          obtain ⟨m, hle, hm, hget⟩ := hm
          have hne : m ≠ met := fun heq => hx (heq ▸ hget)
          omega

theorem take_sublist_iff (hn : n ≤ pattern.length) :
    pattern.take n <+ xs ↔ n ≤ met pattern xs := by
  induction xs using List.reverseRecOn generalizing n with
  | nil =>
      rw [List.sublist_nil, List.take_eq_nil_iff, met_nil]
      constructor
      · intro h
        cases h with
        | inl hzero => omega
        | inr hpattern =>
            rw [hpattern] at hn
            exact hn
      · intro h
        exact .inl (by omega)
  | append_singleton xs x ih =>
      rw [sublist_append_singleton_iff, ih hn, met_append_singleton, le_advance_iff]
      apply or_congr_right
      constructor
      · intro ⟨init, hinit, hsub⟩
        obtain ⟨m, hm, hinit, hx⟩ := (take_eq_append_singleton_iff hn).1 hinit
        exact ⟨m, (ih (by omega)).1 (hinit ▸ hsub), hm, hx⟩
      · intro ⟨m, hle, hm, hx⟩
        exact ⟨pattern.take m, (take_eq_append_singleton_iff hn).2 ⟨m, hm, rfl, hx⟩,
          (ih (by omega)).2 hle⟩

theorem sublist_iff_met : pattern <+ xs ↔ met pattern xs = pattern.length := by
  have h := @take_sublist_iff α _ pattern xs _ (Nat.le_refl _)
  rw [List.take_length] at h
  rw [h]
  exact ⟨fun hle => Nat.le_antisymm met_le hle, fun heq => Nat.le_of_eq heq.symm⟩

end UniverEscrow.Lib.Subsequence
