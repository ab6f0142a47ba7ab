import Mathlib.Data.List.Sort

/-!
# The middle of a sorted list

Where more than half of the elements lie in an interval, the middle of the sorted list does: too
few elements are left over to push it out on either side.
-/

namespace UniverEscrow.Lib.Majority

variable {α : Type*} {xs : List α}

theorem countP_add_countP_le {p q : α → Bool} (h : ∀ x ∈ xs, p x = true → q x = false) :
    xs.countP p + xs.countP q ≤ xs.length := by
  have hsplit := xs.length_eq_countP_add_countP q
  have hle : xs.countP p ≤ xs.countP fun x => ¬ q x = true := by
    apply List.countP_mono_left
    intro x hx hpx
    simp [h x hx hpx]
  omega

variable [LinearOrder α] {lo hi : α} {i : ℕ}

/-- An element is at least `lo` if no more elements than its index are below. -/
theorem le_getElem_of_countP (hs : xs.SortedLE) (hi : i < xs.length)
    (hbelow : xs.countP (· < lo) ≤ i) : lo ≤ xs[i] := by
  by_contra hlt
  have htake : (xs.take (i + 1)).countP (· < lo) = i + 1 := by
    have hall : ∀ x ∈ xs.take (i + 1), decide (x < lo) = true := by
      intro x hx
      obtain ⟨j, hj, rfl⟩ := List.getElem_of_mem hx
      have hji : j ≤ i := by
        rw [List.length_take] at hj
        omega
      rw [List.getElem_take, decide_eq_true_eq]
      exact (hs.getElem_le_getElem_of_le hji).trans_lt (not_le.1 hlt)
    rw [List.countP_eq_length.2 hall, List.length_take]
    omega
  have hsub : (xs.take (i + 1)).countP (· < lo) ≤ xs.countP (· < lo) :=
    (List.take_sublist _ _).countP_le
  omega

/-- An element is at most `hi` if fewer elements than stand from it on are above. -/
theorem getElem_le_of_countP (hs : xs.SortedLE) (hi' : i < xs.length)
    (habove : xs.countP (hi < ·) + i < xs.length) : xs[i] ≤ hi := by
  by_contra hlt
  have hdrop : (xs.drop i).countP (hi < ·) = xs.length - i := by
    have hall : ∀ x ∈ xs.drop i, decide (hi < x) = true := by
      intro x hx
      obtain ⟨j, hj, rfl⟩ := List.getElem_of_mem hx
      rw [List.length_drop] at hj
      rw [List.getElem_drop, decide_eq_true_eq]
      exact (not_le.1 hlt).trans_le
        (hs.getElem_le_getElem_of_le (Nat.le_add_right i j))
    rw [List.countP_eq_length.2 hall, List.length_drop]
  have hsub : (xs.drop i).countP (hi < ·) ≤ xs.countP (hi < ·) :=
    (List.drop_sublist _ _).countP_le
  omega

/-- The elements around the middle lie where the majority lies. -/
theorem getElem_of_majority (hs : xs.SortedLE)
    (hmajority : xs.length < 2 * xs.countP fun x => lo ≤ x ∧ x ≤ hi)
    (hi' : i < xs.length) (hle : 2 * i ≤ xs.length) (hge : xs.length ≤ 2 * i + 2) :
    lo ≤ xs[i] ∧ xs[i] ≤ hi := by
  have hbelow : xs.countP (· < lo) + xs.countP (fun x => lo ≤ x ∧ x ≤ hi) ≤ xs.length := by
    apply countP_add_countP_le
    intro x _ hx
    simp only [decide_eq_true_eq] at hx
    simp [hx]
  have habove : xs.countP (hi < ·) + xs.countP (fun x => lo ≤ x ∧ x ≤ hi) ≤ xs.length := by
    apply countP_add_countP_le
    intro x _ hx
    simp only [decide_eq_true_eq] at hx
    simp [hx]
  exact ⟨le_getElem_of_countP hs hi' (by omega), getElem_le_of_countP hs hi' (by omega)⟩

end UniverEscrow.Lib.Majority
