import UniverEscrow.Js.Number

/-!
# Safe integers

On integers of absolute value at most `2 ^ 53` the Number operations are those of the integers.
-/

namespace UniverEscrow.Js.JsNumber

theorem lt_irrefl (a : JsNumber) : a.lt a = false := by
  cases a <;> simp [lt]

theorem posInf_lt (a : JsNumber) : posInf.lt a = false := by
  cases a <;> rfl

theorem lt_trans {a b c : JsNumber} (hab : a.lt b = true) (hbc : b.lt c = true) :
    a.lt c = true := by
  cases a with
  | nan => cases hab
  | posInf => cases b <;> cases hab
  | negInf =>
      cases c with
      | negInf => cases b <;> cases hbc
      | nan => cases b <;> cases hbc
      | posInf => rfl
      | fin z => rfl
  | fin x =>
      cases b with
      | nan => cases hab
      | negInf => cases hab
      | posInf => cases c <;> cases hbc
      | fin y =>
          cases c with
          | nan => cases hbc
          | negInf => cases hbc
          | posInf => rfl
          | fin z =>
              simp only [lt, decide_eq_true_eq] at hab hbc ⊢
              exact hab.trans hbc

variable {m n : ℤ}

theorem lt_ofInt (hm : |m| ≤ 2 ^ 53) (hn : |n| ≤ 2 ^ 53) :
    (ofInt m).lt (ofInt n) = true ↔ m < n := by
  rw [ofInt_eq_fin hm, ofInt_eq_fin hn]
  simp [lt]

theorem ofInt_inj (hm : |m| ≤ 2 ^ 53) (hn : |n| ≤ 2 ^ 53) : ofInt m = ofInt n ↔ m = n := by
  rw [ofInt_eq_fin hm, ofInt_eq_fin hn]
  simp

theorem ofInt_ne_nan (hm : |m| ≤ 2 ^ 53) : ofInt m ≠ .nan := by
  rw [ofInt_eq_fin hm]
  exact fun h => JsNumber.noConfusion h

theorem add_ofInt (hm : |m| ≤ 2 ^ 53) (hn : |n| ≤ 2 ^ 53) :
    (ofInt m).add (ofInt n) = ofInt (m + n) := by
  rw [ofInt_eq_fin hm, ofInt_eq_fin hn, add, ofInt]
  push_cast
  rfl

theorem neg_ofInt (hn : |n| ≤ 2 ^ 53) : (ofInt n).neg = ofInt (-n) := by
  rw [ofInt_eq_fin hn, neg, ofInt]
  push_cast
  rfl

theorem sub_ofInt (hm : |m| ≤ 2 ^ 53) (hn : |n| ≤ 2 ^ 53) :
    (ofInt m).sub (ofInt n) = ofInt (m - n) := by
  rw [sub, neg_ofInt hn, add_ofInt hm (by rwa [abs_neg]), ← sub_eq_add_neg]

theorem mul_ofInt (hm : |m| ≤ 2 ^ 53) (hn : |n| ≤ 2 ^ 53) :
    (ofInt m).mul (ofInt n) = ofInt (m * n) := by
  rw [ofInt_eq_fin hm, ofInt_eq_fin hn, mul, ofInt]
  push_cast
  rfl

/-- Counting up stops where Number addition rounds the one away. -/
theorem add_one_ofInt {n : ℕ} (h : n ≤ 2 ^ 53) :
    (ofInt n).add (ofInt 1) = ofInt (min (n + 1) (2 ^ 53) : ℕ) := by
  rcases Nat.lt_or_ge n (2 ^ 53) with hlt | hge
  · have habs : |(n : ℤ)| ≤ 2 ^ 53 := by
      rw [abs_of_nonneg (by omega)]
      exact_mod_cast h
    rw [add_ofInt habs (by norm_num), Nat.min_eq_left hlt]
    push_cast
    rfl
  · have hmax : n = 2 ^ 53 := by omega
    subst hmax
    decide +kernel

theorem le_iff {a b : JsNumber} : a.le b = true ↔ a.lt b = true ∨ a ≠ .nan ∧ a = b := by
  simp [le, strictEq]

theorem le_trans {a b c : JsNumber} (hab : a.le b = true) (hbc : b.le c = true) :
    a.le c = true := by
  rw [le_iff] at *
  rcases hab with hab | ⟨-, rfl⟩
  · rcases hbc with hbc | ⟨-, rfl⟩
    · exact .inl (lt_trans hab hbc)
    · exact .inl hab
  · exact hbc

theorem le_ofInt (hm : |m| ≤ 2 ^ 53) (hn : |n| ≤ 2 ^ 53) (hmn : m ≤ n) :
    (ofInt m).le (ofInt n) = true := by
  rw [le_iff]
  rcases hmn.lt_or_eq with hlt | rfl
  · exact .inl ((lt_ofInt hm hn).2 hlt)
  · exact .inr ⟨ofInt_ne_nan hm, rfl⟩

end UniverEscrow.Js.JsNumber
