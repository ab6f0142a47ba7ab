import UniverEscrow.Js.IntegerText

/-!
# Plain numerals

`Number(s)` of a run of digits, and the integers of a range.  Of the texts that `Number` reads as
an integer, a run of digits is only one kind.
-/

namespace UniverEscrow.Js

section Digits
variable {cs : List Char}

theorem readUnsignedDecimal_of_digits (h : ∀ c ∈ cs, isDigitOf 10 c = true) (hne : cs ≠ []) :
    readUnsignedDecimal cs = some (digitsValue 10 cs : ℚ) := by
  have htake : cs.takeWhile (isDigitOf 10) = cs := List.takeWhile_eq_self_iff.2 h
  have hdrop : cs.dropWhile (isDigitOf 10) = [] := List.dropWhile_eq_nil_iff.2 h
  unfold readUnsignedDecimal
  rw [htake, hdrop]
  dsimp only
  rw [if_neg hne, readExponent, Option.map_some, pow10_zero, mul_one]

/-- A run of digits denotes its value. -/
theorem stringToNumber_digits (h : ∀ c ∈ cs, isDigitOf 10 c = true) (hne : cs ≠ []) :
    stringToNumber (String.ofList cs) = .ofRat (digitsValue 10 cs) := by
  have hspace : ∀ c ∈ cs, isJsSpace c = false := fun c hc => not_space_of_digit (h c hc)
  unfold stringToNumber
  rw [String.toList_ofList, trimChars_of_forall hspace]
  split
  · exact absurd rfl hne
  · rename_i c ds
    have hradix := (numberChar_of_digits h c (by simp)).not_radix
    simp only [hradix, ne_eq, not_true_eq_false, if_false]
    rw [readUnsignedDecimal_of_digits h hne, Option.map_some, Option.getD_some]
  · have hinfinity : cs ≠ "Infinity".toList := by
      rintro rfl
      exact absurd (h 'I' (by decide)) (by decide)
    rw [readSign_of_digits h]
    dsimp only
    rw [if_neg hinfinity, readUnsignedDecimal_of_digits h hne, Option.map_some, Option.getD_some,
      Int.cast_one, one_mul]

end Digits

namespace JsNumber

theorem exists_int_of_isInteger {v : JsNumber} (h : v.isInteger = true) :
    ∃ (x : Binary64) (z : ℤ), v = .fin x ∧ x.val = z := by
  cases v with
  | nan => cases h
  | posInf => cases h
  | negInf => cases h
  | fin x =>
      have hden : x.val.den = 1 := of_decide_eq_true h
      exact ⟨x, x.val.num, rfl, (Rat.coe_int_num_of_den_eq_one hden).symm⟩

theorem lt_fin_intCast {x : Binary64} {z n : ℤ} (hx : x.val = z) (hn : |n| ≤ 2 ^ 53) :
    ((fin x).lt (ofInt n) = true ↔ z < n) ∧ ((ofInt n).lt (fin x) = true ↔ n < z) := by
  rw [ofInt_eq_fin hn]
  simp [lt, hx]

/-- The integers from `lo` to `hi`, as the code asks for them. -/
theorem isInteger_between_iff {v : JsNumber} {lo hi : ℕ} (hlohi : lo ≤ hi) (hhi : hi ≤ 2 ^ 53) :
    (v.isInteger = true ∧ v.lt (ofInt lo) = false ∧ (ofInt hi).lt v = false) ↔
      ∃ n : ℕ, lo ≤ n ∧ n ≤ hi ∧ v = ofInt n := by
  have habs {n : ℕ} (hn : n ≤ hi) : |(n : ℤ)| ≤ 2 ^ 53 := by
    rw [abs_of_nonneg (Int.natCast_nonneg n)]
    exact_mod_cast hn.trans hhi
  constructor
  · rintro ⟨hinteger, hlo, hup⟩
    obtain ⟨x, z, rfl, hx⟩ := exists_int_of_isInteger hinteger
    rw [Bool.eq_false_iff, ne_eq, (lt_fin_intCast hx (habs hlohi)).1] at hlo
    rw [Bool.eq_false_iff, ne_eq, (lt_fin_intCast hx (habs le_rfl)).2] at hup
    refine ⟨z.toNat, by omega, by omega, ?_⟩
    have hz : ((z.toNat : ℕ) : ℤ) = z := Int.toNat_of_nonneg (by omega)
    rw [hz, ofInt, ← hx, ofRat_val]
  · rintro ⟨n, hlo, hup, rfl⟩
    refine ⟨?_, ?_, ?_⟩
    · simp [ofInt_eq_fin (habs hup), isInteger]
    · rw [Bool.eq_false_iff, ne_eq, lt_ofInt (habs hup) (habs hlohi)]
      omega
    · rw [Bool.eq_false_iff, ne_eq, lt_ofInt (habs le_rfl) (habs hup)]
      omega

/-- No integer lies between zero and one. -/
theorem le_zero_of_isInteger {v : JsNumber} (h : v.isInteger = true) :
    v.le (ofInt 0) = v.lt (ofInt 1) := by
  obtain ⟨x, z, rfl, hx⟩ := exists_int_of_isInteger h
  have hone : |(1 : ℤ)| ≤ 2 ^ 53 := by norm_num
  have hzero : |(0 : ℤ)| ≤ 2 ^ 53 := by norm_num
  rw [Bool.eq_iff_iff, le_iff, (lt_fin_intCast hx hzero).1, (lt_fin_intCast hx hone).1]
  constructor
  · rintro (hlt | ⟨-, heq⟩)
    · omega
    · rw [ofInt_eq_fin hzero, fin.injEq] at heq
      rw [heq] at hx
      have hz : (0 : ℤ) = z := Int.cast_inj.1 hx
      omega
  · intro hlt
    rcases (show z < 0 ∨ z = 0 by omega) with hneg | rfl
    · exact .inl hneg
    · right
      rw [ofInt_eq_fin hzero]
      exact ⟨fun h => JsNumber.noConfusion h, congrArg fin (Binary64.ext_val hx)⟩

/-- A run of digits denotes a small integer only as its value. -/
theorem ofRat_natCast_eq_ofInt {m n : ℕ} (hn : n < 2 ^ 53) :
    ofRat (m : ℚ) = ofInt n ↔ m = n := by
  have habs : |(n : ℤ)| ≤ 2 ^ 53 := by
    rw [abs_of_nonneg (Int.natCast_nonneg n)]
    exact_mod_cast hn.le
  constructor
  · intro h
    rw [ofInt_eq_fin habs] at h
    exact eq_of_ofRat_natCast (by exact_mod_cast rfl) hn h
  · rintro rfl
    rw [ofInt, Int.cast_natCast]

end JsNumber

end UniverEscrow.Js
