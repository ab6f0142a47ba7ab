import UniverEscrow.Js.NumberText

/-!
# The shortest decimal

The digits printed for a Number are those of a decimal that rounds to it.  Seventeen digits are
enough: the nearest seventeen-digit decimal is closer than half a unit in the last place, also
below a power of two, where the unit is half as long.
-/

namespace UniverEscrow.Js

theorem pow10_eq_zpow (e : ℤ) : pow10 e = (10 : ℚ) ^ e := by
  cases e with
  | ofNat n => simp [pow10]
  | negSucc n => simp [pow10, zpow_negSucc, Rat.mkRat_eq_div]

theorem pow10_pos (e : ℤ) : 0 < pow10 e := by
  rw [pow10_eq_zpow]
  positivity

theorem pow10_add (a b : ℤ) : pow10 (a + b) = pow10 a * pow10 b := by
  simp only [pow10_eq_zpow]
  exact zpow_add₀ (by norm_num) a b

theorem pow10_natCast (n : ℕ) : pow10 n = ((10 ^ n : ℕ) : ℚ) := by
  rw [pow10_eq_zpow, zpow_natCast]
  push_cast
  rfl

theorem pow10_zero : pow10 0 = 1 := by
  rw [pow10_eq_zpow, zpow_zero]

theorem pow10_mul_neg (a : ℤ) : pow10 a * pow10 (-a) = 1 := by
  rw [← pow10_add, add_neg_cancel, pow10_zero]

/-! ## Rounding a close rational -/

/-- Below the next binade nothing is closer than half a unit. -/
theorem roundToUlp_eq_of_multiple {y x : ℚ} {m : ℤ} (hx : x = m * pow2 (ulpExponent y))
    (hnear : |y - x| < pow2 (ulpExponent y) / 2) : roundToUlp y = x := by
  have hulp := pow2_pos (ulpExponent y)
  have herr := abs_le.1 (abs_roundToUlp_sub_le y)
  have hnear' := abs_lt.1 hnear
  rw [roundToUlp] at herr ⊢
  set M := roundHalfEven (y / pow2 (ulpExponent y)) with hM
  have hdiff : |((M - m : ℤ) : ℚ)| * pow2 (ulpExponent y) < 1 * pow2 (ulpExponent y) := by
    have hsplit : ((M - m : ℤ) : ℚ) * pow2 (ulpExponent y) =
        (M * pow2 (ulpExponent y) - y) + (y - x) := by
      rw [hx]
      push_cast
      ring
    rw [← abs_of_pos hulp, ← abs_mul, abs_of_pos hulp, hsplit, one_mul, abs_lt]
    constructor <;> linarith [herr.1, herr.2, hnear'.1, hnear'.2]
  have hlt : |M - m| < 1 := by
    have := lt_of_mul_lt_mul_right hdiff hulp.le
    exact_mod_cast this
  rw [hx, show M = m by rw [Int.abs_lt_one_iff] at hlt; omega]

/-- A Number is a whole number of its own units. -/
theorem exists_eq_mul_ulp (x : Binary64) : ∃ m : ℤ, x.val = m * pow2 (ulpExponent x.val) := by
  have h := JsNumber.ofRat_val x
  unfold JsNumber.ofRat at h
  dsimp only at h
  split_ifs at h
  exact ⟨_, (congrArg Binary64.val (JsNumber.fin.inj h)).symm⟩

/-- Half a unit is more than a Number's part in `10 ^ 16`. -/
theorem lt_pow2_ulpExponent {x y : ℚ} (hx : 0 < x) (hnear : |y - x| ≤ x / (2 * 10 ^ 16)) :
    x / 10 ^ 16 < pow2 (ulpExponent y) := by
  have hnear' := abs_le.1 hnear
  have hy : 0 < y := by linarith [hnear'.1, div_le_self hx.le (by norm_num : (1 : ℚ) ≤ 2 * 10 ^ 16),
    show x / (2 * 10 ^ 16) < x from div_lt_self hx (by norm_num)]
  have hsig := abs_div_pow2_ulpExponent_le y
  rw [abs_of_pos (div_pos hy (pow2_pos _)), div_le_iff₀ (pow2_pos _)] at hsig
  push_cast at hsig
  have hlow : x * (1 - 1 / (2 * 10 ^ 16)) ≤ y := by
    have : x * (1 - 1 / (2 * 10 ^ 16)) = x - x / (2 * 10 ^ 16) := by ring
    linarith [hnear'.1]
  have hscaled : x / 10 ^ 16 * 2 ^ 53 < x * (1 - 1 / (2 * 10 ^ 16)) := by
    rw [div_mul_eq_mul_div, mul_div_assoc]
    exact mul_lt_mul_of_pos_left (by norm_num) hx
  have : x / 10 ^ 16 * 2 ^ 53 < 2 ^ 53 * pow2 (ulpExponent y) := by linarith
  linarith

theorem ulpExponent_le_of_near {x : Binary64} {y : ℚ} (hx : 0 < x.val) (hxy : x.val < y)
    (hnear : y - x.val ≤ x.val / (2 * 10 ^ 16)) : ulpExponent y ≤ ulpExponent x.val := by
  obtain ⟨m, hm⟩ := exists_eq_mul_ulp x
  have hulp := pow2_pos (ulpExponent x.val)
  have hbinade : x.val < pow2 (ilog2 x.val + 1) := by
    simpa [abs_of_pos hx] using abs_lt_pow2_ilog2_succ x.val
  have hmpos : (1 : ℚ) ≤ m := by
    have : (0 : ℚ) < m := by
      rw [hm] at hx
      exact pos_of_mul_pos_left hx hulp.le
    exact_mod_cast this
  have hexp : ulpExponent x.val < ilog2 x.val + 1 := by
    have hle : pow2 (ulpExponent x.val) ≤ x.val := by
      conv_rhs => rw [hm]
      exact le_mul_of_one_le_left hulp.le hmpos
    have hlt := hle.trans_lt hbinade
    rw [pow2_eq_zpow, pow2_eq_zpow] at hlt
    exact (zpow_lt_zpow_iff_right₀ (by norm_num)).1 hlt
  -- the next binade starts at a whole number of units
  obtain ⟨d, hd⟩ := Int.le.dest hexp.le
  have hnext : pow2 (ilog2 x.val + 1) = ((2 ^ d : ℤ) : ℚ) * pow2 (ulpExponent x.val) := by
    rw [← hd, pow2_eq_zpow, pow2_eq_zpow, zpow_add₀ (by norm_num), zpow_natCast, mul_comm]
    push_cast
    rfl
  have hroom : x.val + pow2 (ulpExponent x.val) ≤ pow2 (ilog2 x.val + 1) := by
    have hmd : m + 1 ≤ 2 ^ d := by
      have hlt : (m : ℚ) * pow2 (ulpExponent x.val) <
          ((2 ^ d : ℤ) : ℚ) * pow2 (ulpExponent x.val) := by rwa [← hm, ← hnext]
      have := lt_of_mul_lt_mul_right hlt hulp.le
      exact_mod_cast this
    calc x.val + pow2 (ulpExponent x.val) = ((m + 1 : ℤ) : ℚ) * pow2 (ulpExponent x.val) := by
          push_cast
          rw [add_mul, one_mul, ← hm]
      _ ≤ ((2 ^ d : ℤ) : ℚ) * pow2 (ulpExponent x.val) :=
          mul_le_mul_of_nonneg_right (by exact_mod_cast hmd) hulp.le
      _ = pow2 (ilog2 x.val + 1) := hnext.symm
  have hhalf : x.val / 10 ^ 16 < pow2 (ulpExponent x.val) :=
    lt_pow2_ulpExponent hx (by rw [sub_self, abs_zero]; positivity)
  have hy : |y| < (2 : ℚ) ^ (ilog2 x.val + 1) := by
    rw [← pow2_eq_zpow, abs_of_pos (hx.trans hxy)]
    have : x.val / (2 * 10 ^ 16) = x.val / 10 ^ 16 / 2 := by ring
    linarith
  have := ilog2_lt_of_abs_lt (hx.trans hxy).ne' hy
  unfold ulpExponent
  omega

/-- Whatever is within a Number's part in `2 * 10 ^ 16` of it rounds to it. -/
theorem JsNumber.ofRat_of_near {x : Binary64} {y : ℚ} (hx : 0 < x.val)
    (hnear : |y - x.val| ≤ x.val / (2 * 10 ^ 16)) : JsNumber.ofRat y = .fin x := by
  have hulp := lt_pow2_ulpExponent hx hnear
  have hnear' := abs_le.1 hnear
  have hmultiple : ∃ m : ℤ, x.val = m * pow2 (ulpExponent y) := by
    rcases lt_trichotomy y x.val with hlt | heq | hgt
    · have hy : 0 < y := by
        have := div_lt_self hx (by norm_num : (1 : ℚ) < 2 * 10 ^ 16)
        linarith [hnear'.1]
      exact exists_eq_mul_ulp_of_lt hy x.onGrid hlt
    · rw [heq]
      exact exists_eq_mul_ulp x
    · obtain ⟨d, hd⟩ := Int.le.dest (ulpExponent_le_of_near hx hgt hnear'.2)
      obtain ⟨m, hm⟩ := exists_eq_mul_ulp x
      refine ⟨m * 2 ^ d, ?_⟩
      conv_lhs => rw [hm, ← hd, pow2_eq_zpow, zpow_add₀ (by norm_num), zpow_natCast]
      rw [pow2_eq_zpow]
      push_cast
      ring
  obtain ⟨m, hm⟩ := hmultiple
  have hround : roundToUlp y = x.val := by
    refine roundToUlp_eq_of_multiple hm (hnear.trans_lt ?_)
    have : x.val / (2 * 10 ^ 16) = x.val / 10 ^ 16 / 2 := by ring
    linarith
  obtain ⟨z, hz, hval⟩ := JsNumber.ofRat_of_roundToUlp_lt (q := y) (by
    rw [hround]
    exact x.isBinary64.1)
  rw [hz, Binary64.ext_val (hval.trans hround)]

/-! ## The position of the point -/

theorem length_toDigits_pred_le {n : ℕ} (hn : 0 < n) :
    10 ^ ((Nat.toDigits 10 n).length - 1) ≤ n := by
  by_contra hlt
  have hlen := Nat.length_toDigits_pos (b := 10) (n := n)
  by_cases hone : (Nat.toDigits 10 n).length = 1
  · rw [hone] at hlt
    simp at hlt
    omega
  · have := (Nat.length_toDigits_le_iff (by norm_num) (by omega)).2 (not_le.1 hlt)
    omega

theorem lt_pow_length_toDigits (n : ℕ) : n < 10 ^ (Nat.toDigits 10 n).length :=
  (Nat.length_toDigits_le_iff (by norm_num) Nat.length_toDigits_pos).1 le_rfl

theorem decimalPoint_bounds {q : ℚ} (hq : 0 < q) :
    pow10 (decimalPoint q - 1) ≤ q ∧ q < pow10 (decimalPoint q) := by
  unfold decimalPoint
  split_ifs with hone
  · -- the digits of the integer part
    have hfloor : 0 < ⌊q⌋.toNat := by
      have := Int.le_floor.2 (show ((1 : ℤ) : ℚ) ≤ q by exact_mod_cast hone)
      omega
    have hcast : ((⌊q⌋.toNat : ℕ) : ℚ) = ⌊q⌋ := by
      have : ((⌊q⌋.toNat : ℕ) : ℤ) = ⌊q⌋ := Int.toNat_of_nonneg (by omega)
      exact_mod_cast this
    have hlen := Nat.length_toDigits_pos (b := 10) (n := ⌊q⌋.toNat)
    constructor
    · have hle : ((10 ^ ((Nat.toDigits 10 ⌊q⌋.toNat).length - 1) : ℕ) : ℚ) ≤ ⌊q⌋.toNat := by
        exact_mod_cast length_toDigits_pred_le hfloor
      rw [← pow10_natCast, Nat.cast_pred hlen, hcast] at hle
      exact hle.trans (Int.floor_le q)
    · have hlt : ((⌊q⌋.toNat + 1 : ℕ) : ℚ) ≤
          ((10 ^ (Nat.toDigits 10 ⌊q⌋.toNat).length : ℕ) : ℚ) := by
        exact_mod_cast lt_pow_length_toDigits _
      rw [pow10_natCast]
      push_cast at hlt ⊢
      rw [hcast] at hlt
      exact (Int.lt_floor_add_one q).trans_le hlt
  · -- the digits of the whole part of what exceeds the reciprocal
    have hinv : 1 < 1 / q := by rwa [lt_div_iff₀ hq, one_mul, ← not_le]
    have hceil : 1 < ⌈1 / q⌉ := Int.lt_ceil.2 (by exact_mod_cast hinv)
    set m := ⌈1 / q⌉.toNat - 1 with hm
    have hcast : ((m : ℕ) : ℚ) = ⌈1 / q⌉ - 1 := by
      have : ((m : ℕ) : ℤ) = ⌈1 / q⌉ - 1 := by omega
      exact_mod_cast this
    set L := (Nat.toDigits 10 m).length with hL
    have hneg (k : ℤ) : pow10 (-k) = 1 / pow10 k := by
      rw [eq_div_iff (pow10_pos k).ne', mul_comm, pow10_mul_neg]
    constructor
    · have hle : ((m + 1 : ℕ) : ℚ) ≤ ((10 ^ L : ℕ) : ℚ) := by
        exact_mod_cast lt_pow_length_toDigits m
      rw [show (1 - (L : ℤ) - 1) = -(L : ℤ) by ring, hneg, div_le_iff₀ (pow10_pos _),
        pow10_natCast]
      have hup : 1 / q ≤ ((10 ^ L : ℕ) : ℚ) := by
        have := Int.le_ceil (1 / q)
        push_cast at hle ⊢
        linarith
      rwa [div_le_iff₀ hq, mul_comm] at hup
    · have hlen := Nat.length_toDigits_pos (b := 10) (n := m)
      have hle : ((10 ^ (L - 1) : ℕ) : ℚ) ≤ m := by
        exact_mod_cast length_toDigits_pred_le (by omega)
      rw [← pow10_natCast, Nat.cast_pred hlen] at hle
      rw [show (1 - (L : ℤ)) = -((L : ℤ) - 1) by ring, hneg, lt_div_iff₀ (pow10_pos _)]
      have hlow : pow10 ((L : ℤ) - 1) < 1 / q := by
        have := Int.ceil_lt_add_one (1 / q)
        linarith
      rwa [lt_div_iff₀ hq, mul_comm] at hlow

/-! ## The digits -/

theorem digitsValue_eq_ofDigitChars {cs : List Char} (h : ∀ c ∈ cs, c.isDigit = true) :
    digitsValue 10 cs = Nat.ofDigitChars 10 cs 0 := by
  unfold digitsValue
  rw [Nat.ofDigitChars_eq_foldl]
  apply List.foldl_ext
  intro acc c hc
  have hdigit := h c hc
  simp only [Char.isDigit, Bool.and_eq_true, decide_eq_true_eq] at hdigit
  have hrange : '0' ≤ c ∧ c ≤ '9' := hdigit
  rw [digitValue, if_pos hrange, Nat.mul_comm]

theorem digitsValue_toDigits (n : ℕ) : digitsValue 10 (Nat.toDigits 10 n) = n := by
  rw [digitsValue_eq_ofDigitChars fun c => Nat.isDigit_of_mem_toDigits (by decide) (by decide),
    Nat.ofDigitChars_ten_toDigits]

theorem decimalCandidate_eq_some {x : Binary64} {n : ℤ} {k : ℕ} {s : ℤ}
    (h : decimalCandidate x n k = some s) :
    JsNumber.ofRat (s * pow10 (n - k)) = .fin x ∧
      (s = ⌊x.val * pow10 (k - n)⌋ ∨ s = ⌊x.val * pow10 (k - n)⌋ + 1) := by
  unfold decimalCandidate at h
  dsimp only at h
  split_ifs at h with hlo hup hup'
  · cases h
    exact ⟨by exact_mod_cast hup.1, .inr rfl⟩
  · cases h
    exact ⟨hlo, .inl rfl⟩
  · cases h
    exact ⟨by exact_mod_cast hup', .inr rfl⟩

/-- The nearest decimal of seventeen digits rounds back. -/
theorem isSome_decimalCandidate {x : Binary64} (hx : 0 < x.val) :
    (decimalCandidate x (decimalPoint x.val) 17).isSome = true := by
  set n := decimalPoint x.val with hn
  set t := x.val * pow10 (((17 : ℕ) : ℤ) - n) with ht
  have hscale : x.val = t * pow10 (n - ((17 : ℕ) : ℤ)) := by
    rw [ht, mul_assoc, ← neg_sub n, mul_comm (pow10 _), pow10_mul_neg, mul_one]
  have hunit : pow10 (n - ((17 : ℕ) : ℤ)) ≤ x.val / 10 ^ 16 := by
    rw [show n - ((17 : ℕ) : ℤ) = (n - 1) + (-16) by push_cast; ring, pow10_add,
      show pow10 (-16) = 1 / 10 ^ 16 by rw [pow10_eq_zpow]; norm_num, mul_one_div]
    gcongr
    exact (decimalPoint_bounds hx).1
  have hnear {s : ℤ} (hs : |(s : ℚ) - t| ≤ 1 / 2) :
      JsNumber.ofRat (s * pow10 (n - ((17 : ℕ) : ℤ))) = .fin x := by
    apply JsNumber.ofRat_of_near hx
    have hdiff : s * pow10 (n - ((17 : ℕ) : ℤ)) - x.val =
        ((s : ℚ) - t) * pow10 (n - ((17 : ℕ) : ℤ)) := by
      conv_lhs => rw [hscale]
      ring
    rw [hdiff, abs_mul, abs_of_pos (pow10_pos _)]
    calc |(s : ℚ) - t| * pow10 (n - ((17 : ℕ) : ℤ)) ≤ 1 / 2 * (x.val / 10 ^ 16) :=
          mul_le_mul hs hunit (pow10_pos _).le (by norm_num)
      _ = x.val / (2 * 10 ^ 16) := by ring
  have hlo := Int.floor_le t
  have hhi := Int.lt_floor_add_one t
  unfold decimalCandidate
  dsimp only
  rcases le_total (t - ⌊t⌋) (1 / 2) with hhalf | hhalf
  · have hback := hnear (s := ⌊t⌋) (by rw [abs_le]; constructor <;> linarith)
    rw [if_pos hback]
    split_ifs <;> rfl
  · have hback := hnear (s := ⌊t⌋ + 1) (by
      rw [abs_le]
      push_cast
      constructor <;> linarith)
    rw [Int.cast_add, Int.cast_one] at hback
    simp only [Int.cast_add, Int.cast_one]
    split_ifs <;> rfl

/-- A candidate has `k` digits, or is the power of ten after them. -/
theorem candidate_bounds {x : Binary64} (hx : 0 < x.val) {k : ℕ} (hk : 0 < k) {s : ℤ}
    (h : s = ⌊x.val * pow10 (k - decimalPoint x.val)⌋ ∨
      s = ⌊x.val * pow10 (k - decimalPoint x.val)⌋ + 1) :
    10 ^ (k - 1) ≤ s.toNat ∧ s.toNat ≤ 10 ^ k ∧ (s.toNat : ℤ) = s := by
  set n := decimalPoint x.val with hn
  obtain ⟨hlow, hhigh⟩ := decimalPoint_bounds hx
  set t := x.val * pow10 (k - n) with ht
  have hlow' : ((10 ^ (k - 1) : ℕ) : ℚ) ≤ t := by
    rw [← pow10_natCast, Nat.cast_pred hk, show (k : ℤ) - 1 = (n - 1) + (k - n) by ring, pow10_add]
    exact mul_le_mul_of_nonneg_right hlow (pow10_pos _).le
  have hhigh' : t < ((10 ^ k : ℕ) : ℚ) := by
    rw [← pow10_natCast, show (k : ℤ) = n + (k - n) by ring, pow10_add]
    exact mul_lt_mul_of_pos_right hhigh (pow10_pos _)
  have hfloor : ((10 ^ (k - 1) : ℕ) : ℤ) ≤ ⌊t⌋ := Int.le_floor.2 (by exact_mod_cast hlow')
  have hfloor' : ⌊t⌋ < ((10 ^ k : ℕ) : ℤ) := Int.floor_lt.2 (by exact_mod_cast hhigh')
  generalize 10 ^ (k - 1) = low at *
  generalize 10 ^ k = high at *
  omega

/-- The digits and the point printed for a positive Number denote a decimal that rounds to it. -/
theorem ofRat_shortestDecimal {x : Binary64} (hx : 0 < x.val) :
    JsNumber.ofRat (digitsValue 10 (shortestDecimal x).1 *
      pow10 ((shortestDecimal x).2 - (shortestDecimal x).1.length)) = .fin x := by
  set n := decimalPoint x.val with hn
  obtain ⟨⟨s, k⟩, hfind⟩ : ∃ found, (List.range' 1 17).findSome? (fun k =>
      (decimalCandidate x n k).map fun s => (s, k)) = some found := by
    apply Option.isSome_iff_exists.1
    rw [List.findSome?_isSome_iff]
    refine ⟨17, by decide, ?_⟩
    rw [Option.isSome_map]
    exact isSome_decimalCandidate hx
  obtain ⟨k', hk', hcand⟩ := List.exists_of_findSome?_eq_some hfind
  obtain ⟨s', hs', heq⟩ := Option.map_eq_some_iff.1 hcand
  cases heq
  have hk : 0 < k := by
    have := (List.mem_range'_1.1 hk').1
    omega
  obtain ⟨hround, hfloor⟩ := decimalCandidate_eq_some hs'
  obtain ⟨hlow, hhigh, hcast⟩ := candidate_bounds hx hk hfloor
  have hcastq : ((s.toNat : ℕ) : ℚ) = s := by exact_mod_cast hcast
  unfold shortestDecimal
  dsimp only
  rw [← hn, hfind, Option.getD_some]
  dsimp only
  split_ifs with hlen
  · rw [digitsValue_toDigits, hlen, hcastq]
    exact hround
  · -- one digit more than asked for: the candidate carried
    have hcarry : s.toNat = 10 ^ k := by
      apply le_antisymm hhigh
      by_contra hlt
      have hle := (Nat.length_toDigits_le_iff (b := 10) (by norm_num) hk).2 (not_le.1 hlt)
      by_cases hone : k = 1
      · have := Nat.length_toDigits_pos (b := 10) (n := s.toNat)
        omega
      · have := Nat.length_toDigits_le_iff (b := 10) (n := s.toNat) (k := k - 1) (by norm_num)
          (by omega)
        omega
    rw [← hround, ← hcastq, hcarry, ← pow10_natCast, ← pow10_add]
    congr 1
    simp only [List.length_singleton, show digitsValue 10 ['1'] = 1 from rfl]
    rw [Nat.cast_one, one_mul]
    congr 1
    ring

end UniverEscrow.Js
