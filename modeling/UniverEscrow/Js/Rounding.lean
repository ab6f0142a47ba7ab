import UniverEscrow.Js.NumberRoundTrip
import UniverEscrow.Js.SafeInteger

/-!
# Rounding to nearest

A sum or a difference of Numbers rounds to a grid point that no other is nearer than.  Rounding
is odd and passes no grid point, so subtracting a Number and adding at most half of it back never
ends above the start.
-/

namespace UniverEscrow.Js

/-! ## The nearest integer -/

theorem roundHalfEven_neg (q : ℚ) : roundHalfEven (-q) = -roundHalfEven q := by
  have hlo := Int.floor_le q
  have hhi := Int.lt_floor_add_one q
  by_cases hint : q = ⌊q⌋
  · rw [hint, ← Int.cast_neg, roundHalfEven_intCast, roundHalfEven_intCast]
  · have hpos : (0 : ℚ) < q - ⌊q⌋ := by
      rcases hlo.lt_or_eq with h | h
      · linarith
      · exact absurd h.symm hint
    have hfloor : ⌊-q⌋ = -⌊q⌋ - 1 := by
      rw [Int.floor_eq_iff]
      push_cast
      constructor <;> linarith
    unfold roundHalfEven
    simp only [hfloor]
    push_cast
    split_ifs <;> first | omega | (exfalso; linarith)

/-- No integer is nearer. -/
theorem abs_roundHalfEven_sub_le_of_int (q : ℚ) (n : ℤ) :
    |(roundHalfEven q : ℚ) - q| ≤ |(n : ℚ) - q| := by
  have hlo := Int.floor_le q
  have hhi := Int.lt_floor_add_one q
  have hround : |(roundHalfEven q : ℚ) - q| ≤ q - ⌊q⌋ ∧
      |(roundHalfEven q : ℚ) - q| ≤ ⌊q⌋ + 1 - q := by
    unfold roundHalfEven
    dsimp only
    rw [abs_le, abs_le]
    split_ifs <;> push_cast <;> refine ⟨⟨?_, ?_⟩, ?_, ?_⟩ <;> linarith
  rcases le_or_gt n ⌊q⌋ with hn | hn
  · have hn' : (n : ℚ) ≤ ⌊q⌋ := by exact_mod_cast hn
    rw [abs_sub_comm (n : ℚ), abs_of_nonneg (by linarith : (0 : ℚ) ≤ q - n)]
    linarith [hround.1]
  · have hn' : (⌊q⌋ : ℚ) + 1 ≤ n := by exact_mod_cast hn
    rw [abs_of_nonneg (by linarith : (0 : ℚ) ≤ n - q)]
    linarith [hround.2]

/-! ## The nearest grid point -/

theorem ilog2_neg (q : ℚ) : ilog2 (-q) = ilog2 q := by
  unfold ilog2
  rw [Rat.num_neg_eq_neg_num, Rat.den_neg_eq_den, Int.natAbs_neg, abs_neg]

theorem ulpExponent_neg (q : ℚ) : ulpExponent (-q) = ulpExponent q := by
  rw [ulpExponent, ulpExponent, ilog2_neg]

theorem roundToUlp_neg (q : ℚ) : roundToUlp (-q) = -roundToUlp q := by
  rw [roundToUlp, roundToUlp, ulpExponent_neg, neg_div, roundHalfEven_neg]
  push_cast
  ring

theorem roundToUlp_zero : roundToUlp 0 = 0 := by
  rw [roundToUlp, zero_div, ← Int.cast_zero, roundHalfEven_intCast, Int.cast_zero, zero_mul]

theorem OnGrid.neg {q : ℚ} (h : OnGrid q) : OnGrid (-q) := by
  obtain ⟨m, e, hm, he, hq⟩ := h
  exact ⟨-m, e, by rwa [abs_neg], he, by rw [hq]; push_cast; ring⟩

theorem onGrid_intCast {n : ℤ} (h : |n| ≤ 2 ^ 53) : OnGrid n := (isBinary64_intCast h).2

theorem onGrid_roundToUlp (q : ℚ) : OnGrid (roundToUlp q) :=
  ⟨roundHalfEven (q / pow2 (ulpExponent q)), ulpExponent q,
    abs_roundHalfEven_le (abs_div_pow2_ulpExponent_le q), le_max_right _ _, by
      rw [roundToUlp, pow2_eq_zpow]⟩

/-- Up to a positive rational no grid point is above the last whole number of ulps. -/
theorem le_floor_mul_ulp {q g : ℚ} (hq : 0 < q) (hg : OnGrid g) (hgq : g ≤ q) :
    g ≤ ⌊q / pow2 (ulpExponent q)⌋ * pow2 (ulpExponent q) := by
  have hulp := pow2_pos (ulpExponent q)
  have hwhole {n : ℤ} (h : n * pow2 (ulpExponent q) ≤ q) :
      n * pow2 (ulpExponent q) ≤ ⌊q / pow2 (ulpExponent q)⌋ * pow2 (ulpExponent q) := by
    have hn : n ≤ ⌊q / pow2 (ulpExponent q)⌋ := by rwa [Int.le_floor, le_div_iff₀ hulp]
    exact mul_le_mul_of_nonneg_right (by exact_mod_cast hn) hulp.le
  obtain ⟨m, e, hm, he, hge⟩ := hg
  rcases le_or_gt (ulpExponent q) e with hexp | hexp
  · -- the grid point is a whole number of ulps itself
    obtain ⟨d, hd⟩ := Int.le.dest hexp
    have hmultiple : g = ((m * 2 ^ d : ℤ) : ℚ) * pow2 (ulpExponent q) := by
      rw [hge, ← hd, pow2_eq_zpow, zpow_add₀ (by norm_num), zpow_natCast]
      push_cast
      ring
    rw [hmultiple] at hgq ⊢
    exact hwhole hgq
  · -- it is below the binade of `q`, which starts at a whole number of ulps
    have hbinade : ulpExponent q + 52 = ilog2 q := by
      unfold ulpExponent at hexp ⊢
      omega
    have hstart : ((2 ^ 52 : ℤ) : ℚ) * pow2 (ulpExponent q) = pow2 (ilog2 q) := by
      rw [← hbinade, pow2_eq_zpow, pow2_eq_zpow, zpow_add₀ (by norm_num), mul_comm]
      norm_num
    have hbelow : g ≤ ((2 ^ 52 : ℤ) : ℚ) * pow2 (ulpExponent q) := by
      have hmq : (m : ℚ) ≤ 2 ^ 53 := by exact_mod_cast (abs_le.1 hm).2
      calc g = m * (2 : ℚ) ^ e := hge
        _ ≤ 2 ^ 53 * (2 : ℚ) ^ e := by gcongr
        _ = (2 : ℚ) ^ (e + 53) := by rw [zpow_add₀ (by norm_num), mul_comm]; norm_num
        _ ≤ (2 : ℚ) ^ (ilog2 q) := zpow_le_zpow_right₀ (by norm_num) (by omega)
        _ = _ := by rw [hstart, pow2_eq_zpow]
    refine hbelow.trans (hwhole ?_)
    rw [hstart]
    exact (pow2_ilog2_le hq.ne').trans_eq (abs_of_pos hq)

theorem abs_roundToUlp_sub_eq (q x : ℚ) :
    |x * pow2 (ulpExponent q) - q| = |x - q / pow2 (ulpExponent q)| * pow2 (ulpExponent q) := by
  have hulp := pow2_pos (ulpExponent q)
  have hsplit : x * pow2 (ulpExponent q) - q =
      (x - q / pow2 (ulpExponent q)) * pow2 (ulpExponent q) := by
    rw [sub_mul, div_mul_cancel₀ _ hulp.ne']
  rw [hsplit, abs_mul, abs_of_pos hulp]

theorem abs_roundToUlp_sub_le_of_pos {q g : ℚ} (hq : 0 < q) (hg : OnGrid g) :
    |roundToUlp q - q| ≤ |g - q| := by
  have hulp := pow2_pos (ulpExponent q)
  have hwhole (n : ℤ) : |roundToUlp q - q| ≤ |n * pow2 (ulpExponent q) - q| := by
    rw [roundToUlp, abs_roundToUlp_sub_eq, abs_roundToUlp_sub_eq]
    exact mul_le_mul_of_nonneg_right (abs_roundHalfEven_sub_le_of_int _ n) hulp.le
  rcases le_or_gt g q with hgq | hgq
  · have hfloor := le_floor_mul_ulp hq hg hgq
    have hfloor' : (⌊q / pow2 (ulpExponent q)⌋ : ℚ) * pow2 (ulpExponent q) ≤ q :=
      (le_div_iff₀ hulp).1 (Int.floor_le _)
    refine (hwhole ⌊q / pow2 (ulpExponent q)⌋).trans ?_
    rw [abs_of_nonpos (by linarith), abs_of_nonpos (by linarith)]
    linarith
  · obtain ⟨n, hn⟩ := exists_eq_mul_ulp_of_lt hq hg hgq
    rw [hn]
    exact hwhole n

/-- No grid point is nearer. -/
theorem abs_roundToUlp_sub_le_of_onGrid (q : ℚ) {g : ℚ} (hg : OnGrid g) :
    |roundToUlp q - q| ≤ |g - q| := by
  rcases lt_trichotomy q 0 with hq | rfl | hq
  · have h := abs_roundToUlp_sub_le_of_pos (neg_pos.2 hq) hg.neg
    rwa [roundToUlp_neg, ← neg_sub_neg (-q), neg_neg, neg_neg, neg_sub_neg, abs_sub_comm,
      abs_sub_comm q g] at h
  · rw [roundToUlp_zero, sub_zero, abs_zero]
    exact abs_nonneg _
  · exact abs_roundToUlp_sub_le_of_pos hq hg

/-! ## Rounding passes no grid point -/

theorem roundToUlp_of_onGrid {g : ℚ} (hg : OnGrid g) : roundToUlp g = g := by
  have h := abs_roundToUlp_sub_le_of_onGrid g hg
  rw [sub_self, abs_zero] at h
  exact sub_eq_zero.1 (abs_nonpos_iff.1 h)

theorem roundToUlp_le {q g : ℚ} (hg : OnGrid g) (h : q ≤ g) : roundToUlp q ≤ g := by
  by_contra hlt
  rw [not_le] at hlt
  have hnear := abs_roundToUlp_sub_le_of_onGrid q hg
  rw [abs_of_nonneg (by linarith), abs_of_nonneg (by linarith)] at hnear
  linarith

theorem le_roundToUlp {q g : ℚ} (hg : OnGrid g) (h : g ≤ q) : g ≤ roundToUlp q := by
  have hneg := roundToUlp_le hg.neg (neg_le_neg h)
  rw [roundToUlp_neg] at hneg
  linarith

/-! ## Subtracting a Number and adding half of it back -/

theorem ulpExponent_le_of_abs_le {q r : ℚ} (hq : q ≠ 0) (h : |q| ≤ |r|) :
    ulpExponent q ≤ ulpExponent r := by
  have hlt : ilog2 q < ilog2 r + 1 := by
    apply ilog2_lt_of_abs_lt hq
    rw [← pow2_eq_zpow]
    exact h.trans_lt (abs_lt_pow2_ilog2_succ r)
  unfold ulpExponent
  omega

/-- Half a unit above a grid point rounding still ends on it. -/
theorem roundToUlp_le_of_lt_half_ulp {g w : ℚ} (hpos : 0 < g) (hg : OnGrid g)
    (hw : w < g + pow2 (ulpExponent g) / 2) : roundToUlp w ≤ g := by
  rcases le_or_gt w g with hwg | hwg
  · exact roundToUlp_le hg hwg
  · by_contra hlt
    rw [not_le] at hlt
    -- the next whole number of units is more than half a unit away
    obtain ⟨n, hn⟩ := exists_eq_mul_ulp_of_lt hpos (onGrid_roundToUlp w) hlt
    have hulp := pow2_pos (ulpExponent g)
    have hself : (roundHalfEven (g / pow2 (ulpExponent g)) : ℚ) * pow2 (ulpExponent g) = g :=
      roundToUlp_of_onGrid hg
    set m := roundHalfEven (g / pow2 (ulpExponent g))
    have hmn : (m : ℚ) + 1 ≤ n := by
      have hlt' : (m : ℚ) * pow2 (ulpExponent g) < n * pow2 (ulpExponent g) := by
        rwa [hself, ← hn]
      exact_mod_cast lt_of_mul_lt_mul_right hlt' hulp.le
    have hnext : g + pow2 (ulpExponent g) ≤ roundToUlp w :=
      calc g + pow2 (ulpExponent g) = (m + 1) * pow2 (ulpExponent g) := by
            rw [add_mul, one_mul, hself]
        _ ≤ n * pow2 (ulpExponent g) := mul_le_mul_of_nonneg_right hmn hulp.le
        _ = roundToUlp w := hn.symm
    have hnear := abs_roundToUlp_sub_le_of_onGrid w hg
    rw [abs_of_nonneg (by linarith), abs_of_neg (by linarith)] at hnear
    linarith

/-- The sum rounds to a negative number, or to at most the number subtracted from. -/
theorem roundToUlp_sub_add_le {n d h : ℚ} (hn : OnGrid n) (hd : OnGrid d)
    (hhalf : OnGrid (d / 2)) (hpos : 0 < d) (hh : h ≤ d / 2) :
    roundToUlp (roundToUlp (n - d) + h) < 0 ∨ roundToUlp (roundToUlp (n - d) + h) ≤ n := by
  rcases lt_or_ge n 0 with hneg | hnonneg
  · left
    have hdiff : roundToUlp (n - d) ≤ -d := roundToUlp_le hd.neg (by linarith)
    have hsum : roundToUlp (roundToUlp (n - d) + h) ≤ -(d / 2) :=
      roundToUlp_le hhalf.neg (by linarith)
    linarith
  · right
    rcases lt_or_ge (2 * n) d with hlarge | hsmall
    · have hdiff : roundToUlp (n - d) ≤ -(d / 2) := roundToUlp_le hhalf.neg (by linarith)
      exact roundToUlp_le hn (by linarith)
    · have hnpos : 0 < n := by linarith
      by_cases heq : n - d = 0
      · rw [heq, roundToUlp_zero]
        exact roundToUlp_le hn (by linarith)
      · apply roundToUlp_le_of_lt_half_ulp hnpos hn
        have hulp : pow2 (ulpExponent (n - d)) ≤ pow2 (ulpExponent n) := by
          rw [pow2_eq_zpow, pow2_eq_zpow]
          apply zpow_le_zpow_right₀ (by norm_num)
          apply ulpExponent_le_of_abs_le heq
          rw [abs_of_pos hnpos, abs_le]
          constructor <;> linarith
        have herr := (abs_le.1 (abs_roundToUlp_sub_le (n - d))).2
        linarith

namespace JsNumber

theorem ofRat_of_overflow {q : ℚ} (h : ¬|roundToUlp q| < 2 ^ 1024) :
    ofRat q = if 0 < q then .posInf else .negInf := by
  unfold ofRat
  exact dif_neg h

theorem ofRat_eq_fin {q : ℚ} {x : Binary64} : ofRat q = .fin x ↔ roundToUlp q = x.val := by
  by_cases hfits : |roundToUlp q| < 2 ^ 1024
  · obtain ⟨y, hy, hval⟩ := ofRat_of_roundToUlp_lt hfits
    rw [hy, ← hval]
    exact ⟨fun h => congrArg Binary64.val (JsNumber.fin.inj h),
      fun h => congrArg JsNumber.fin (Binary64.ext_val h)⟩
  · have hinf := ofRat_of_overflow hfits
    constructor
    · intro h
      rw [hinf] at h
      split_ifs at h
    · intro h
      rw [h] at hfits
      exact absurd x.isBinary64.1 hfits

/-- Rounding and comparing is comparing what is rounded to. -/
theorem ofRat_lt_fin {q : ℚ} {x : Binary64} :
    (ofRat q).lt (.fin x) = true ↔ roundToUlp q < x.val := by
  by_cases hfits : |roundToUlp q| < 2 ^ 1024
  · obtain ⟨y, hy, hval⟩ := ofRat_of_roundToUlp_lt hfits
    rw [hy, ← hval]
    simp [lt]
  · have hx := abs_lt.1 x.isBinary64.1
    have hzero : OnGrid 0 := ⟨0, 0, by norm_num, by norm_num, by norm_num⟩
    rw [ofRat_of_overflow hfits]
    rw [not_lt] at hfits
    split_ifs with hq
    · rw [abs_of_nonneg (le_roundToUlp hzero hq.le)] at hfits
      exact ⟨fun h => (by cases h), fun h => absurd (h.trans hx.2) (not_lt.2 hfits)⟩
    · rw [abs_of_nonpos (roundToUlp_le hzero (not_lt.1 hq))] at hfits
      exact ⟨fun _ => lt_of_le_of_lt (le_neg.1 hfits) hx.1, fun _ => rfl⟩

theorem ofRat_le_fin {q : ℚ} {x : Binary64} (h : roundToUlp q ≤ x.val) :
    (ofRat q).le (.fin x) = true := by
  rw [le_iff]
  rcases h.lt_or_eq with hlt | heq
  · exact .inl (ofRat_lt_fin.2 hlt)
  · right
    have hfits : |roundToUlp q| < 2 ^ 1024 := heq ▸ x.isBinary64.1
    obtain ⟨y, hy, hval⟩ := ofRat_of_roundToUlp_lt hfits
    rw [hy, Binary64.ext_val (hval.trans heq)]
    exact ⟨fun hnan => (by cases hnan), rfl⟩

/-- Rounding a large integer does not take it below a safe one. -/
theorem ofInt_lt_ofInt_of_le {m n : ℤ} (hn : |n| ≤ 2 ^ 53) (h : n ≤ m) :
    (ofInt m).lt (ofInt n) = false := by
  have hle : (n : ℚ) ≤ roundToUlp m := le_roundToUlp (onGrid_intCast hn) (by exact_mod_cast h)
  rw [ofInt_eq_fin hn, Bool.eq_false_iff]
  intro hlt
  exact absurd (ofRat_lt_fin.1 hlt) (not_lt.2 hle)

/-! ## Differences -/

theorem neg_fin (x : Binary64) : (fin x).neg = fin x.neg := ofRat_val x.neg

theorem sub_fin (x y : Binary64) : (fin x).sub (fin y) = ofRat (x.val - y.val) := by
  rw [sub, neg_fin, add, sub_eq_add_neg]
  rfl

theorem ofInt_zero : ofInt 0 = fin ⟨0, isBinary64_zero⟩ := by
  rw [ofInt_eq_fin (n := 0) (by norm_num)]
  simp

theorem onGrid_zero : OnGrid 0 := onGrid_intCast (n := 0) (by norm_num)

theorem lt_zero_fin {x : Binary64} : (fin x).lt (ofInt 0) = true ↔ x.val < 0 := by
  rw [ofInt_eq_fin (n := 0) (by norm_num)]
  simp [lt]

theorem ofRat_lt_zero {q : ℚ} : (ofRat q).lt (ofInt 0) = true ↔ roundToUlp q < 0 := by
  rw [ofInt_eq_fin (n := 0) (by norm_num), ofRat_lt_fin]
  simp

/-- The smallest positive Number. -/
def leastPositive : ℚ := pow2 (-1074)

theorem onGrid_neg_leastPositive : OnGrid (-leastPositive) :=
  ⟨-1, -1074, by norm_num, le_rfl, by
    rw [leastPositive, pow2_eq_zpow, Int.cast_neg, Int.cast_one, neg_one_mul]⟩

theorem exists_eq_mul_leastPositive {q : ℚ} (hq : OnGrid q) : ∃ n : ℤ, q = n * leastPositive := by
  obtain ⟨m, e, -, he, rfl⟩ := hq
  obtain ⟨d, rfl⟩ := Int.le.dest he
  refine ⟨m * 2 ^ d, ?_⟩
  rw [leastPositive, pow2_eq_zpow, zpow_add₀ (by norm_num), zpow_natCast, Int.cast_mul,
    Int.cast_pow, Int.cast_ofNat, mul_comm ((2 : ℚ) ^ (-1074 : ℤ)), mul_assoc]

/-- Two Numbers are at least the smallest positive one apart. -/
theorem sub_le_of_lt {x y : ℚ} (hx : OnGrid x) (hy : OnGrid y) (hlt : x < y) :
    x - y ≤ -leastPositive := by
  have hpos : 0 < leastPositive := pow2_pos _
  obtain ⟨m, rfl⟩ := exists_eq_mul_leastPositive hx
  obtain ⟨n, rfl⟩ := exists_eq_mul_leastPositive hy
  have hmn : (m : ℚ) + 1 ≤ n := by exact_mod_cast lt_of_mul_lt_mul_right hlt hpos.le
  calc (m : ℚ) * leastPositive - n * leastPositive = (m - n) * leastPositive := by ring
    _ ≤ -1 * leastPositive := mul_le_mul_of_nonneg_right (by linarith) hpos.le
    _ = -leastPositive := by ring

/-- A difference is negative exactly where the first is the smaller. -/
theorem sub_lt_zero (a b : JsNumber) : (a.sub b).lt (ofInt 0) = a.lt b := by
  rw [ofInt_zero]
  cases a with
  | nan => rfl
  | posInf =>
      cases b with
      | nan => rfl
      | posInf => rfl
      | negInf => rfl
      | fin y => rw [sub, neg_fin]; rfl
  | negInf =>
      cases b with
      | nan => rfl
      | posInf => rfl
      | negInf => rfl
      | fin y => rw [sub, neg_fin]; rfl
  | fin x =>
      cases b with
      | nan => rfl
      | posInf => rfl
      | negInf => rfl
      | fin y =>
          rw [← ofInt_zero, sub_fin, Bool.eq_iff_iff, ofRat_lt_zero]
          simp only [lt, decide_eq_true_eq]
          constructor
          · intro hneg
            by_contra hle
            have := le_roundToUlp onGrid_zero (sub_nonneg.2 (not_lt.1 hle))
            linarith
          · intro hlt
            have hround := roundToUlp_le onGrid_neg_leastPositive
              (sub_le_of_lt x.onGrid y.onGrid hlt)
            have hpos : 0 < leastPositive := pow2_pos _
            linarith

/-- A sum of two Numbers that are not negative is not. -/
theorem add_lt_zero {a b : JsNumber} (ha : a.lt (ofInt 0) = false) (hb : b.lt (ofInt 0) = false) :
    (a.add b).lt (ofInt 0) = false := by
  cases a with
  | nan => cases b <;> rfl
  | negInf => rw [ofInt_zero] at ha; cases ha
  | posInf =>
      rw [ofInt_zero] at hb ⊢
      cases b with
      | negInf => cases hb
      | nan => rfl
      | posInf => rfl
      | fin y => rfl
  | fin x =>
      cases b with
      | nan => rfl
      | posInf => rw [ofInt_zero]; rfl
      | negInf => rw [ofInt_zero] at hb; cases hb
      | fin y =>
          rw [Bool.eq_false_iff, ne_eq, lt_zero_fin, not_lt] at ha hb
          rw [add, Bool.eq_false_iff, ne_eq, ofRat_lt_zero, not_lt]
          exact le_roundToUlp onGrid_zero (add_nonneg ha hb)

theorem ofInt_lt_zero {n : ℤ} (h : 0 ≤ n) : (ofInt n).lt (ofInt 0) = false := by
  rw [Bool.eq_false_iff, ne_eq, ofInt, ofRat_lt_zero, not_lt]
  exact le_roundToUlp onGrid_zero (by exact_mod_cast h)

theorem mul_ofInt_lt_zero {a : JsNumber} {k : ℤ} (hk : 0 < k) (hk' : |k| ≤ 2 ^ 53)
    (h : a.lt (ofInt 0) = false) : (a.mul (ofInt k)).lt (ofInt 0) = false := by
  have hkq : (0 : ℚ) < k := by exact_mod_cast hk
  rw [ofInt_eq_fin hk']
  cases a with
  | nan => rfl
  | negInf => rw [ofInt_zero] at h; cases h
  | posInf =>
      rw [mul, scaleInf, if_pos hkq, ofInt_zero]
      rfl
  | fin x =>
      rw [Bool.eq_false_iff, ne_eq, lt_zero_fin, not_lt] at h
      rw [mul, Bool.eq_false_iff, ne_eq, ofRat_lt_zero, not_lt]
      exact le_roundToUlp onGrid_zero (mul_nonneg h hkq.le)

theorem nan_add (a : JsNumber) : nan.add a = nan := by
  cases a <;> rfl

theorem ofRat_ne_nan (q : ℚ) : ofRat q ≠ nan := by
  unfold ofRat
  dsimp only
  split_ifs <;> exact JsNumber.noConfusion

theorem add_one_ne_nan {a : JsNumber} (h : a ≠ nan) : a.add (ofInt 1) ≠ nan := by
  rw [ofInt_eq_fin (n := 1) (by norm_num)]
  cases a with
  | nan => exact absurd rfl h
  | posInf => exact JsNumber.noConfusion
  | negInf => exact JsNumber.noConfusion
  | fin x => exact ofRat_ne_nan _

theorem le_of_not_lt {a b : JsNumber} (ha : a ≠ nan) (hb : b ≠ nan) (h : ¬b.lt a = true) :
    a.le b = true := by
  rw [le_iff]
  cases a with
  | nan => exact absurd rfl ha
  | posInf => cases b <;> simp_all [lt]
  | negInf => cases b <;> simp_all [lt]
  | fin x =>
      cases b with
      | fin y =>
          simp only [lt, decide_eq_true_eq, not_lt] at h ⊢
          rcases h.lt_or_eq with hlt | heq
          · exact .inl hlt
          · exact .inr ⟨ha, congrArg fin (Binary64.ext_val heq)⟩
      | nan => exact absurd rfl hb
      | posInf => exact .inl rfl
      | negInf => exact absurd rfl h

theorem le_nan (a : JsNumber) : a.le nan = false := by
  cases a <;> rfl

theorem not_le_of_lt {a b : JsNumber} (h : b.lt a = true) : ¬a.le b = true := by
  rw [le_iff]
  intro hle
  rcases hle with hlt | ⟨-, rfl⟩
  · have hself := lt_trans h hlt
    rw [lt_irrefl] at hself
    cases hself
  · rw [lt_irrefl] at h
    cases h

theorem one_le_val {x : Binary64} (h : (ofInt 1).le (fin x) = true) : 1 ≤ x.val := by
  rw [ofInt_eq_fin (n := 1) (by norm_num), le_iff] at h
  rcases h with h | ⟨-, h⟩
  · simp only [lt, decide_eq_true_eq, Int.cast_one] at h
    exact h.le
  · rw [← fin.inj h]
    simp

/-! ## Half of a Number added back -/

theorem isBinary64_half {d : Binary64} (h : 1 ≤ d.val) : IsBinary64 (d.val / 2) := by
  obtain ⟨m, e, hm, he, hd⟩ := d.onGrid
  have habs := abs_lt.1 d.isBinary64.1
  refine ⟨?_, m, e - 1, hm, ?_, ?_⟩
  · rw [abs_of_pos (by linarith)]
    exact (half_le_self (by linarith)).trans_lt habs.2
  · by_contra hsmall
    -- with the least exponent a Number stays below one
    have hmq : (m : ℚ) ≤ 2 ^ 53 := by exact_mod_cast (abs_le.1 hm).2
    have hpow : (0 : ℚ) ≤ 2 ^ e := by positivity
    have hone : d.val ≤ 1 / 2 := by
      calc d.val = m * (2 : ℚ) ^ e := hd
        _ ≤ 2 ^ 53 * (2 : ℚ) ^ e := mul_le_mul_of_nonneg_right hmq hpow
        _ = (2 : ℚ) ^ (e + 53) := by rw [zpow_add₀ (by norm_num), mul_comm]; norm_num
        _ ≤ (2 : ℚ) ^ (-1 : ℤ) := zpow_le_zpow_right₀ (by norm_num) (by omega)
        _ = 1 / 2 := by norm_num
    linarith
  · rw [hd, zpow_sub_one₀ (by norm_num)]
    ring

/-- `Math.floor(d / 2)` is at most half of `d`. -/
theorem floor_half {d : Binary64} (h : 1 ≤ d.val) :
    ∃ x : Binary64, ((fin d).div (ofInt 2)).floor = fin x ∧ x.val ≤ d.val / 2 := by
  have hdiv : (fin d).div (ofInt 2) = fin ⟨d.val / 2, isBinary64_half h⟩ := by
    rw [ofInt_eq_fin (n := 2) (by norm_num), div]
    simp only [Int.cast_ofNat, OfNat.ofNat_ne_zero, if_false]
    exact ofRat_val ⟨d.val / 2, isBinary64_half h⟩
  have hfloor := Int.floor_le (d.val / 2)
  have hnonneg : (0 : ℚ) ≤ ⌊d.val / 2⌋ := by exact_mod_cast Int.floor_nonneg.2 (by linarith)
  have hle : roundToUlp ⌊d.val / 2⌋ ≤ d.val / 2 := roundToUlp_le (isBinary64_half h).2 hfloor
  have hge : 0 ≤ roundToUlp ⌊d.val / 2⌋ := le_roundToUlp onGrid_zero hnonneg
  obtain ⟨x, hx, hval⟩ := ofRat_of_roundToUlp_lt (q := ⌊d.val / 2⌋) (by
    rw [abs_of_nonneg hge]
    exact hle.trans_lt (abs_lt.1 (isBinary64_half h).1).2)
  refine ⟨x, ?_, by rwa [hval]⟩
  rw [hdiv]
  exact hx

/-- Of a finite Number a difference with a positive one is finite too, or negatively infinite. -/
theorem sub_fin_cases (n d : Binary64) (hd : 0 ≤ d.val) :
    (∃ x : Binary64, (fin n).sub (fin d) = fin x ∧ x.val = roundToUlp (n.val - d.val)) ∨
      (fin n).sub (fin d) = negInf := by
  rw [sub_fin]
  by_cases hfits : |roundToUlp (n.val - d.val)| < 2 ^ 1024
  · exact .inl (ofRat_of_roundToUlp_lt hfits)
  · right
    rw [ofRat_of_overflow hfits, if_neg]
    intro hpos
    have hle : roundToUlp (n.val - d.val) ≤ n.val := roundToUlp_le n.onGrid (by linarith)
    rw [abs_of_nonneg (le_roundToUlp onGrid_zero hpos.le)] at hfits
    exact hfits (hle.trans_lt (abs_lt.1 n.isBinary64.1).2)

/-- Subtracting a Number from 1 on and adding at most half of it back never ends above the
start. -/
theorem sub_add_floor_half {n d : Binary64} (hd : 1 ≤ d.val) :
    (((fin n).sub (fin d)).add ((fin d).div (ofInt 2)).floor).lt (ofInt 0) = true ∨
      (((fin n).sub (fin d)).add ((fin d).div (ofInt 2)).floor).le (fin n) = true := by
  obtain ⟨h, hfloor, hhalf⟩ := floor_half hd
  rw [hfloor]
  rcases sub_fin_cases n d (by linarith) with ⟨x, hx, hval⟩ | hinf
  · rw [hx, add, hval]
    exact (roundToUlp_sub_add_le n.onGrid d.onGrid (isBinary64_half hd).2 (by linarith)
      hhalf).imp ofRat_lt_zero.2 ofRat_le_fin
  · rw [hinf, ofInt_zero]
    exact .inl rfl

end JsNumber

end UniverEscrow.Js
