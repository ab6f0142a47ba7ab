import Mathlib.Data.Rat.Floor
import Mathlib.Algebra.Order.Field.Power
import Mathlib.Tactic.Ring
import Mathlib.Tactic.Linarith
import Mathlib.Tactic.Positivity
import Mathlib.Tactic.FieldSimp
import Mathlib.Tactic.NormNum

/-!
# JavaScript numbers

A Number is a binary64 datum.  Finite data are kept as the rational they denote,
together with the proof that binary64 represents it, so arithmetic is exact
rational arithmetic followed by one rounding to nearest, ties to even.  The two
zeros are one value here: the code under study divides by no zero but an empty count,
which is the positive one, and prints both as `0`.
-/

namespace UniverEscrow.Js

/-- The rationals binary64 represents. -/
def IsBinary64 (q : ℚ) : Prop :=
  |q| < 2 ^ 1024 ∧ ∃ m e : ℤ, |m| ≤ 2 ^ 53 ∧ -1074 ≤ e ∧ q = m * (2 : ℚ) ^ e

structure Binary64 where
  val : ℚ
  isBinary64 : IsBinary64 val

theorem Binary64.ext_val {x y : Binary64} (h : x.val = y.val) : x = y := by
  cases x
  cases y
  simpa using h

instance : DecidableEq Binary64 := fun x y =>
  decidable_of_iff (x.val = y.val) ⟨Binary64.ext_val, fun h => h ▸ rfl⟩

inductive JsNumber where
  | nan
  | posInf
  | negInf
  | fin (x : Binary64)
deriving DecidableEq

/-! ## Rounding -/

/-- `2 ^ e` as a quotient of naturals, which the kernel evaluates. -/
def pow2 : ℤ → ℚ
  | .ofNat n => ((2 ^ n : ℕ) : ℚ)
  | .negSucc n => mkRat 1 (2 ^ (n + 1))

theorem pow2_eq_zpow (e : ℤ) : pow2 e = (2 : ℚ) ^ e := by
  cases e with
  | ofNat n => simp [pow2]
  | negSucc n => simp [pow2, zpow_negSucc, Rat.mkRat_eq_div]

/-- `⌊log₂ |q|⌋` for `q ≠ 0`. -/
def ilog2 (q : ℚ) : ℤ :=
  let k : ℤ := (q.num.natAbs.log2 : ℤ) - (q.den.log2 : ℤ)
  if pow2 k ≤ |q| then k else k - 1

/-- Exponent of the unit in the last place at the magnitude of `q`. -/
def ulpExponent (q : ℚ) : ℤ := max (ilog2 q - 52) (-1074)

def roundHalfEven (q : ℚ) : ℤ :=
  let f := ⌊q⌋
  if q - f < 1 / 2 then f
  else if 1 / 2 < q - f then f + 1
  else if f % 2 = 0 then f else f + 1

theorem abs_roundHalfEven_sub_le (q : ℚ) : |(roundHalfEven q : ℚ) - q| ≤ 1 / 2 := by
  have hlo := Int.floor_le q
  have hhi := Int.lt_floor_add_one q
  unfold roundHalfEven
  dsimp only
  rw [abs_le]
  split_ifs <;> push_cast <;> constructor <;> linarith

theorem roundHalfEven_intCast (n : ℤ) : roundHalfEven n = n := by
  simp [roundHalfEven]

theorem abs_roundHalfEven_le {q : ℚ} {n : ℕ} (h : |q| ≤ n) : |roundHalfEven q| ≤ n := by
  have herr := abs_le.1 (abs_roundHalfEven_sub_le q)
  have hq := abs_le.1 h
  have hlo : ((-(n : ℤ) - 1 : ℤ) : ℚ) < roundHalfEven q := by
    push_cast
    linarith [herr.1, hq.1]
  have hhi : ((roundHalfEven q : ℤ) : ℚ) < ((n : ℤ) + 1 : ℤ) := by
    push_cast
    linarith [herr.2, hq.2]
  rw [abs_le]
  have hlo' := Int.cast_lt.1 hlo
  have hhi' := Int.cast_lt.1 hhi
  constructor <;> omega

theorem abs_lt_pow2_ilog2_succ (q : ℚ) : |q| < pow2 (ilog2 q + 1) := by
  have hden : (0 : ℚ) < q.den := by exact_mod_cast q.den_pos
  have habs : |q| = (q.num.natAbs : ℚ) / q.den := by
    rw [Rat.abs_def, Rat.divInt_eq_div]
    simp
  have hnum : (q.num.natAbs : ℚ) < (2 : ℚ) ^ ((q.num.natAbs.log2 : ℤ) + 1) := by
    have h : q.num.natAbs < 2 ^ (q.num.natAbs.log2 + 1) := Nat.lt_log2_self
    have h' : (q.num.natAbs : ℚ) < ((2 ^ (q.num.natAbs.log2 + 1) : ℕ) : ℚ) := by exact_mod_cast h
    rw [show ((q.num.natAbs.log2 : ℤ) + 1) = ((q.num.natAbs.log2 + 1 : ℕ) : ℤ) by push_cast; rfl,
      zpow_natCast]
    simpa using h'
  have hdlog : (2 : ℚ) ^ (q.den.log2 : ℤ) ≤ q.den := by
    rw [zpow_natCast]
    exact_mod_cast Nat.log2_self_le q.den_ne_zero
  have hlt : |q| < (2 : ℚ) ^ (((q.num.natAbs.log2 : ℤ) - q.den.log2) + 1) := by
    rw [habs, div_lt_iff₀ hden]
    calc (q.num.natAbs : ℚ) < (2 : ℚ) ^ ((q.num.natAbs.log2 : ℤ) + 1) := hnum
      _ = (2 : ℚ) ^ (((q.num.natAbs.log2 : ℤ) - q.den.log2) + 1) * (2 : ℚ) ^ (q.den.log2 : ℤ) := by
          rw [← zpow_add₀ (by norm_num)]
          congr 1
          ring
      _ ≤ _ := by gcongr
  unfold ilog2
  simp only []
  split_ifs with h
  · rw [pow2_eq_zpow]
    exact hlt
  · rw [sub_add_cancel]
    exact not_le.1 h

theorem pow2_pos (e : ℤ) : 0 < pow2 e := by
  rw [pow2_eq_zpow]
  positivity

/-- At its own ulp a rational has a significand of at most 53 bits. -/
theorem abs_div_pow2_ulpExponent_le (q : ℚ) : |q / pow2 (ulpExponent q)| ≤ (2 ^ 53 : ℕ) := by
  rw [abs_div, abs_of_pos (pow2_pos _), div_le_iff₀ (pow2_pos _)]
  refine (abs_lt_pow2_ilog2_succ q).le.trans ?_
  have hulp : ilog2 q + 1 ≤ 53 + ulpExponent q := by
    have := le_max_left (ilog2 q - 52) (-1074)
    unfold ulpExponent
    omega
  calc pow2 (ilog2 q + 1) = (2 : ℚ) ^ (ilog2 q + 1) := pow2_eq_zpow _
    _ ≤ (2 : ℚ) ^ (53 + ulpExponent q) := zpow_le_zpow_right₀ (by norm_num) hulp
    _ = ((2 ^ 53 : ℕ) : ℚ) * pow2 (ulpExponent q) := by
        rw [zpow_add₀ (by norm_num), pow2_eq_zpow]
        norm_num

/-- Round a rational to the nearest binary64, ties to even, with overflow to infinity. -/
def JsNumber.ofRat (q : ℚ) : JsNumber :=
  let e := ulpExponent q
  let m := roundHalfEven (q / pow2 e)
  if h : |(m : ℚ) * pow2 e| < 2 ^ 1024 then
    .fin ⟨m * pow2 e, h, m, e, abs_roundHalfEven_le (abs_div_pow2_ulpExponent_le q),
      le_max_right _ _, by rw [pow2_eq_zpow]⟩
  else if 0 < q then .posInf
  else .negInf

/-- The value a Number literal or an array length denotes. -/
def JsNumber.ofInt (n : ℤ) : JsNumber := .ofRat n

theorem pow2_ilog2_le {q : ℚ} (hq : q ≠ 0) : pow2 (ilog2 q) ≤ |q| := by
  have hden : (0 : ℚ) < q.den := by exact_mod_cast q.den_pos
  have hnum0 : q.num.natAbs ≠ 0 := by simpa using hq
  have habs : |q| = (q.num.natAbs : ℚ) / q.den := by
    rw [Rat.abs_def, Rat.divInt_eq_div]
    simp
  have hnum : (2 : ℚ) ^ (q.num.natAbs.log2 : ℤ) ≤ q.num.natAbs := by
    rw [zpow_natCast]
    exact_mod_cast Nat.log2_self_le hnum0
  have hdlog : (q.den : ℚ) ≤ (2 : ℚ) ^ ((q.den.log2 : ℤ) + 1) := by
    have h : q.den < 2 ^ (q.den.log2 + 1) := Nat.lt_log2_self
    have h' : (q.den : ℚ) ≤ ((2 ^ (q.den.log2 + 1) : ℕ) : ℚ) := by exact_mod_cast h.le
    rw [show ((q.den.log2 : ℤ) + 1) = ((q.den.log2 + 1 : ℕ) : ℤ) by push_cast; rfl,
      zpow_natCast]
    simpa using h'
  unfold ilog2
  simp only []
  split_ifs with h
  · exact h
  · rw [pow2_eq_zpow, habs, le_div_iff₀ hden]
    calc (2 : ℚ) ^ (((q.num.natAbs.log2 : ℤ) - q.den.log2) - 1) * q.den
        ≤ (2 : ℚ) ^ (((q.num.natAbs.log2 : ℤ) - q.den.log2) - 1) *
            (2 : ℚ) ^ ((q.den.log2 : ℤ) + 1) := by gcongr
      _ = (2 : ℚ) ^ (q.num.natAbs.log2 : ℤ) := by
          rw [← zpow_add₀ (by norm_num)]
          congr 1
          ring
      _ ≤ _ := hnum

theorem ilog2_lt_of_abs_lt {q : ℚ} (hq : q ≠ 0) {k : ℤ} (h : |q| < (2 : ℚ) ^ k) : ilog2 q < k := by
  have hle := (pow2_ilog2_le hq).trans_lt h
  rw [pow2_eq_zpow] at hle
  exact (zpow_lt_zpow_iff_right₀ (by norm_num)).1 hle

/-- A 53-bit significand scaled by an admissible exponent is a whole number of ulps. -/
theorem div_pow2_ulpExponent_of_lt {q : ℚ} {m e : ℤ} (hq : q ≠ 0) (hm : |m| < 2 ^ 53)
    (he : -1074 ≤ e) (hqe : q = m * (2 : ℚ) ^ e) :
    ∃ n : ℤ, q / pow2 (ulpExponent q) = n := by
  have habs : |q| < (2 : ℚ) ^ (53 + e) := by
    rw [hqe, abs_mul, abs_of_pos (by positivity : (0 : ℚ) < 2 ^ e), zpow_add₀ (by norm_num)]
    have hm' : |(m : ℚ)| < 2 ^ (53 : ℤ) := by
      rw [← Int.cast_abs]
      norm_num
      exact_mod_cast hm
    gcongr
  have hulp : ulpExponent q ≤ e := by
    have := ilog2_lt_of_abs_lt hq habs
    unfold ulpExponent
    omega
  obtain ⟨d, hd⟩ := Int.le.dest hulp
  refine ⟨m * 2 ^ d, ?_⟩
  rw [pow2_eq_zpow, div_eq_iff (by positivity)]
  conv_lhs => rw [hqe, ← hd, zpow_add₀ (by norm_num), zpow_natCast]
  push_cast
  ring

theorem JsNumber.ofRat_val (x : Binary64) : JsNumber.ofRat x.val = .fin x := by
  obtain ⟨q, hlt, m, e, hm, he, hqe⟩ := x
  have hint : ∃ n : ℤ, q / pow2 (ulpExponent q) = n := by
    by_cases hq : q = 0
    · exact ⟨0, by simp [hq]⟩
    · rcases hm.lt_or_eq with hlt53 | heq53
      · exact div_pow2_ulpExponent_of_lt hq hlt53 he hqe
      · -- the significand 2^53 is 2^52 one binade up
        obtain ⟨m', hm'⟩ : ∃ m' : ℤ, m = m' * 2 := by
          rcases abs_eq (by norm_num : (0 : ℤ) ≤ 2 ^ 53) |>.1 heq53 with h | h
          · exact ⟨2 ^ 52, by rw [h]; norm_num⟩
          · exact ⟨-2 ^ 52, by rw [h]; norm_num⟩
        refine div_pow2_ulpExponent_of_lt hq (m := m') (e := e + 1) ?_ (by omega) ?_
        · rw [hm', abs_mul] at heq53
          norm_num at heq53 ⊢
          omega
        · rw [hqe, hm', zpow_add_one₀ (by norm_num)]
          push_cast
          ring
  obtain ⟨n, hn⟩ := hint
  have hback : (roundHalfEven (q / pow2 (ulpExponent q)) : ℚ) * pow2 (ulpExponent q) = q := by
    rw [hn, roundHalfEven_intCast, ← hn, div_mul_cancel₀ _ (pow2_pos _).ne']
  unfold JsNumber.ofRat
  simp only [hback]
  rw [dif_pos hlt]

theorem isBinary64_intCast {n : ℤ} (h : |n| ≤ 2 ^ 53) : IsBinary64 n := by
  refine ⟨?_, n, 0, h, by norm_num, by simp⟩
  have h' : |(n : ℚ)| ≤ 2 ^ 53 := by
    rw [← Int.cast_abs]
    exact_mod_cast h
  exact h'.trans_lt (pow_lt_pow_right₀ (by norm_num) (by norm_num))

theorem isBinary64_zero : IsBinary64 0 := by
  simpa using isBinary64_intCast (n := 0) (by norm_num)

theorem isBinary64_one : IsBinary64 1 := by
  simpa using isBinary64_intCast (n := 1) (by norm_num)

def Binary64.ofInt (n : ℤ) (h : |n| ≤ 2 ^ 53 := by norm_num) : Binary64 :=
  ⟨n, isBinary64_intCast h⟩

theorem JsNumber.ofInt_eq_fin {n : ℤ} (h : |n| ≤ 2 ^ 53) :
    JsNumber.ofInt n = .fin ⟨n, isBinary64_intCast h⟩ :=
  JsNumber.ofRat_val ⟨n, isBinary64_intCast h⟩

/-! ## Operators -/

namespace JsNumber

/-- `a === b`. -/
def strictEq (a b : JsNumber) : Bool := a ≠ .nan && a = b

/-- `a < b`. -/
def lt : JsNumber → JsNumber → Bool
  | .nan, _ => false
  | _, .nan => false
  | .negInf, b => b ≠ .negInf
  | _, .negInf => false
  | .posInf, _ => false
  | .fin _, .posInf => true
  | .fin x, .fin y => x.val < y.val

/-- `a <= b`. -/
def le (a b : JsNumber) : Bool := lt a b || strictEq a b

def isFinite : JsNumber → Bool
  | .fin _ => true
  | _ => false

def isInteger : JsNumber → Bool
  | .fin x => x.val.den = 1
  | _ => false

/-- Boolean coercion: zero and NaN are falsy. -/
def truthy : JsNumber → Bool
  | .nan => false
  | .fin x => x.val ≠ 0
  | _ => true

def floor : JsNumber → JsNumber
  | .fin x => ofInt ⌊x.val⌋
  | n => n

def neg : JsNumber → JsNumber
  | .fin x => ofRat (-x.val)
  | .posInf => .negInf
  | .negInf => .posInf
  | .nan => .nan

def add : JsNumber → JsNumber → JsNumber
  | .fin x, .fin y => ofRat (x.val + y.val)
  | .nan, _ => .nan
  | _, .nan => .nan
  | .posInf, .negInf => .nan
  | .negInf, .posInf => .nan
  | .posInf, _ => .posInf
  | _, .posInf => .posInf
  | .negInf, _ => .negInf
  | _, .negInf => .negInf

def sub (a b : JsNumber) : JsNumber := add a (neg b)

/-- Infinity with the sign of `q`, NaN at zero: the product of `q` and `+∞`. -/
def scaleInf (q : ℚ) : JsNumber :=
  if 0 < q then .posInf else if q < 0 then .negInf else .nan

def mul : JsNumber → JsNumber → JsNumber
  | .fin x, .fin y => ofRat (x.val * y.val)
  | .nan, _ => .nan
  | _, .nan => .nan
  | .posInf, .fin y => scaleInf y.val
  | .fin x, .posInf => scaleInf x.val
  | .negInf, .fin y => scaleInf (-y.val)
  | .fin x, .negInf => scaleInf (-x.val)
  | .posInf, .posInf => .posInf
  | .negInf, .negInf => .posInf
  | _, _ => .negInf

def div : JsNumber → JsNumber → JsNumber
  | .fin x, .fin y => if y.val = 0 then scaleInf x.val else ofRat (x.val / y.val)
  | .nan, _ => .nan
  | _, .nan => .nan
  | .fin _, _ => ofRat 0
  | .posInf, .fin y => if y.val < 0 then .negInf else .posInf
  | .negInf, .fin y => if y.val < 0 then .posInf else .negInf
  | _, _ => .nan

end JsNumber

/-! ## Exact integer arithmetic -/

/-- `q` rounded to a whole number of ulps. -/
def roundToUlp (q : ℚ) : ℚ := roundHalfEven (q / pow2 (ulpExponent q)) * pow2 (ulpExponent q)

theorem abs_roundToUlp_sub_le (q : ℚ) : |roundToUlp q - q| ≤ pow2 (ulpExponent q) / 2 := by
  have hpos := pow2_pos (ulpExponent q)
  have hsplit : roundToUlp q - q =
      ((roundHalfEven (q / pow2 (ulpExponent q)) : ℚ) - q / pow2 (ulpExponent q)) *
        pow2 (ulpExponent q) := by
    rw [roundToUlp, sub_mul, div_mul_cancel₀ _ hpos.ne']
  rw [hsplit, abs_mul, abs_of_pos hpos]
  calc _ ≤ 1 / 2 * pow2 (ulpExponent q) :=
        mul_le_mul_of_nonneg_right (abs_roundHalfEven_sub_le _) hpos.le
    _ = _ := by ring

theorem JsNumber.ofRat_of_roundToUlp_lt {q : ℚ} (h : |roundToUlp q| < 2 ^ 1024) :
    ∃ x : Binary64, JsNumber.ofRat q = .fin x ∧ x.val = roundToUlp q := by
  unfold JsNumber.ofRat
  exact ⟨_, dif_pos h, rfl⟩

theorem pow2_ulpExponent_le {q : ℚ} (h : |q| < 2 ^ 52) : pow2 (ulpExponent q) ≤ 1 / 2 := by
  have hexp : ulpExponent q ≤ -1 := by
    by_cases hq : q = 0
    · subst hq
      decide
    · have := ilog2_lt_of_abs_lt hq (k := 52) (by exact_mod_cast h)
      unfold ulpExponent
      omega
  rw [pow2_eq_zpow]
  calc (2 : ℚ) ^ ulpExponent q ≤ 2 ^ (-1 : ℤ) := zpow_le_zpow_right₀ (by norm_num) hexp
    _ = 1 / 2 := by norm_num

theorem abs_roundToUlp_sub_le_quarter {q : ℚ} (h : |q| < 2 ^ 52) : |roundToUlp q - q| ≤ 1 / 4 := by
  have := abs_roundToUlp_sub_le q
  have := pow2_ulpExponent_le h
  linarith

/-- Below `2 ^ 52` nothing overflows. -/
theorem JsNumber.ofRat_eq_roundToUlp {q : ℚ} (h : |q| < 2 ^ 52) :
    ∃ x : Binary64, JsNumber.ofRat q = .fin x ∧ x.val = roundToUlp q := by
  apply JsNumber.ofRat_of_roundToUlp_lt
  have herr := abs_roundToUlp_sub_le_quarter h
  have htri := abs_sub_abs_le_abs_sub (roundToUlp q) q
  have hsmall : |roundToUlp q| < 2 ^ 53 := by linarith
  exact hsmall.trans (pow_lt_pow_right₀ (by norm_num) (by norm_num))

/-- Below `2 ^ 52` the rounding error is at most a quarter, and nothing overflows. -/
theorem JsNumber.ofRat_of_abs_lt {q : ℚ} (h : |q| < 2 ^ 52) :
    ∃ x : Binary64, JsNumber.ofRat q = .fin x ∧ |x.val - q| ≤ 1 / 4 := by
  obtain ⟨x, hx, hval⟩ := JsNumber.ofRat_eq_roundToUlp h
  exact ⟨x, hx, hval ▸ abs_roundToUlp_sub_le_quarter h⟩

/-- The rationals binary64 would represent if there were no largest exponent. -/
def OnGrid (q : ℚ) : Prop := ∃ m e : ℤ, |m| ≤ 2 ^ 53 ∧ -1074 ≤ e ∧ q = m * (2 : ℚ) ^ e

theorem Binary64.onGrid (x : Binary64) : OnGrid x.val := x.isBinary64.2

/-- A grid point above a positive rational is a whole number of that rational's ulps. -/
theorem exists_eq_mul_ulp_of_lt {q x : ℚ} (hq : 0 < q) (hgrid : OnGrid x) (hx : q < x) :
    ∃ m : ℤ, x = m * pow2 (ulpExponent q) := by
  obtain ⟨m, e, hm, he, hval⟩ := hgrid
  have hmag : pow2 (ilog2 q) ≤ q := by
    have := pow2_ilog2_le hq.ne'
    rwa [abs_of_pos hq] at this
  have hexp : ulpExponent q ≤ e := by
    by_contra hlt
    -- a smaller exponent leaves 53 bits no room to exceed `q`
    have hulp : e + 53 ≤ ilog2 q := by
      unfold ulpExponent at hlt
      omega
    have hmq : (m : ℚ) ≤ 2 ^ 53 := by exact_mod_cast (abs_le.1 hm).2
    have hle : x ≤ q :=
      calc x = m * (2 : ℚ) ^ e := hval
        _ ≤ 2 ^ 53 * (2 : ℚ) ^ e := by gcongr
        _ = (2 : ℚ) ^ (e + 53) := by rw [zpow_add₀ (by norm_num), mul_comm]; norm_num
        _ ≤ (2 : ℚ) ^ ilog2 q := zpow_le_zpow_right₀ (by norm_num) hulp
        _ ≤ q := by rwa [← pow2_eq_zpow]
    linarith
  obtain ⟨d, hd⟩ := Int.le.dest hexp
  refine ⟨m * 2 ^ d, ?_⟩
  rw [hval, pow2_eq_zpow, ← hd, zpow_add₀ (by norm_num), zpow_natCast]
  push_cast
  ring

/-- No Number lies strictly between a rational and its rounding. -/
theorem val_le_of_lt_roundToUlp {q : ℚ} (hq : 0 ≤ q) {x : Binary64} (hx : x.val < roundToUlp q) :
    x.val ≤ q := by
  rcases hq.eq_or_lt with rfl | hpos
  · have hzero : roundToUlp 0 = 0 := by
      rw [roundToUlp, zero_div, ← Int.cast_zero, roundHalfEven_intCast, Int.cast_zero, zero_mul]
    rw [hzero] at hx
    exact hx.le
  · by_contra hlt
    obtain ⟨m, hm⟩ := exists_eq_mul_ulp_of_lt hpos x.onGrid (not_le.1 hlt)
    have hulp := pow2_pos (ulpExponent q)
    rw [hm, roundToUlp, mul_lt_mul_iff_left₀ hulp, Int.cast_lt] at hx
    have hsucc : (m : ℚ) + 1 ≤ roundHalfEven (q / pow2 (ulpExponent q)) := by exact_mod_cast hx
    have hround : x.val + pow2 (ulpExponent q) ≤ roundToUlp q :=
      calc x.val + pow2 (ulpExponent q) = (m + 1) * pow2 (ulpExponent q) := by rw [hm]; ring
        _ ≤ roundToUlp q := by rw [roundToUlp]; gcongr
    have herr := (abs_le.1 (abs_roundToUlp_sub_le q)).2
    linarith

theorem JsNumber.val_le_of_lt_ofRat {x : Binary64} {q : ℚ} (hq : 0 ≤ q) (hlt : q < 2 ^ 52)
    (h : (JsNumber.fin x).lt (.ofRat q) = true) : x.val ≤ q := by
  obtain ⟨y, hy, hval⟩ := JsNumber.ofRat_eq_roundToUlp (q := q) (by rwa [abs_of_nonneg hq])
  rw [hy] at h
  simp only [JsNumber.lt, decide_eq_true_eq, hval] at h
  exact val_le_of_lt_roundToUlp hq h

/-- An integer quotient has no rounding error. -/
theorem JsNumber.div_ofInt_of_dvd {a b : ℤ} (ha : |a| ≤ 2 ^ 53) (hb : 0 < b) (hb' : b < 4)
    (hdvd : b ∣ a) : (JsNumber.ofInt a).div (JsNumber.ofInt b) = JsNumber.ofInt (a / b) := by
  have hbq : (b : ℚ) ≠ 0 := by exact_mod_cast hb.ne'
  rw [JsNumber.ofInt_eq_fin ha, JsNumber.ofInt_eq_fin (n := b) (by rw [abs_of_pos hb]; omega)]
  simp only [JsNumber.div, hbq, if_false, JsNumber.ofInt]
  rw [Int.cast_div hdvd hbq]

/-- Floor division by a small divisor is exact: the rounding error stays below the distance
to the next integer. -/
theorem JsNumber.floor_div_ofInt {a b : ℤ} (ha : |a| ≤ 2 ^ 53) (hb : 0 < b) (hb' : b < 4) :
    ((JsNumber.ofInt a).div (JsNumber.ofInt b)).floor = JsNumber.ofInt (a / b) := by
  have hbq : (0 : ℚ) < b := by exact_mod_cast hb
  have hb3 : (b : ℚ) ≤ 3 := by exact_mod_cast (by omega : b ≤ 3)
  by_cases hdvd : b ∣ a
  · have hqb : |a / b| ≤ 2 ^ 53 := by
      rw [abs_le] at ha ⊢
      exact ⟨Int.le_ediv_of_mul_le hb (by nlinarith [ha.1]),
        Int.ediv_le_of_le_mul hb (by nlinarith [ha.2])⟩
    rw [JsNumber.div_ofInt_of_dvd ha hb hb' hdvd, JsNumber.ofInt_eq_fin hqb]
    simp [JsNumber.floor, JsNumber.ofInt_eq_fin hqb]
  · have hmod0 : 0 < a % b :=
      lt_of_le_of_ne (Int.emod_nonneg a hb.ne') fun h => hdvd (Int.dvd_of_emod_eq_zero h.symm)
    have hmodlt := Int.emod_lt_of_pos a hb
    have hquot : |(a : ℚ) / b| < 2 ^ 52 := by
      have haq : |(a : ℚ)| ≤ 2 ^ 53 := by
        rw [← Int.cast_abs]
        exact_mod_cast ha
      have hb2 : (2 : ℚ) ≤ b := by exact_mod_cast (by omega : 2 ≤ b)
      rw [abs_div, abs_of_pos hbq, div_lt_iff₀ hbq]
      refine lt_of_le_of_ne (by linarith) fun heq => ?_
      -- equality would make the quotient `2 ^ 52` or its negative
      have hab : |a| = 2 ^ 52 * b := by
        have : ((|a| : ℤ) : ℚ) = ((2 ^ 52 * b : ℤ) : ℚ) := by push_cast; exact heq
        exact_mod_cast this
      exact hdvd ((dvd_abs b a).1 (hab ▸ Dvd.intro_left _ rfl))
    obtain ⟨x, hx, herr⟩ := JsNumber.ofRat_of_abs_lt hquot
    rw [JsNumber.ofInt_eq_fin ha,
      JsNumber.ofInt_eq_fin (n := b) (by rw [abs_of_pos hb]; omega)]
    simp only [JsNumber.div, hbq.ne', if_false, hx, JsNumber.floor]
    congr 1
    have hdm : (b : ℚ) * (a / b : ℤ) + (a % b : ℤ) = a := by
      exact_mod_cast Int.mul_ediv_add_emod a b
    have hq : (a : ℚ) / b = (a / b : ℤ) + (a % b : ℤ) / b := by
      rw [div_eq_iff hbq.ne', add_mul, div_mul_cancel₀ _ hbq.ne']
      linarith
    have hmod1 : (1 : ℚ) ≤ (a % b : ℤ) := by exact_mod_cast (by omega : 1 ≤ a % b)
    have hmodb : ((a % b : ℤ) : ℚ) ≤ b - 1 := by exact_mod_cast (by omega : a % b ≤ b - 1)
    have hfrac : (1 : ℚ) / 3 ≤ (a % b : ℤ) / b := by
      rw [div_le_div_iff₀ (by norm_num) hbq]
      linarith
    have hfrac' : ((a % b : ℤ) : ℚ) / b ≤ 2 / 3 := by
      rw [div_le_div_iff₀ hbq (by norm_num)]
      linarith
    rw [Int.floor_eq_iff]
    have := abs_le.1 herr
    constructor <;> linarith [this.1, this.2]

end UniverEscrow.Js
