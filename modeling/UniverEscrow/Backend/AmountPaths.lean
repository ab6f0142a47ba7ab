import UniverEscrow.Backend.AmountConversion
import UniverEscrow.Js.Rounding

/-!
# The two amounts of one Number

The payment service rounds the Number itself, the controller cuts off the text that is printed
for it.
-/

namespace UniverEscrow.Backend

open UniverEscrow.Js

theorem numberChar_toText {x : Binary64} {c : Char}
    (h : c ∈ (JsNumber.fin x).toText.toList) : NumberChar c :=
  (mem_toText_fin h).imp_left isDigitOf_ten_iff

theorem trimChars_toText (x : Binary64) :
    trimChars (JsNumber.fin x).toText.toList = (JsNumber.fin x).toText.toList :=
  trimChars_of_forall fun _ hc => (numberChar_toText hc).not_space

theorem normalizedText_toText (x : Binary64) :
    normalizedText (JsNumber.fin x).toText = (JsNumber.fin x).toText.toList := by
  rw [normalizedText, trimChars_toText, List.filter_eq_self]
  intro c hc
  rw [decide_eq_true_eq]
  rintro rfl
  exact absurd (numberChar_toText hc) (by unfold NumberChar; decide)

/-- A Number and its text are read alike. -/
theorem convertAmount_num (x : Binary64) :
    convertAmountToSmallestUnitCents (.num (.fin x)) =
      convertAmountToSmallestUnitCents (.str (JsNumber.fin x).toText) := by
  have htrim : jsTrim (JsNumber.fin x).toText = (JsNumber.fin x).toText := by
    rw [jsTrim, trimChars_toText, String.ofList_toList]
  unfold convertAmountToSmallestUnitCents
  simp only [htrim]
  rfl

theorem ReadsAs.value {cs ip fp : List Char} {d : ℚ} (h : ReadsAs cs ip fp)
    (hpos : 0 < ⌊decimalOfParts ip fp * 100⌋) (hd : DecimalText cs d) :
    decimalOfParts ip fp = d :=
  (h.cases hpos).elim (fun hparts => decimalText_unique hparts hd)
    fun hignored => absurd hd (hignored.not_decimalText d)

theorem ReadsAs.head_digit {c : Char} {cs ip fp : List Char} (h : ReadsAs (c :: cs) ip fp) :
    isDigitOf 10 c = true := by
  obtain ⟨hip, hne, -, htext⟩ := h
  cases ip with
  | nil => exact absurd rfl hne
  | cons c' ip =>
      have hhead : c = c' := by
        rcases htext with ⟨heq, -⟩ | ⟨tail, heq, -⟩
        · exact (List.cons.inj heq).1
        · exact (List.cons.inj heq).1
      rw [hhead]
      exact hip c' List.mem_cons_self

/-- The text of an accepted Number is the decimal text of a number that reads as it. -/
theorem convertAmount_toText {x : Binary64} {cents : ℤ}
    (h : convertAmountToSmallestUnitCents (.str (JsNumber.fin x).toText) = .ok cents) :
    0 < x.val ∧ DecimalText (JsNumber.fin x).toText.toList (printedDecimal x) ∧
      cents = ⌊printedDecimal x * 100⌋ := by
  obtain ⟨ip, fp, hreads, hpos, rfl⟩ := convertAmount_eq_ok.1 h
  rw [normalizedText_toText] at hreads
  rcases toText_fin_cases x with ⟨-, htext⟩ | ⟨hx, htext⟩ | ⟨-, htext⟩
  · rw [htext] at hreads
    have hzero : DecimalText ['0'] (digitsValue 10 ['0']) :=
      .whole (List.all_eq_true.1 rfl) (by decide)
    rw [hreads.value hpos hzero] at hpos
    exact absurd hpos (by decide +kernel)
  · rw [htext, String.toList_ofList] at hreads ⊢
    have hdecimal := decimalText_finiteChars fun he => (hreads.not_mark _ he).1 rfl
    exact ⟨hx, hdecimal, by rw [hreads.value hpos hdecimal]⟩
  · rw [htext, String.toList_ofList] at hreads
    exact absurd hreads.head_digit (by decide)

/-! ## The distance of the printed number -/

/-- Below `2 ^ 46` a number that reads as `x` is within `2⁻⁸` of it. -/
theorem abs_sub_le_of_ofRat {d : ℚ} {x : Binary64} (hx : 0 < x.val) (hbound : x.val < 2 ^ 46)
    (h : JsNumber.ofRat d = .fin x) : |x.val - d| ≤ 1 / 256 := by
  have hround := JsNumber.ofRat_eq_fin.1 h
  have hgrid : OnGrid (2 ^ 46) := by
    have := onGrid_intCast (n := 2 ^ 46) (by norm_num)
    exact_mod_cast this
  have hlt : d < 2 ^ 46 := by
    by_contra hge
    have := le_roundToUlp hgrid (not_lt.1 hge)
    linarith
  have hpos : 0 < d := by
    by_contra hnonpos
    have := roundToUlp_le JsNumber.onGrid_zero (not_lt.1 hnonpos)
    linarith
  have hlog : ilog2 d < 46 := by
    apply ilog2_lt_of_abs_lt hpos.ne'
    rw [abs_of_pos hpos]
    exact_mod_cast hlt
  have hulp : pow2 (ulpExponent d) ≤ 1 / 128 := by
    have hexp : ulpExponent d ≤ -7 := by
      unfold ulpExponent
      omega
    have hle : (2 : ℚ) ^ ulpExponent d ≤ 2 ^ (-7 : ℤ) := zpow_le_zpow_right₀ (by norm_num) hexp
    rw [pow2_eq_zpow]
    norm_num at hle ⊢
    exact hle
  have hnear := abs_roundToUlp_sub_le d
  rw [hround] at hnear
  linarith

/-! ## The two paths -/

theorem isBinary64_1006 : IsBinary64 (4530621225134719 / 4503599627370496) := by
  have htwo : (2 : ℚ) ≤ 2 ^ 1024 := le_self_pow₀ (by norm_num) (by norm_num)
  have habs : |(4530621225134719 / 4503599627370496 : ℚ)| < 2 := by norm_num [abs_lt]
  exact ⟨habs.trans_le htwo, 4530621225134719, -52, by norm_num, by norm_num, by norm_num⟩

/-- The Number `1.006`. -/
def amount1006 : Binary64 := ⟨4530621225134719 / 4503599627370496, isBinary64_1006⟩

end UniverEscrow.Backend
