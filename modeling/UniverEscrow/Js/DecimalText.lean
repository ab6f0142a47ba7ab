import UniverEscrow.Js.FixedPoint
import UniverEscrow.Js.NumberRoundTrip
import UniverEscrow.Lib.Delimited
import Mathlib.Data.Bool.AllAny
import Mathlib.Data.List.TakeWhile

/-!
# Decimal texts

A decimal text is digits, or digits, a point and digits.  The text of a Number is one unless it
has an exponent, and so is the absolute value in `x.toFixed(2)`.
-/

namespace UniverEscrow.Js

/-- The text denotes the number. -/
inductive DecimalText : List Char → ℚ → Prop
  | whole {ip : List Char} (hip : ∀ c ∈ ip, isDigitOf 10 c = true) (hne : ip ≠ []) :
      DecimalText ip (digitsValue 10 ip)
  | pointed {ip fp : List Char} (hip : ∀ c ∈ ip, isDigitOf 10 c = true) (hne : ip ≠ [])
      (hfp : ∀ c ∈ fp, isDigitOf 10 c = true) (hfne : fp ≠ []) :
      DecimalText (ip ++ '.' :: fp) (digitsValue 10 ip + digitsValue 10 fp / 10 ^ fp.length)

/-! ## Digits -/

theorem not_digit_point : isDigitOf 10 '.' = false := by decide

theorem ne_of_isDigitOf {c d : Char} (hc : isDigitOf 10 c = true) (hd : isDigitOf 10 d = false) :
    c ≠ d := by
  rintro rfl
  rw [hc] at hd
  cases hd

theorem notMem_of_digits {cs : List Char} {c : Char} (hcs : ∀ c ∈ cs, isDigitOf 10 c = true)
    (hc : isDigitOf 10 c = false) : c ∉ cs :=
  fun hmem => ne_of_isDigitOf (hcs c hmem) hc rfl

theorem not_space_of_digit {c : Char} (h : isDigitOf 10 c = true) : isJsSpace c = false := by
  by_contra hspace
  rw [Bool.not_eq_false] at hspace
  have hlt : digitValue c < 10 := of_decide_eq_true h
  unfold isJsSpace at hspace
  simp only [List.mem_cons, List.not_mem_nil, or_false, Bool.or_eq_true, decide_eq_true_eq,
    Bool.and_eq_true] at hspace
  unfold digitValue at hlt
  split_ifs at hlt with h0 ha hA
  · have hlow : '0'.toNat ≤ c.toNat := h0.1
    have hhigh : c.toNat ≤ '9'.toNat := h0.2
    have h48 : '0'.toNat = 48 := rfl
    have h57 : '9'.toNat = 57 := rfl
    omega
  · omega
  · omega
  · omega

theorem readDigits_of_digits {cs : List Char} (hcs : ∀ c ∈ cs, isDigitOf 10 c = true)
    (hne : cs ≠ []) : readDigits 10 cs = some (digitsValue 10 cs) :=
  if_pos ⟨hne, List.all_eq_true.2 hcs⟩

theorem readDigits_of_mem {cs : List Char} {c : Char} {base : ℕ} (hmem : c ∈ cs)
    (hc : isDigitOf base c = false) : readDigits base cs = none := by
  apply if_neg
  rintro ⟨-, hall⟩
  rw [List.all_eq_true.1 hall c hmem] at hc
  cases hc

theorem digitsValue_lt {cs : List Char} (hcs : ∀ c ∈ cs, isDigitOf 10 c = true) :
    digitsValue 10 cs < 10 ^ cs.length := by
  induction cs using List.reverseRecOn with
  | nil => decide
  | append_singleton cs c ih =>
      have hinit := ih fun d hd => hcs d (List.mem_append_left _ hd)
      have hlast : digitValue c < 10 :=
        of_decide_eq_true (hcs c (List.mem_append_right _ List.mem_cons_self))
      have hone : digitsValue 10 [c] = digitValue c := by simp [digitsValue]
      rw [digitsValue_append, List.length_append, List.length_singleton, pow_one, pow_succ, hone]
      omega

/-! ## One text, one number -/

theorem decimalText_unique {cs : List Char} {d d' : ℚ} (h : DecimalText cs d)
    (h' : DecimalText cs d') : d = d' := by
  cases h with
  | whole hip hne =>
      cases h' with
      | whole _ _ => rfl
      | pointed _ _ _ _ =>
          exact absurd (List.mem_append_right _ List.mem_cons_self)
            (notMem_of_digits hip not_digit_point)
  | @pointed ip fp hip hne hfp hfne =>
      generalize htext : ip ++ '.' :: fp = text at h'
      cases h' with
      | whole hip' hne' =>
          rw [← htext] at hip'
          exact absurd (List.mem_append_right _ List.mem_cons_self)
            (notMem_of_digits hip' not_digit_point)
      | @pointed ip' fp' hip' _ hfp' _ =>
          obtain ⟨rfl, rfl⟩ := Lib.eq_of_append_cons (notMem_of_digits hip not_digit_point)
            (notMem_of_digits hip' not_digit_point) htext
          rfl

/-! ## The text of a Number -/

theorem isDigitOf_shortestDecimal (x : Binary64) : ∀ c ∈ (shortestDecimal x).1,
    isDigitOf 10 c = true :=
  fun _ hc => isDigitOf_ten_iff (isDigit_of_mem_shortestDecimal hc)

theorem isDigitOf_replicate_zero (k : ℕ) : ∀ c ∈ List.replicate k '0', isDigitOf 10 c = true :=
  fun c hc => isDigitOf_ten_iff (isDigit_replicate_zero k c hc)

section Layout

variable {digits : List Char} {n : ℤ}

theorem decimalText_zeros (hdigits : ∀ c ∈ digits, isDigitOf 10 c = true) (hne : digits ≠ [])
    (hn : (digits.length : ℤ) ≤ n) :
    DecimalText (digits ++ List.replicate (n - digits.length).toNat '0')
      (digitsValue 10 digits * pow10 (n - digits.length)) := by
  have hall : ∀ c ∈ digits ++ List.replicate (n - digits.length).toNat '0',
      isDigitOf 10 c = true := by
    intro c hc
    exact (List.mem_append.1 hc).elim (hdigits c) (isDigitOf_replicate_zero _ c)
  have htext := DecimalText.whole hall (by simp [hne])
  have hexp : ((n - digits.length).toNat : ℤ) = n - digits.length := by omega
  rw [digitsValue_append, digitsValue_replicate_zero, List.length_replicate, add_zero,
    Nat.cast_mul, ← pow10_natCast, hexp] at htext
  exact htext

theorem decimalText_pointed (hdigits : ∀ c ∈ digits, isDigitOf 10 c = true) (hpos : 0 < n)
    (hn : n < digits.length) :
    DecimalText (digits.take n.toNat ++ '.' :: digits.drop n.toNat)
      (digitsValue 10 digits * pow10 (n - digits.length)) := by
  have hlength : (digits.drop n.toNat).length = digits.length - n.toNat := List.length_drop
  have hexp : n - digits.length = -((digits.drop n.toNat).length : ℤ) := by omega
  have hinit : digits.take n.toNat ≠ [] := by
    rw [← List.length_pos_iff, List.length_take]
    omega
  have hrest : digits.drop n.toNat ≠ [] := by
    rw [← List.length_pos_iff]
    omega
  have htext := DecimalText.pointed (fun c hc => hdigits c (List.mem_of_mem_take hc)) hinit
    (fun c hc => hdigits c (List.mem_of_mem_drop hc)) hrest
  have hvalue : (digitsValue 10 digits : ℚ) = digitsValue 10 (digits.take n.toNat) *
      10 ^ (digits.drop n.toNat).length + digitsValue 10 (digits.drop n.toNat) := by
    rw [← List.take_append_drop n.toNat digits, digitsValue_append, List.take_append_drop]
    push_cast
    rfl
  rw [hvalue, hexp, pow10_eq_zpow, zpow_neg, zpow_natCast]
  convert htext using 1
  field_simp

theorem decimalText_small (hdigits : ∀ c ∈ digits, isDigitOf 10 c = true) (hne : digits ≠ [])
    (hn : n ≤ 0) :
    DecimalText ('0' :: '.' :: (List.replicate (-n).toNat '0' ++ digits))
      (digitsValue 10 digits * pow10 (n - digits.length)) := by
  have hall : ∀ c ∈ List.replicate (-n).toNat '0' ++ digits, isDigitOf 10 c = true := by
    intro c hc
    exact (List.mem_append.1 hc).elim (isDigitOf_replicate_zero _ c) (hdigits c)
  have hlead : ∀ c ∈ ['0'], isDigitOf 10 c = true := List.all_eq_true.1 rfl
  have htext := DecimalText.pointed hlead (by decide) hall (by simp [hne])
  have hzero : digitsValue 10 ['0'] = 0 := rfl
  have hexp : n - digits.length = -(((-n).toNat + digits.length : ℕ) : ℤ) := by omega
  rw [digitsValue_append, digitsValue_replicate_zero, hzero, zero_mul, zero_add, Nat.cast_zero,
    zero_add, List.length_append, List.length_replicate] at htext
  rw [hexp, pow10_eq_zpow, zpow_neg, zpow_natCast, ← div_eq_mul_inv]
  exact htext

/-- The layouts again, with where the point stands; the last one has an exponent. -/
theorem layoutDecimal_forms (hne : digits ≠ []) (n : ℤ) :
    ((digits.length : ℤ) ≤ n ∧ layoutDecimal digits n =
        digits ++ List.replicate (n - digits.length).toNat '0') ∨
      (0 < n ∧ n < digits.length ∧
        layoutDecimal digits n = digits.take n.toNat ++ '.' :: digits.drop n.toNat) ∨
      (n ≤ 0 ∧
        layoutDecimal digits n = '0' :: '.' :: (List.replicate (-n).toNat '0' ++ digits)) ∨
      ((n ≤ -6 ∨ 21 < n) ∧ 'e' ∈ layoutDecimal digits n) := by
  by_cases hzeros : (digits.length : ℤ) ≤ n ∧ n ≤ 21
  · exact .inl ⟨hzeros.1, if_pos hzeros⟩
  by_cases hpointed : 0 < n ∧ n ≤ 21
  · exact .inr (.inl ⟨hpointed.1, by omega, (if_neg hzeros).trans (if_pos hpointed)⟩)
  by_cases hsmall : -6 < n ∧ n ≤ 0
  · exact .inr (.inr (.inl ⟨hsmall.2,
      (if_neg hzeros).trans ((if_neg hpointed).trans (if_pos hsmall))⟩))
  · refine .inr (.inr (.inr ⟨by omega, ?_⟩))
    unfold layoutDecimal
    simp only [hzeros, hpointed, hsmall, if_false]
    cases digits with
    | nil => exact absurd rfl hne
    | cons d ds => cases ds <;> simp

/-- A text without an exponent is a decimal text of the digits and their point. -/
theorem decimalText_layoutDecimal (hdigits : ∀ c ∈ digits, isDigitOf 10 c = true)
    (hne : digits ≠ []) (hplain : 'e' ∉ layoutDecimal digits n) :
    DecimalText (layoutDecimal digits n) (digitsValue 10 digits * pow10 (n - digits.length)) := by
  rcases layoutDecimal_forms hne n with ⟨hn, htext⟩ | ⟨hpos, hn, htext⟩ | ⟨hn, htext⟩ | ⟨-, hmem⟩
  · rw [htext]
    exact decimalText_zeros hdigits hne hn
  · rw [htext]
    exact decimalText_pointed hdigits hpos hn
  · rw [htext]
    exact decimalText_small hdigits hne hn
  · exact absurd hmem hplain

end Layout

/-- The number that `String(x)` prints for `x > 0`. -/
def printedDecimal (x : Binary64) : ℚ :=
  digitsValue 10 (shortestDecimal x).1 *
    pow10 ((shortestDecimal x).2 - (shortestDecimal x).1.length)

theorem ofRat_printedDecimal {x : Binary64} (hx : 0 < x.val) :
    JsNumber.ofRat (printedDecimal x) = .fin x :=
  ofRat_shortestDecimal hx

theorem decimalText_finiteChars {x : Binary64} (h : 'e' ∉ finiteChars x) :
    DecimalText (finiteChars x) (printedDecimal x) :=
  decimalText_layoutDecimal (isDigitOf_shortestDecimal x) (shortestDecimal_ne_nil x) h

/-! ## Parts of a text, and big integers -/

theorem splitPoint_plain {cs : List Char} (h : '.' ∉ cs) :
    splitPoint (String.ofList cs) = (String.ofList cs, none) := by
  have hall : ∀ c ∈ cs, decide (c ≠ '.') = true := by
    intro c hc
    rw [decide_eq_true_eq]
    rintro rfl
    exact h hc
  unfold splitPoint
  rw [String.toList_ofList, List.dropWhile_eq_nil_iff.2 hall]

theorem splitPoint_pointed {ip rest : List Char} (h : '.' ∉ ip) :
    splitPoint (String.ofList (ip ++ '.' :: rest)) =
      (String.ofList ip, some (String.ofList (rest.takeWhile (· ≠ '.')))) := by
  have hall : ∀ c ∈ ip, decide (c ≠ '.') = true := by
    intro c hc
    rw [decide_eq_true_eq]
    rintro rfl
    exact h hc
  unfold splitPoint
  rw [String.toList_ofList, List.dropWhile_append_of_pos hall, List.takeWhile_append_of_pos hall]
  simp

theorem takeWhile_of_notMem {cs : List Char} (h : '.' ∉ cs) : cs.takeWhile (· ≠ '.') = cs := by
  rw [List.takeWhile_eq_self_iff]
  intro c hc
  rw [decide_eq_true_eq]
  rintro rfl
  exact h hc

theorem trimChars_of_forall {cs : List Char} (h : ∀ c ∈ cs, isJsSpace c = false) :
    trimChars cs = cs := by
  have hstart {ds : List Char} (hds : ∀ c ∈ ds, isJsSpace c = false) :
      ds.dropWhile isJsSpace = ds := by
    rw [List.dropWhile_eq_self_iff]
    intro hlength
    rw [hds _ (List.getElem_mem hlength)]
    exact Bool.false_ne_true
  rw [trimChars, hstart h, hstart fun c hc => h c (List.mem_reverse.1 hc), List.reverse_reverse]

/-- The characters of the text of a finite Number. -/
def NumberChar (c : Char) : Prop := isDigitOf 10 c = true ∨ c ∈ ['.', 'e', '+', '-']

theorem NumberChar.not_space {c : Char} (h : NumberChar c) : isJsSpace c = false := by
  rcases h with h | h
  · exact not_space_of_digit h
  · have hall : ∀ c ∈ ['.', 'e', '+', '-'], isJsSpace c = false := List.all_iff_forall_prop.1 rfl
    exact hall c h

theorem NumberChar.not_radix {c : Char} (h : NumberChar c) :
    (if c = 'x' ∨ c = 'X' then 16 else if c = 'o' ∨ c = 'O' then 8
      else if c = 'b' ∨ c = 'B' then 2 else 0) = 0 := by
  have hne : ∀ d ∈ ['x', 'X', 'o', 'O', 'b', 'B'], c ≠ d := by
    rintro d hd rfl
    have hall : ∀ d ∈ ['x', 'X', 'o', 'O', 'b', 'B'],
        isDigitOf 10 d = false ∧ d ∉ ['.', 'e', '+', '-'] := List.all_iff_forall_prop.1 rfl
    rcases h with h | h
    · rw [(hall c hd).1] at h
      cases h
    · exact (hall c hd).2 h
  simp only [List.mem_cons, List.not_mem_nil, or_false, forall_eq_or_imp, forall_eq] at hne
  simp [hne]

/-- `BigInt` of such a text reads a sign and digits. -/
theorem bigIntOfText?_eq {cs : List Char} (hne : cs ≠ []) (h : ∀ c ∈ cs, NumberChar c) :
    bigIntOfText? (String.ofList cs) =
      (readDigits 10 (readSign cs).2).map fun n : ℕ => (readSign cs).1 * (n : ℤ) := by
  unfold bigIntOfText?
  rw [String.toList_ofList, trimChars_of_forall fun c hc => (h c hc).not_space]
  cases cs with
  | nil => exact absurd rfl hne
  | cons c ds =>
      by_cases hzero : c = '0'
      · subst hzero
        cases ds with
        | nil => rfl
        | cons c ds =>
            have hradix := (h c (List.mem_cons_of_mem _ List.mem_cons_self)).not_radix
            have hsign : readSign ('0' :: c :: ds) = (1, '0' :: c :: ds) := rfl
            simp only [hradix, ne_eq, not_true_eq_false, if_false, hsign, one_mul]
      · split
        · cases ‹c :: ds = []›
        · rename_i heq
          cases heq
          exact absurd rfl hzero
        · generalize readSign (c :: ds) = p
          obtain ⟨sign, rest⟩ := p
          dsimp only
          cases readDigits 10 rest <;> rfl

theorem numberChar_of_digits {cs : List Char} (h : ∀ c ∈ cs, isDigitOf 10 c = true) :
    ∀ c ∈ cs, NumberChar c :=
  fun c hc => .inl (h c hc)

theorem readSign_of_digits {cs : List Char} (h : ∀ c ∈ cs, isDigitOf 10 c = true) :
    readSign cs = (1, cs) := by
  unfold readSign
  split
  · exact absurd rfl (ne_of_isDigitOf (h '-' List.mem_cons_self) (by decide))
  · exact absurd rfl (ne_of_isDigitOf (h '+' List.mem_cons_self) (by decide))
  · rfl

theorem bigIntOfText?_digits {cs : List Char} (h : ∀ c ∈ cs, isDigitOf 10 c = true)
    (hne : cs ≠ []) : bigIntOfText? (String.ofList cs) = some (digitsValue 10 cs : ℤ) := by
  rw [bigIntOfText?_eq hne (numberChar_of_digits h), readSign_of_digits h,
    readDigits_of_digits h hne, Option.map_some, one_mul]

theorem bigIntOfText?_minus {cs : List Char} (h : ∀ c ∈ cs, isDigitOf 10 c = true)
    (hne : cs ≠ []) :
    bigIntOfText? (String.ofList ('-' :: cs)) = some (-(digitsValue 10 cs : ℤ)) := by
  have hchars : ∀ c ∈ '-' :: cs, NumberChar c := by
    intro c hc
    rcases List.mem_cons.1 hc with rfl | hc
    · exact .inr (by decide)
    · exact .inl (h c hc)
  have hsign : readSign ('-' :: cs) = (-1, cs) := rfl
  rw [bigIntOfText?_eq (List.cons_ne_nil _ _) hchars, hsign, readDigits_of_digits h hne,
    Option.map_some, neg_one_mul]

theorem bigIntOfText?_exponent {cs : List Char} (h : ∀ c ∈ cs, NumberChar c) (he : 'e' ∈ cs) :
    bigIntOfText? (String.ofList cs) = none := by
  have hrest : 'e' ∈ (readSign cs).2 := by
    unfold readSign
    split
    · exact (List.mem_cons.1 he).resolve_left (by decide)
    · exact (List.mem_cons.1 he).resolve_left (by decide)
    · exact he
  rw [bigIntOfText?_eq (List.ne_nil_of_mem he) h, readDigits_of_mem hrest (by decide),
    Option.map_none]

/-! ## `toFixed(2)` -/

theorem twoDigits_spec : ∀ m < 100, digitsValue 10 (twoDigits m) = m ∧
    ∀ c ∈ twoDigits m, isDigitOf 10 c = true := by
  have hall : ∀ m < 100, digitsValue 10 (twoDigits m) = m ∧
      ((twoDigits m).all fun c => isDigitOf 10 c) = true := by decide
  intro m hm
  exact ⟨(hall m hm).1, List.all_eq_true.1 (hall m hm).2⟩

theorem isDigitOf_toDigits (n : ℕ) : ∀ c ∈ Nat.toDigits 10 n, isDigitOf 10 c = true :=
  fun _ hc => isDigitOf_ten_iff (Nat.isDigit_of_mem_toDigits (by decide) (by decide) hc)

/-- Numbers from `10 ^ 21` on are printed with an exponent. -/
theorem lt_shortestDecimal {x : Binary64} (hx : 10 ^ 21 ≤ x.val) : 21 < (shortestDecimal x).2 := by
  have hpos : 0 < x.val := lt_of_lt_of_le (by norm_num) hx
  have hpoint : 21 < decimalPoint x.val := by
    have hlt := hx.trans_lt (decimalPoint_bounds hpos).2
    rw [pow10_eq_zpow] at hlt
    exact (zpow_lt_zpow_iff_right₀ (by norm_num : (1 : ℚ) < 10)).1 (by exact_mod_cast hlt)
  dsimp only [shortestDecimal]
  split_ifs
  · exact hpoint
  · dsimp only
    omega

theorem numberChar_exponentText (e : ℤ) : ∀ c ∈ exponentText e, NumberChar c :=
  fun _ hc => (mem_exponentText hc).imp_left isDigitOf_ten_iff

theorem point_notMem_exponentText (e : ℤ) : '.' ∉ exponentText e := by
  have hdigits : '.' ∉ Nat.toDigits 10 e.natAbs :=
    notMem_of_digits (isDigitOf_toDigits _) not_digit_point
  unfold exponentText
  split_ifs <;> simpa using hdigits

theorem layoutDecimal_exponent {digits : List Char} {n : ℤ} (hne : digits ≠ [])
    (hn : n ≤ -6 ∨ 21 < n) :
    (∃ d, digits = [d] ∧ layoutDecimal digits n = d :: exponentText (n - 1)) ∨
      ∃ d ds, digits = d :: ds ∧ ds ≠ [] ∧
        layoutDecimal digits n = d :: '.' :: (ds ++ exponentText (n - 1)) := by
  have hzeros : ¬((digits.length : ℤ) ≤ n ∧ n ≤ 21) := by omega
  have hpointed : ¬(0 < n ∧ n ≤ 21) := by omega
  have hsmall : ¬(-6 < n ∧ n ≤ 0) := by omega
  cases digits with
  | nil => exact absurd rfl hne
  | cons d ds =>
      cases ds with
      | nil => exact .inl ⟨d, rfl, (if_neg hzeros).trans ((if_neg hpointed).trans (if_neg hsmall))⟩
      | cons d' ds =>
          exact .inr ⟨d, d' :: ds, rfl, List.cons_ne_nil _ _,
            (if_neg hzeros).trans ((if_neg hpointed).trans (if_neg hsmall))⟩

end UniverEscrow.Js
