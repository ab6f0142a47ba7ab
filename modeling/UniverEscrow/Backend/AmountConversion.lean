import UniverEscrow.Backend.HandshakeController
import UniverEscrow.Js.DecimalText

/-!
# Amounts in cents

Two functions make cents of an amount.  `toCentsKESBigInt` rounds a Number through its text with
two decimals and reads sign, whole part and decimals apart; `convertAmountToSmallestUnitCents`
cuts a decimal text off after two decimals.
-/

namespace UniverEscrow.Backend

open UniverEscrow.Js UniverEscrow.Lib

/-! ## Numbers -/

/-- Cents as `toFixed(2)` rounds to them: halves away from zero. -/
def roundedCents (amountKES : ℚ) : ℤ :=
  if amountKES < 0 then -⌊-amountKES * 100 + 1 / 2⌋ else ⌊amountKES * 100 + 1 / 2⌋

theorem abs_roundedCents_sub_le (q : ℚ) : |(roundedCents q : ℚ) - q * 100| ≤ 1 / 2 := by
  have hlow := Int.floor_le (q * 100 + 1 / 2)
  have hhigh := Int.lt_floor_add_one (q * 100 + 1 / 2)
  have hlow' := Int.floor_le (-q * 100 + 1 / 2)
  have hhigh' := Int.lt_floor_add_one (-q * 100 + 1 / 2)
  unfold roundedCents
  rw [abs_le]
  split_ifs
  · push_cast
    constructor <;> linarith
  · constructor <;> linarith

theorem natCast_hundredths {q : ℚ} (hq : 0 ≤ q) : (hundredths q : ℤ) = ⌊q * 100 + 1 / 2⌋ :=
  Int.toNat_of_nonneg (Int.floor_nonneg.2 (by linarith))

theorem roundedCents_of_nonneg {q : ℚ} (hq : 0 ≤ q) : roundedCents q = hundredths |q| := by
  rw [abs_of_nonneg hq, natCast_hundredths hq]
  exact if_neg (not_lt.2 hq)

theorem roundedCents_of_neg {q : ℚ} (hq : q < 0) : roundedCents q = -(hundredths |q| : ℤ) := by
  rw [abs_of_neg hq, natCast_hundredths (by linarith)]
  exact if_pos hq

/-- What the two parts of the text add up to: the sign goes with the whole part alone. -/
def centsOfParts (x : Binary64) : ℤ :=
  let n := hundredths |x.val|
  if x.val < 0 then -(n / 100 : ℕ) * 100 + (n % 100 : ℕ) else n

theorem bigIntOrThrow_some {s : String} {n : ℤ} (h : bigIntOfText? s = some n) :
    bigIntOrThrow (some s) = .ok n := by
  simp [bigIntOrThrow, bind_eq_ok, h]

theorem bigIntOrThrow_none {s : String} (h : bigIntOfText? s = none) :
    ∃ message, bigIntOrThrow (some s) = .error message :=
  ⟨"Cannot convert " ++ s ++ " to a BigInt", by simp [bigIntOrThrow, orThrow, h, bind, Except.bind]⟩

theorem toCents_small {x : Binary64} (hx : |x.val| < 10 ^ 21) :
    toCentsKESBigInt (.fin x) =
      throwUnless (0 < centsOfParts x) "amountKES_MUST_BE_POSITIVE" >>= fun _ =>
        pure (centsOfParts x) := by
  have hdigits := isDigitOf_toDigits (hundredths |x.val| / 100)
  obtain ⟨hvalue, hfrac⟩ := twoDigits_spec (hundredths |x.val| % 100) (Nat.mod_lt _ (by norm_num))
  have hpoint : '.' ∉ Nat.toDigits 10 (hundredths |x.val| / 100) :=
    notMem_of_digits hdigits not_digit_point
  have htake := takeWhile_of_notMem (notMem_of_digits hfrac not_digit_point)
  have hread : bigIntOrThrow (some (String.ofList (twoDigits (hundredths |x.val| % 100)))) =
      .ok ((hundredths |x.val| % 100 : ℕ) : ℤ) := by
    apply bigIntOrThrow_some
    rw [bigIntOfText?_digits hfrac (by simp [twoDigits]), hvalue]
  unfold toCentsKESBigInt toFixed2 centsOfParts
  simp only [if_neg (not_le.2 hx)]
  by_cases hneg : x.val < 0
  · have hminus : '.' ∉ '-' :: Nat.toDigits 10 (hundredths |x.val| / 100) := by
      simpa using hpoint
    have hwhole := bigIntOrThrow_some (bigIntOfText?_minus hdigits Nat.toDigits_ne_nil)
    rw [digitsValue_toDigits] at hwhole
    simp only [if_pos hneg, ← List.cons_append, splitPoint_pointed hminus, htake, hwhole, hread]
    rfl
  · have hsum : ((hundredths |x.val| / 100 : ℕ) : ℤ) * 100 + (hundredths |x.val| % 100 : ℕ) =
        hundredths |x.val| := by
      exact_mod_cast Nat.div_add_mod' (hundredths |x.val|) 100
    have hwhole := bigIntOrThrow_some (bigIntOfText?_digits hdigits Nat.toDigits_ne_nil)
    rw [digitsValue_toDigits] at hwhole
    simp only [if_neg hneg, splitPoint_pointed hpoint, htake, hwhole, hread]
    rw [← hsum]
    rfl

/-- The form of the text from `10 ^ 21` on, behind its sign. -/
theorem finiteChars_large {x : Binary64} (hx : 10 ^ 21 ≤ x.val) :
    '.' ∉ finiteChars x ∨ ∃ ip rest, finiteChars x = ip ++ '.' :: rest ∧
      (∀ c ∈ ip, isDigitOf 10 c = true) ∧ '.' ∉ rest ∧ 'e' ∈ rest ∧ ∀ c ∈ rest, NumberChar c := by
  have hdigits := isDigitOf_shortestDecimal x
  have hexponent := numberChar_exponentText ((shortestDecimal x).2 - 1)
  have hpoint : '.' ∉ exponentText ((shortestDecimal x).2 - 1) := point_notMem_exponentText _
  rcases layoutDecimal_exponent (shortestDecimal_ne_nil x) (.inr (lt_shortestDecimal hx)) with
    ⟨d, hd, htext⟩ | ⟨d, ds, hd, -, htext⟩
  · rw [hd] at hdigits
    refine .inl ?_
    rw [finiteChars, htext, List.mem_cons, not_or]
    exact ⟨fun h => notMem_of_digits hdigits not_digit_point (List.mem_singleton.2 h), hpoint⟩
  · rw [hd] at hdigits
    refine .inr ⟨[d], ds ++ exponentText ((shortestDecimal x).2 - 1), htext, ?_, ?_, ?_, ?_⟩
    · intro c hc
      rw [List.mem_singleton.1 hc]
      exact hdigits d List.mem_cons_self
    · rw [List.mem_append, not_or]
      exact ⟨notMem_of_digits (fun c hc => hdigits c (List.mem_cons_of_mem _ hc)) not_digit_point,
        hpoint⟩
    · exact List.mem_append_right _ List.mem_cons_self
    · intro c hc
      rcases List.mem_append.1 hc with hc | hc
      · exact .inl (hdigits c (List.mem_cons_of_mem _ hc))
      · exact hexponent c hc

theorem toCents_error {x : Binary64} {whole : String} {frac : Option String}
    (hsplit : splitPoint (toFixed2 x) = (whole, frac))
    (hfrac : ∃ message, bigIntOrThrow frac = .error message) :
    ∃ message, toCentsKESBigInt (.fin x) = .error message := by
  obtain ⟨message, hfrac⟩ := hfrac
  simp only [toCentsKESBigInt, hsplit]
  cases bigIntOrThrow (some whole) with
  | error message' => exact ⟨message', rfl⟩
  | ok n => exact ⟨message, by rw [hfrac]; rfl⟩

/-- A text with an exponent has no part that is an integer behind a point. -/
theorem toCents_exponent {x y : Binary64} {sign : List Char} (hsign : '.' ∉ sign)
    (hy : 10 ^ 21 ≤ y.val) (htext : toFixed2 x = String.ofList (sign ++ finiteChars y)) :
    ∃ message, toCentsKESBigInt (.fin x) = .error message := by
  rcases finiteChars_large hy with hplain | ⟨ip, rest, hchars, hip, hpoint, he, hrest⟩
  · have hall : '.' ∉ sign ++ finiteChars y := by
      rw [List.mem_append, not_or]
      exact ⟨hsign, hplain⟩
    have hsplit : splitPoint (toFixed2 x) = (toFixed2 x, none) := by
      rw [htext]
      exact splitPoint_plain hall
    exact toCents_error hsplit ⟨"Cannot convert undefined to a BigInt", rfl⟩
  · have hlead : '.' ∉ sign ++ ip := by
      rw [List.mem_append, not_or]
      exact ⟨hsign, notMem_of_digits hip not_digit_point⟩
    have hsplit : splitPoint (toFixed2 x) =
        (String.ofList (sign ++ ip), some (String.ofList rest)) := by
      rw [htext, hchars, ← List.append_assoc, splitPoint_pointed hlead,
        takeWhile_of_notMem hpoint]
    exact toCents_error hsplit (bigIntOrThrow_none (bigIntOfText?_exponent hrest he))

theorem toCents_large {x : Binary64} (hx : 10 ^ 21 ≤ |x.val|) :
    ∃ message, toCentsKESBigInt (.fin x) = .error message := by
  have htext : toFixed2 x = (JsNumber.fin x).toText := if_pos hx
  rcases toText_fin_cases x with ⟨hzero, -⟩ | ⟨hpos, h⟩ | ⟨hneg, h⟩
  · rw [hzero, abs_zero] at hx
    norm_num at hx
  · rw [abs_of_pos hpos] at hx
    exact toCents_exponent List.not_mem_nil hx (htext.trans h)
  · have hval : x.neg.val = -x.val := rfl
    rw [abs_of_neg (by linarith), ← hval] at hx
    have hsign : '.' ∉ ['-'] := by decide
    exact toCents_exponent hsign hx (htext.trans h)

theorem toCentsKESBigInt_eq_ok {x : Binary64} {cents : ℤ} :
    toCentsKESBigInt (.fin x) = .ok cents ↔
      |x.val| < 10 ^ 21 ∧ 0 < cents ∧ cents = centsOfParts x := by
  by_cases hx : |x.val| < 10 ^ 21
  · rw [toCents_small hx]
    simp only [bind_eq_ok, throwUnless_eq_ok, decide_eq_true_eq, hx, true_and]
    constructor
    · rintro ⟨-, hpos, heq⟩
      cases heq
      exact ⟨hpos, rfl⟩
    · rintro ⟨hpos, rfl⟩
      exact ⟨(), hpos, rfl⟩
  · obtain ⟨message, herror⟩ := toCents_large (not_lt.1 hx)
    constructor
    · intro h
      rw [herror] at h
      cases h
    · intro h
      exact absurd h.1 hx

theorem centsOfParts_of_nonneg {x : Binary64} (hx : 0 ≤ x.val) :
    centsOfParts x = roundedCents x.val := by
  rw [roundedCents_of_nonneg hx]
  exact if_neg (not_lt.2 hx)

/-- A negative amount is booked when its whole part is the `-0` of the text. -/
theorem centsOfParts_pos_iff {x : Binary64} (hx : x.val < 0) :
    0 < centsOfParts x ↔ -199 / 200 < x.val ∧ x.val ≤ -1 / 200 := by
  have hparts : 0 < centsOfParts x ↔ 0 < hundredths |x.val| ∧ hundredths |x.val| < 100 := by
    simp only [centsOfParts, if_pos hx]
    omega
  have hfloor := natCast_hundredths (abs_nonneg x.val)
  have hlow : 0 < hundredths |x.val| ↔ x.val ≤ -1 / 200 := by
    rw [← Int.natCast_pos, hfloor, Int.floor_pos, abs_of_neg hx]
    constructor <;> intro h <;> linarith
  have hhigh : hundredths |x.val| < 100 ↔ -199 / 200 < x.val := by
    have hcast : hundredths |x.val| < 100 ↔ (hundredths |x.val| : ℤ) < (100 : ℤ) := by omega
    rw [hcast, hfloor, Int.floor_lt, abs_of_neg hx]
    constructor <;> intro h <;> push_cast at h ⊢ <;> linarith
  rw [hparts, hlow, hhigh, and_comm]

/-! ## Exactness -/

/-- A finite amount is refused or becomes its rounded cents, which are positive. -/
structure ConvertsExactly (x : Binary64) : Prop where
  rounded : ∀ cents, toCentsKESBigInt (.fin x) = .ok cents → cents = roundedCents x.val
  nearest : ∀ cents, toCentsKESBigInt (.fin x) = .ok cents →
    |(cents : ℚ) - x.val * 100| ≤ 1 / 2
  positive : ∀ cents, toCentsKESBigInt (.fin x) = .ok cents → 0 < roundedCents x.val
  throws : roundedCents x.val ≤ 0 → ∃ message, toCentsKESBigInt (.fin x) = .error message

/-- The sign of the amounts that round to less than one whole shilling below zero is lost. -/
theorem convertsExactly_iff (x : Binary64) :
    ConvertsExactly x ↔ ¬(-199 / 200 < x.val ∧ x.val ≤ -1 / 200) := by
  constructor
  · rintro hexact ⟨hlow, hhigh⟩
    have hneg : x.val < 0 := by linarith
    have hpos := (centsOfParts_pos_iff hneg).2 ⟨hlow, hhigh⟩
    have hsmall : |x.val| < 10 ^ 21 := by
      rw [abs_of_neg hneg]
      norm_num
      linarith
    have hrounded := hexact.positive _ (toCentsKESBigInt_eq_ok.2 ⟨hsmall, hpos, rfl⟩)
    rw [roundedCents_of_neg hneg] at hrounded
    omega
  · intro hgap
    have hsame : ∀ cents, toCentsKESBigInt (.fin x) = .ok cents →
        0 < cents ∧ cents = roundedCents x.val := by
      intro cents hok
      obtain ⟨-, hpos, rfl⟩ := toCentsKESBigInt_eq_ok.1 hok
      rcases le_or_gt 0 x.val with hnonneg | hneg
      · exact ⟨hpos, centsOfParts_of_nonneg hnonneg⟩
      · exact absurd ((centsOfParts_pos_iff hneg).1 hpos) hgap
    refine ⟨fun cents hok => (hsame cents hok).2, ?_, ?_, ?_⟩
    · intro cents hok
      rw [(hsame cents hok).2]
      exact abs_roundedCents_sub_le x.val
    · intro cents hok
      obtain ⟨hpos, rfl⟩ := hsame cents hok
      exact hpos
    · intro hnonpos
      cases hresult : toCentsKESBigInt (.fin x) with
      | error message => exact ⟨message, rfl⟩
      | ok cents =>
          obtain ⟨hpos, rfl⟩ := hsame cents hresult
          exact absurd hpos (not_lt.2 hnonpos)

theorem isBinary64_minus_half : IsBinary64 (-1 / 2) := by
  have hone : (1 : ℚ) ≤ 2 ^ 1024 := one_le_pow₀ (by norm_num)
  have habs : |(-1 / 2 : ℚ)| < 1 := by norm_num [abs_lt]
  exact ⟨habs.trans_le hone, -1, -1, by norm_num, by norm_num, by norm_num⟩

def minusHalf : Binary64 := ⟨-1 / 2, isBinary64_minus_half⟩

/-- `-0.5` shillings are booked as fifty cents. -/
theorem convertsExactly_minus_half :
    toCentsKESBigInt (.fin minusHalf) = .ok 50 ∧ roundedCents minusHalf.val = -50 ∧
      ¬ConvertsExactly minusHalf := by
  have hok : toCentsKESBigInt (.fin minusHalf) = .ok 50 :=
    toCentsKESBigInt_eq_ok.2 ⟨by norm_num [minusHalf, abs_lt], by decide, by decide +kernel⟩
  have hrounded : roundedCents minusHalf.val = -50 := by decide +kernel
  refine ⟨hok, hrounded, fun hexact => ?_⟩
  have heq := hexact.rounded 50 hok
  rw [hrounded] at heq
  exact absurd heq (by decide)

/-! ## Texts -/

/-- The trimmed text without its commas. -/
def normalizedText (s : String) : List Char := (trimChars s.toList).filter (· ≠ ',')

/-- The number that the two parts of a text denote. -/
def decimalOfParts (ip fp : List Char) : ℚ :=
  digitsValue 10 ip + digitsValue 10 fp / 10 ^ fp.length

/-- The parts that are read off a text: the second one ends at a second point. -/
structure ReadsAs (cs ip fp : List Char) : Prop where
  wholeDigits : ∀ c ∈ ip, isDigitOf 10 c = true
  wholeNe : ip ≠ []
  fracDigits : ∀ c ∈ fp, isDigitOf 10 c = true
  text : (cs = ip ∧ fp = []) ∨
    ∃ tail, cs = ip ++ '.' :: (fp ++ tail) ∧ (tail = [] ∨ tail.head? = some '.') ∧
      ∀ c ∈ tail, c ≠ 'e' ∧ c ≠ 'E'

theorem isDigits_ofList {cs : List Char} :
    isDigits (String.ofList cs) = true ↔ cs ≠ [] ∧ ∀ c ∈ cs, isDigitOf 10 c = true := by
  unfold isDigits readDigits
  rw [String.toList_ofList]
  split_ifs with h
  · simpa using h
  · simpa using h

theorem hasExponentMark_ofList {cs : List Char} :
    hasExponentMark (String.ofList cs) = false ↔ ∀ c ∈ cs, c ≠ 'e' ∧ c ≠ 'E' := by
  simp [hasExponentMark]

theorem not_mark_of_digits {cs : List Char} (h : ∀ c ∈ cs, isDigitOf 10 c = true) :
    ∀ c ∈ cs, c ≠ 'e' ∧ c ≠ 'E' :=
  fun c hc => ⟨ne_of_isDigitOf (h c hc) (by decide), ne_of_isDigitOf (h c hc) (by decide)⟩

theorem decimalOfParts_zeros (ip fp : List Char) (k : ℕ) :
    decimalOfParts ip (fp ++ List.replicate k '0') = decimalOfParts ip fp := by
  rw [decimalOfParts, decimalOfParts, digitsValue_append, digitsValue_replicate_zero,
    List.length_append, List.length_replicate, pow_add, add_zero, Nat.cast_mul, Nat.cast_pow,
    Nat.cast_ofNat, mul_div_mul_right _ _ (by positivity)]

theorem floor_decimalOfParts_append (ip : List Char) {two rest : List Char}
    (htwo : two.length = 2) (hrest : ∀ c ∈ rest, isDigitOf 10 c = true) :
    ⌊decimalOfParts ip (two ++ rest) * 100⌋ = digitsValue 10 ip * 100 + digitsValue 10 two := by
  have hpow : (0 : ℚ) < 10 ^ rest.length := by positivity
  have hlow : (0 : ℚ) ≤ digitsValue 10 rest / 10 ^ rest.length := by positivity
  have hhigh : (digitsValue 10 rest : ℚ) / 10 ^ rest.length < 1 := by
    rw [div_lt_one hpow]
    exact_mod_cast digitsValue_lt hrest
  have hvalue : decimalOfParts ip (two ++ rest) * 100 =
      digitsValue 10 ip * 100 + digitsValue 10 two + digitsValue 10 rest / 10 ^ rest.length := by
    rw [decimalOfParts, digitsValue_append, List.length_append, htwo, pow_add]
    push_cast
    field_simp
    ring
  rw [Int.floor_eq_iff, hvalue]
  push_cast
  constructor <;> linarith

theorem ReadsAs.not_mark {cs ip fp : List Char} (h : ReadsAs cs ip fp) :
    ∀ c ∈ cs, c ≠ 'e' ∧ c ≠ 'E' := by
  obtain ⟨hip, -, hfp, ⟨rfl, -⟩ | ⟨tail, rfl, -, hmark⟩⟩ := h
  · exact not_mark_of_digits hip
  · intro c hc
    rw [List.mem_append, List.mem_cons, List.mem_append] at hc
    rcases hc with hc | rfl | hc | hc
    · exact not_mark_of_digits hip c hc
    · decide
    · exact not_mark_of_digits hfp c hc
    · exact hmark c hc

/-- Two digits of the second part, with zeros behind it, are its whole hundredths. -/
theorem floor_decimalOfParts (ip : List Char) {fp : List Char}
    (hfp : ∀ c ∈ fp, isDigitOf 10 c = true) :
    ⌊decimalOfParts ip fp * 100⌋ =
      digitsValue 10 ip * 100 + digitsToInt (twoFractionDigits (String.ofList fp)) := by
  rw [← decimalOfParts_zeros ip fp (2 - fp.length), twoFractionDigits, digitsToInt,
    String.toList_ofList, String.toList_ofList]
  generalize hpad : fp ++ List.replicate (2 - fp.length) '0' = padded
  have hdigits : ∀ c ∈ padded, isDigitOf 10 c = true := by
    intro c hc
    rw [← hpad] at hc
    exact (List.mem_append.1 hc).elim (hfp c) (isDigitOf_replicate_zero _ c)
  have htwo : (padded.take 2).length = 2 := by
    have hlength := congrArg List.length hpad
    rw [List.length_append, List.length_replicate] at hlength
    rw [List.length_take]
    omega
  have hrest : ∀ c ∈ padded.drop 2, isDigitOf 10 c = true :=
    fun c hc => hdigits c (List.mem_of_mem_drop hc)
  have hfloor := floor_decimalOfParts_append ip htwo hrest
  rw [List.take_append_drop] at hfloor
  exact hfloor

/-- The parts that `split('.')` finds; a second point ends the second one. -/
theorem splitPoint_cases (cs : List Char) :
    (splitPoint (String.ofList cs) = (String.ofList cs, none)) ∨
      ∃ ip fp tail, cs = ip ++ '.' :: (fp ++ tail) ∧ (tail = [] ∨ tail.head? = some '.') ∧
        splitPoint (String.ofList cs) = (String.ofList ip, some (String.ofList fp)) := by
  by_cases hpoint : '.' ∈ cs
  · obtain ⟨ip, rest, rfl, hip⟩ := List.eq_append_cons_of_mem hpoint
    refine .inr ⟨ip, rest.takeWhile (· ≠ '.'), rest.dropWhile (· ≠ '.'), ?_, ?_,
      splitPoint_pointed hip⟩
    · rw [List.takeWhile_append_dropWhile]
    · have hhead := List.head?_dropWhile_not (· ≠ '.') rest
      cases hrest : rest.dropWhile (· ≠ '.') with
      | nil => exact .inl rfl
      | cons c tail =>
          rw [hrest] at hhead
          exact .inr (by simpa using hhead)
  · exact .inl (splitPoint_plain hpoint)

theorem takeWhile_append_point {fp tail : List Char} (hfp : '.' ∉ fp)
    (htail : tail = [] ∨ tail.head? = some '.') : (fp ++ tail).takeWhile (· ≠ '.') = fp := by
  rcases htail with rfl | htail
  · rw [List.append_nil, takeWhile_of_notMem hfp]
  · cases tail with
    | nil => cases htail
    | cons c tail =>
        cases htail
        have hall : ∀ c ∈ fp, decide (c ≠ '.') = true := by
          intro c hc
          rw [decide_eq_true_eq]
          exact ne_of_mem_of_not_mem hc hfp
        rw [List.takeWhile_append_of_pos hall]
        simp

/-- Acceptance, once the text is split. -/
theorem convert_of_split {s : String} {cents : ℤ} {ip fp : List Char} {frac : Option String}
    (hsplit : splitPoint (String.ofList (normalizedText s)) = (String.ofList ip, frac))
    (hfrac : frac.getD "" = String.ofList fp) :
    convertAmountToSmallestUnitCents (.str s) = .ok cents ↔
      (∀ c ∈ normalizedText s, c ≠ 'e' ∧ c ≠ 'E') ∧
      (ip ≠ [] ∧ ∀ c ∈ ip, isDigitOf 10 c = true) ∧ (∀ c ∈ fp, isDigitOf 10 c = true) ∧
      0 < cents ∧ cents = ⌊decimalOfParts ip fp * 100⌋ := by
  have hraw : String.ofList ((jsTrim s).toList.filter (· ≠ ',')) =
      String.ofList (normalizedText s) := by
    rw [jsTrim, String.toList_ofList, normalizedText]
  have hnonempty : ip ≠ [] → jsTrim s ≠ "" := by
    rintro hip hempty
    rw [← hraw, hempty] at hsplit
    exact hip (String.ofList_inj.1 (congrArg Prod.fst hsplit)).symm
  have hfracDigits : (frac.getD "" = "" ∨ isDigits (frac.getD "") = true) ↔
      ∀ c ∈ fp, isDigitOf 10 c = true := by
    rw [hfrac, isDigits_ofList]
    cases fp with
    | nil => simp
    | cons c fp => simp
  have hvalue : (∀ c ∈ fp, isDigitOf 10 c = true) →
      digitsToInt (String.ofList ip) * 100 + digitsToInt (twoFractionDigits (frac.getD "")) =
        ⌊decimalOfParts ip fp * 100⌋ := by
    intro hfp
    rw [floor_decimalOfParts ip hfp, hfrac, digitsToInt, String.toList_ofList]
  simp only [convertAmountToSmallestUnitCents, pure_bind, bind_eq_ok, throwUnless_eq_ok,
    decide_eq_true_eq, hraw, hsplit, Bool.not_eq_true', hasExponentMark_ofList, isDigits_ofList,
    Bool.or_eq_true, hfracDigits]
  constructor
  · rintro ⟨-, -, -, hmark, -, hip, -, hfp, -, hpos, heq⟩
    cases heq
    rw [hvalue hfp] at hpos ⊢
    exact ⟨hmark, hip, hfp, hpos, rfl⟩
  · rintro ⟨hmark, hip, hfp, hpos, heq⟩
    rw [hvalue hfp]
    exact ⟨(), hnonempty hip.1, (), hmark, (), hip, (), hfp, (), heq ▸ hpos, heq ▸ rfl⟩

theorem convertAmount_eq_ok {s : String} {cents : ℤ} :
    convertAmountToSmallestUnitCents (.str s) = .ok cents ↔
      ∃ ip fp, ReadsAs (normalizedText s) ip fp ∧ 0 < cents ∧
        cents = ⌊decimalOfParts ip fp * 100⌋ := by
  have hnone : Option.getD none "" = String.ofList [] := rfl
  have hsome (fp : List Char) : (some (String.ofList fp)).getD "" = String.ofList fp := rfl
  generalize hcs : normalizedText s = cs
  constructor
  · intro h
    rcases splitPoint_cases cs with hsplit | ⟨ip, fp, tail, htext, htail, hsplit⟩
    · have hparts : splitPoint (String.ofList (normalizedText s)) = (String.ofList cs, none) := by
        rw [hcs, hsplit]
      obtain ⟨-, ⟨hne, hip⟩, hfp, hcents⟩ := (convert_of_split hparts hnone).1 h
      exact ⟨cs, [], ⟨hip, hne, hfp, .inl ⟨rfl, rfl⟩⟩, hcents⟩
    · rw [convert_of_split (hcs.symm ▸ hsplit) (hsome fp)] at h
      obtain ⟨hmark, ⟨hne, hip⟩, hfp, hcents⟩ := h
      have htailMark : ∀ c ∈ tail, c ≠ 'e' ∧ c ≠ 'E' := by
        intro c hc
        apply hmark
        simp [hcs, htext, hc]
      exact ⟨ip, fp, ⟨hip, hne, hfp, .inr ⟨tail, htext, htail, htailMark⟩⟩, hcents⟩
  · rintro ⟨ip, fp, hreads, hcents⟩
    have hmarks := hreads.not_mark
    obtain ⟨hip, hne, hfp, htext⟩ := hreads
    have hpoint := notMem_of_digits hip not_digit_point
    rcases htext with ⟨rfl, rfl⟩ | ⟨tail, rfl, htail, -⟩
    · rw [convert_of_split (hcs.symm ▸ splitPoint_plain hpoint) hnone, hcs]
      exact ⟨hmarks, ⟨hne, hip⟩, hfp, hcents⟩
    · have hsplit : splitPoint (String.ofList (ip ++ '.' :: (fp ++ tail))) =
          (String.ofList ip, some (String.ofList fp)) := by
        rw [splitPoint_pointed hpoint,
          takeWhile_append_point (notMem_of_digits hfp not_digit_point) htail]
      rw [convert_of_split (hcs.symm ▸ hsplit) (hsome fp), hcs]
      exact ⟨hmarks, ⟨hne, hip⟩, hfp, hcents⟩

/-! ## One grammar -/

/-- The texts that are accepted are the decimal texts of at least one cent. -/
structure ParsesDecimals (s : String) : Prop where
  accepts : (∃ cents, convertAmountToSmallestUnitCents (.str s) = .ok cents) ↔
    ∃ d, DecimalText (normalizedText s) d ∧ 0 < ⌊d * 100⌋
  value : ∀ cents, convertAmountToSmallestUnitCents (.str s) = .ok cents →
    (∃! d, DecimalText (normalizedText s) d) ∧
      ∀ d, DecimalText (normalizedText s) d → cents = ⌊d * 100⌋

/-- Digits and a point, then nothing at all, or digits and whatever follows a second point. -/
def IgnoresTail (cs : List Char) : Prop :=
  ∃ ip fp tail, cs = ip ++ '.' :: (fp ++ tail) ∧ (ip ≠ [] ∧ ∀ c ∈ ip, isDigitOf 10 c = true) ∧
    (∀ c ∈ fp, isDigitOf 10 c = true) ∧ (tail = [] ∧ fp = [] ∨ tail.head? = some '.') ∧
    (∀ c ∈ tail, c ≠ 'e' ∧ c ≠ 'E') ∧ 0 < ⌊decimalOfParts ip fp * 100⌋

theorem IgnoresTail.readsAs {cs : List Char} (h : IgnoresTail cs) :
    ∃ ip fp, ReadsAs cs ip fp ∧ 0 < ⌊decimalOfParts ip fp * 100⌋ := by
  obtain ⟨ip, fp, tail, htext, ⟨hne, hip⟩, hfp, htail, hmark, hpos⟩ := h
  exact ⟨ip, fp, ⟨hip, hne, hfp, .inr ⟨tail, htext, htail.imp_left And.left, hmark⟩⟩, hpos⟩

theorem IgnoresTail.not_decimalText {cs : List Char} (h : IgnoresTail cs) (d : ℚ) :
    ¬DecimalText cs d := by
  obtain ⟨ip, fp, tail, rfl, ⟨-, hip⟩, -, htail, -⟩ := h
  intro hdecimal
  generalize htext : ip ++ '.' :: (fp ++ tail) = cs at hdecimal
  cases hdecimal with
  | whole hcs =>
      rw [← htext] at hcs
      exact notMem_of_digits hcs not_digit_point (List.mem_append_right _ List.mem_cons_self)
  | pointed hip' _ hfp' hfne =>
      obtain ⟨-, hrest⟩ := Lib.eq_of_append_cons (notMem_of_digits hip not_digit_point)
        (notMem_of_digits hip' not_digit_point) htext
      rcases htail with ⟨rfl, rfl⟩ | htail
      · exact hfne hrest.symm
      · rw [← hrest] at hfp'
        exact notMem_of_digits hfp' not_digit_point
          (List.mem_append_right _ (List.mem_of_head? htail))

/-- A text is read as the decimal text that it is, or its tail is ignored. -/
theorem ReadsAs.cases {cs ip fp : List Char} (h : ReadsAs cs ip fp)
    (hpos : 0 < ⌊decimalOfParts ip fp * 100⌋) :
    DecimalText cs (decimalOfParts ip fp) ∨ IgnoresTail cs := by
  obtain ⟨hip, hne, hfp, ⟨rfl, rfl⟩ | ⟨tail, rfl, htail, hmark⟩⟩ := h
  · have hwhole : decimalOfParts cs [] = digitsValue 10 cs := by simp [decimalOfParts, digitsValue]
    rw [hwhole]
    exact .inl (.whole hip hne)
  · by_cases hignored : tail = [] ∧ fp = [] ∨ tail.head? = some '.'
    · exact .inr ⟨ip, fp, tail, rfl, ⟨hne, hip⟩, hfp, hignored, hmark, hpos⟩
    · rw [not_or, not_and] at hignored
      have htail := htail.resolve_right hignored.2
      rw [htail, List.append_nil]
      exact .inl (.pointed hip hne hfp (hignored.1 htail))

theorem readsAs_of_decimalText {cs : List Char} {d : ℚ} (h : DecimalText cs d) :
    ∃ ip fp, ReadsAs cs ip fp ∧ d = decimalOfParts ip fp := by
  cases h with
  | whole hip hne =>
      exact ⟨cs, [], ⟨hip, hne, by simp, .inl ⟨rfl, rfl⟩⟩, by simp [decimalOfParts, digitsValue]⟩
  | @pointed ip fp hip hne hfp _ =>
      exact ⟨ip, fp, ⟨hip, hne, hfp, .inr ⟨[], by simp, .inl rfl, by simp⟩⟩, rfl⟩

theorem parsesDecimals_iff (s : String) :
    ParsesDecimals s ↔ ¬IgnoresTail (normalizedText s) := by
  constructor
  · intro hparses hignored
    obtain ⟨ip, fp, hreads, hpos⟩ := hignored.readsAs
    obtain ⟨d, hd, -⟩ := hparses.accepts.1 ⟨_, convertAmount_eq_ok.2 ⟨ip, fp, hreads, hpos, rfl⟩⟩
    exact hignored.not_decimalText d hd
  · intro hplain
    have hread : ∀ cents, convertAmountToSmallestUnitCents (.str s) = .ok cents →
        ∃ d, DecimalText (normalizedText s) d ∧ 0 < cents ∧ cents = ⌊d * 100⌋ := by
      intro cents hok
      obtain ⟨ip, fp, hreads, hpos, rfl⟩ := convertAmount_eq_ok.1 hok
      exact ⟨_, (hreads.cases hpos).resolve_right hplain, hpos, rfl⟩
    refine ⟨⟨?_, ?_⟩, ?_⟩
    · rintro ⟨cents, hok⟩
      obtain ⟨d, hd, hpos, rfl⟩ := hread cents hok
      exact ⟨d, hd, hpos⟩
    · rintro ⟨d, hd, hpos⟩
      obtain ⟨ip, fp, hreads, rfl⟩ := readsAs_of_decimalText hd
      exact ⟨_, convertAmount_eq_ok.2 ⟨ip, fp, hreads, hpos, rfl⟩⟩
    · intro cents hok
      obtain ⟨d, hd, -, rfl⟩ := hread cents hok
      refine ⟨⟨d, hd, fun d' hd' => decimalText_unique hd' hd⟩, fun d' hd' => ?_⟩
      rw [decimalText_unique hd' hd]

/-- Of `1.2.3` the third part is ignored. -/
theorem parsesDecimals_three_parts :
    convertAmountToSmallestUnitCents (.str "1.2.3") = .ok 120 ∧ ¬ParsesDecimals "1.2.3" := by
  have hreads : ReadsAs (normalizedText "1.2.3") ['1'] ['2'] :=
    ⟨List.all_eq_true.1 rfl, by decide, List.all_eq_true.1 rfl,
      .inr ⟨['.', '3'], by decide, by decide, List.all_iff_forall_prop.1 rfl⟩⟩
  have hignored : IgnoresTail (normalizedText "1.2.3") :=
    ⟨['1'], ['2'], ['.', '3'], by decide, ⟨by decide, List.all_eq_true.1 rfl⟩,
      List.all_eq_true.1 rfl, by decide, List.all_iff_forall_prop.1 rfl, by decide +kernel⟩
  have hok : convertAmountToSmallestUnitCents (.str "1.2.3") = .ok 120 :=
    convertAmount_eq_ok.2 ⟨['1'], ['2'], hreads, by decide, by decide +kernel⟩
  refine ⟨hok, fun hparses => ?_⟩
  obtain ⟨d, hd, -⟩ := hparses.accepts.1 ⟨_, hok⟩
  exact hignored.not_decimalText d hd

end UniverEscrow.Backend
