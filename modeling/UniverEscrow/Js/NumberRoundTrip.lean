import UniverEscrow.Js.ShortestDecimal

/-!
# Numbers read back from their text

Each of the layouts of Number::toString is a numeric literal of the same decimal, so the text of a
finite number rounds back to it, and no two finite numbers share a text.
-/

namespace UniverEscrow.Js

/-! ## Reading a layout -/

theorem isDigitOf_ten_iff {c : Char} (h : c.isDigit = true) : isDigitOf 10 c = true := by
  simp only [Char.isDigit, Bool.and_eq_true, decide_eq_true_eq] at h
  have hrange : '0' ≤ c ∧ c ≤ '9' := h
  have hle : c.toNat ≤ '9'.toNat := h.2
  simp only [isDigitOf, digitValue, if_pos hrange, decide_eq_true_eq]
  have : '9'.toNat = 57 := rfl
  have : '0'.toNat = 48 := rfl
  omega

theorem digitsValue_append (cs ds : List Char) :
    digitsValue 10 (cs ++ ds) = digitsValue 10 cs * 10 ^ ds.length + digitsValue 10 ds := by
  unfold digitsValue
  rw [List.foldl_append]
  generalize cs.foldl (fun acc c => acc * 10 + digitValue c) 0 = v
  induction ds using List.reverseRecOn with
  | nil => simp
  | append_singleton ds d ih =>
      rw [List.foldl_append, List.foldl_append, ih]
      simp only [List.foldl_cons, List.foldl_nil, List.length_append, List.length_singleton,
        pow_succ]
      ring

theorem digitsValue_replicate_zero (k : ℕ) : digitsValue 10 (List.replicate k '0') = 0 := by
  induction k with
  | zero => rfl
  | succ k ih =>
      rw [List.replicate_succ', digitsValue_append, ih]
      rfl

variable {digits : List Char}

/-- The exponent of a number's text. -/
def exponentText (e : ℤ) : List Char :=
  'e' :: (if 0 ≤ e then '+' else '-') :: Nat.toDigits 10 e.natAbs

theorem readExponent_exponentText (e : ℤ) : readExponent (exponentText e) = some e := by
  have hread : readDigits 10 (Nat.toDigits 10 e.natAbs) = some e.natAbs := by
    rw [readDigits, if_pos, digitsValue_toDigits]
    refine ⟨Nat.toDigits_ne_nil, ?_⟩
    rw [List.all_eq_true]
    exact fun c hc => isDigitOf_ten_iff (Nat.isDigit_of_mem_toDigits (by decide) (by decide) hc)
  unfold exponentText
  by_cases he : 0 ≤ e
  · simp only [if_pos he, readExponent, true_or, if_true, readSign, hread]
    change some (1 * (e.natAbs : ℤ)) = some e
    rw [one_mul, Int.natAbs_of_nonneg he]
  · simp only [if_neg he, readExponent, true_or, if_true, readSign, hread]
    change some (-1 * (e.natAbs : ℤ)) = some e
    congr 1
    omega

/-- A literal without a point. -/
theorem readUnsignedDecimal_plain (hdigits : ∀ c ∈ digits, c.isDigit = true) (hne : digits ≠ [])
    {rest : List Char} (hrest : ∀ c ∈ rest.head?, isDigitOf 10 c = false ∧ c ≠ '.') :
    readUnsignedDecimal (digits ++ rest) =
      (readExponent rest).map fun e => digitsValue 10 digits * pow10 e := by
  have hall : ∀ c ∈ digits, isDigitOf 10 c = true := fun c hc => isDigitOf_ten_iff (hdigits c hc)
  unfold readUnsignedDecimal
  dsimp only
  rw [List.takeWhile_append_of_pos hall, List.dropWhile_append_of_pos hall]
  cases rest with
  | nil => simp [hne]
  | cons c rest =>
      obtain ⟨hc, hdot⟩ := hrest c rfl
      rw [List.takeWhile_cons_of_neg (by simp [hc]), List.dropWhile_cons_of_neg (by simp [hc]),
        List.append_nil]
      split
      · rename_i heq
        exact absurd (List.cons.inj heq).1 hdot
      · rw [if_neg hne]

/-- A literal with a point. -/
theorem readUnsignedDecimal_point {ip fp : List Char} (hip : ∀ c ∈ ip, c.isDigit = true)
    (hfp : ∀ c ∈ fp, c.isDigit = true) (hne : ip ++ fp ≠ []) {rest : List Char}
    (hrest : ∀ c ∈ rest.head?, isDigitOf 10 c = false) :
    readUnsignedDecimal (ip ++ '.' :: (fp ++ rest)) =
      (readExponent rest).map fun e => digitsValue 10 (ip ++ fp) * pow10 (e - fp.length) := by
  have hip' : ∀ c ∈ ip, isDigitOf 10 c = true := fun c hc => isDigitOf_ten_iff (hip c hc)
  have hfp' : ∀ c ∈ fp, isDigitOf 10 c = true := fun c hc => isDigitOf_ten_iff (hfp c hc)
  have hdot : isDigitOf 10 '.' = false := by decide
  have hend : rest.takeWhile (isDigitOf 10) = [] ∧ rest.dropWhile (isDigitOf 10) = rest := by
    cases rest with
    | nil => exact ⟨rfl, rfl⟩
    | cons c rest =>
        have hc := hrest c rfl
        exact ⟨List.takeWhile_cons_of_neg (by simp [hc]), List.dropWhile_cons_of_neg (by simp [hc])⟩
  unfold readUnsignedDecimal
  dsimp only
  rw [List.takeWhile_append_of_pos hip', List.dropWhile_append_of_pos hip',
    List.takeWhile_cons_of_neg (by simp [hdot]), List.dropWhile_cons_of_neg (by simp [hdot]),
    List.append_nil]
  simp only
  rw [List.takeWhile_append_of_pos hfp', List.dropWhile_append_of_pos hfp', hend.1, hend.2,
    List.append_nil, if_neg]
  rintro ⟨rfl, rfl⟩
  exact hne rfl

theorem isDigit_replicate_zero (k : ℕ) : ∀ c ∈ List.replicate k '0', c.isDigit = true := by
  intro c hc
  rw [List.eq_of_mem_replicate hc]
  rfl

theorem isDigit_append {cs ds : List Char} (hcs : ∀ c ∈ cs, c.isDigit = true)
    (hds : ∀ c ∈ ds, c.isDigit = true) : ∀ c ∈ cs ++ ds, c.isDigit = true := by
  intro c hc
  exact (List.mem_append.1 hc).elim (hcs c) (hds c)

/-- Digits and zeros. -/
theorem readUnsignedDecimal_zeros (hdigits : ∀ c ∈ digits, c.isDigit = true) (hne : digits ≠ [])
    {n : ℤ} (hn : (digits.length : ℤ) ≤ n) :
    readUnsignedDecimal (digits ++ List.replicate (n - digits.length).toNat '0') =
      some (digitsValue 10 digits * pow10 (n - digits.length)) := by
  have hexp : n - digits.length = ((n - digits.length).toNat : ℤ) := by omega
  rw [← List.append_nil (digits ++ _),
    readUnsignedDecimal_plain (isDigit_append hdigits (isDigit_replicate_zero _)) (by simp [hne])
      (by simp)]
  simp only [readExponent, Option.map_some]
  rw [digitsValue_append, digitsValue_replicate_zero, List.length_replicate, pow10_zero]
  conv_rhs => rw [hexp, pow10_natCast]
  push_cast
  ring_nf

/-- A point among the digits. -/
theorem readUnsignedDecimal_pointed (hdigits : ∀ c ∈ digits, c.isDigit = true)
    (hne : digits ≠ []) {n : ℤ} (hpos : 0 < n) (hn : n < digits.length) :
    readUnsignedDecimal (digits.take n.toNat ++ '.' :: digits.drop n.toNat) =
      some (digitsValue 10 digits * pow10 (n - digits.length)) := by
  rw [← List.append_nil (digits.drop _), readUnsignedDecimal_point
    (fun c hc => hdigits c (List.mem_of_mem_take hc))
    (fun c hc => hdigits c (List.mem_of_mem_drop hc)) (by simpa using hne) (by simp)]
  simp only [readExponent, Option.map_some, List.take_append_drop, List.length_drop]
  congr 3
  omega

/-- A point and zeros in front of the digits. -/
theorem readUnsignedDecimal_small (hdigits : ∀ c ∈ digits, c.isDigit = true) {n : ℤ}
    (hn : n ≤ 0) :
    readUnsignedDecimal ('0' :: '.' :: (List.replicate (-n).toNat '0' ++ digits)) =
      some (digitsValue 10 digits * pow10 (n - digits.length)) := by
  have hpointed : '0' :: '.' :: (List.replicate (-n).toNat '0' ++ digits) =
      ['0'] ++ '.' :: ((List.replicate (-n).toNat '0' ++ digits) ++ []) := by
    rw [List.append_nil]
    rfl
  rw [hpointed, readUnsignedDecimal_point (List.forall_mem_singleton.2 rfl)
    (isDigit_append (isDigit_replicate_zero _) hdigits) (by simp) (by simp)]
  simp only [readExponent, Option.map_some]
  rw [digitsValue_append, digitsValue_append, digitsValue_replicate_zero,
    show digitsValue 10 ['0'] = 0 from rfl, zero_mul, zero_mul, zero_add, zero_add,
    List.length_append, List.length_replicate]
  congr 3
  push_cast
  omega

/-- Every layout reads as the decimal it was made from. -/
theorem readUnsignedDecimal_layoutDecimal (hdigits : ∀ c ∈ digits, c.isDigit = true)
    (hne : digits ≠ []) (n : ℤ) :
    readUnsignedDecimal (layoutDecimal digits n) =
      some (digitsValue 10 digits * pow10 (n - digits.length)) := by
  have hexponent : ∀ c ∈ (exponentText (n - 1)).head?, isDigitOf 10 c = false ∧ c ≠ '.' := by
    intro c hc
    cases hc
    decide
  unfold layoutDecimal
  dsimp only
  by_cases hplain : (digits.length : ℤ) ≤ n ∧ n ≤ 21
  · rw [if_pos hplain, readUnsignedDecimal_zeros hdigits hne hplain.1]
  rw [if_neg hplain]
  by_cases hpoint : 0 < n ∧ n ≤ 21
  · rw [if_pos hpoint, readUnsignedDecimal_pointed hdigits hne hpoint.1 (by omega)]
  rw [if_neg hpoint]
  by_cases hsmall : -6 < n ∧ n ≤ 0
  · rw [if_pos hsmall, readUnsignedDecimal_small hdigits hsmall.2]
  rw [if_neg hsmall]
  -- scientific
  match digits, hdigits, hne with
  | [], _, hnil => exact absurd rfl hnil
  | [d], hd, _ =>
      change readUnsignedDecimal ([d] ++ exponentText (n - 1)) = _
      rw [readUnsignedDecimal_plain hd (by simp) hexponent, readExponent_exponentText]
      rfl
  | d :: d' :: ds, hd, _ =>
      change readUnsignedDecimal ([d] ++ '.' :: (d' :: ds ++ exponentText (n - 1))) = _
      have hfirst : ∀ c ∈ [d], c.isDigit = true := by
        intro c hc
        exact hd c (List.mem_cons.2 (.inl (List.mem_singleton.1 hc)))
      rw [readUnsignedDecimal_point hfirst (fun c hc => hd c (List.mem_cons_of_mem _ hc))
        (by simp) (fun c hc => (hexponent c hc).1), readExponent_exponentText]
      simp only [Option.map_some, List.singleton_append, List.length_cons]
      congr 3
      push_cast
      ring

/-! ## The text of a number -/

theorem isDigit_of_mem_shortestDecimal {x : Binary64} {d : Char}
    (h : d ∈ (shortestDecimal x).1) : d.isDigit = true := by
  dsimp only [shortestDecimal] at h
  split_ifs at h
  · exact Nat.isDigit_of_mem_toDigits (by decide) (by decide) h
  · rw [List.mem_singleton.1 h]
    rfl

theorem shortestDecimal_ne_nil (x : Binary64) : (shortestDecimal x).1 ≠ [] := by
  dsimp only [shortestDecimal]
  split_ifs
  · exact Nat.toDigits_ne_nil
  · simp

/-- The characters of the text of a finite number, up to its sign. -/
def finiteChars (x : Binary64) : List Char :=
  layoutDecimal (shortestDecimal x).1 (shortestDecimal x).2

theorem ofRat_of_readUnsignedDecimal {x : Binary64} (hx : 0 < x.val) :
    (readUnsignedDecimal (finiteChars x)).map JsNumber.ofRat = some (.fin x) := by
  rw [finiteChars, readUnsignedDecimal_layoutDecimal
    (fun c => isDigit_of_mem_shortestDecimal) (shortestDecimal_ne_nil x), Option.map_some,
    ofRat_shortestDecimal hx]

theorem mem_exponentText {e : ℤ} {c : Char} (h : c ∈ exponentText e) :
    c.isDigit = true ∨ c ∈ ['.', 'e', '+', '-'] := by
  rcases List.mem_cons.1 h with rfl | h
  · simp
  · rcases List.mem_cons.1 h with h | h
    · split_ifs at h <;> simp [h]
    · exact .inl (Nat.isDigit_of_mem_toDigits (by decide) (by decide) h)

/-- The four layouts of a number. -/
theorem layoutDecimal_cases (digits : List Char) (n : ℤ) :
    ((digits.length : ℤ) ≤ n ∧ n ≤ 21 ∧ layoutDecimal digits n =
        digits ++ List.replicate (n - digits.length).toNat '0') ∨
      layoutDecimal digits n = digits.take n.toNat ++ '.' :: digits.drop n.toNat ∨
      layoutDecimal digits n = '0' :: '.' :: (List.replicate (-n).toNat '0' ++ digits) ∨
      ∃ init point rest, digits = init ++ rest ∧ point ⊆ ['.'] ∧
        layoutDecimal digits n = init ++ point ++ rest ++ exponentText (n - 1) := by
  by_cases hplain : (digits.length : ℤ) ≤ n ∧ n ≤ 21
  · exact .inl ⟨hplain.1, hplain.2, if_pos hplain⟩
  · by_cases hpoint : 0 < n ∧ n ≤ 21
    · exact .inr (.inl ((if_neg hplain).trans (if_pos hpoint)))
    · by_cases hsmall : -6 < n ∧ n ≤ 0
      · exact .inr (.inr (.inl ((if_neg hplain).trans ((if_neg hpoint).trans (if_pos hsmall)))))
      · refine .inr (.inr (.inr ?_))
        cases digits with
        | nil =>
            exact ⟨[], [], [], rfl, by simp,
              (if_neg hplain).trans ((if_neg hpoint).trans (if_neg hsmall))⟩
        | cons d ds =>
            cases ds with
            | nil =>
                exact ⟨[d], [], [], rfl, by simp,
                  (if_neg hplain).trans ((if_neg hpoint).trans (if_neg hsmall))⟩
            | cons d' ds =>
                exact ⟨[d], ['.'], d' :: ds, rfl, by simp,
                  (if_neg hplain).trans ((if_neg hpoint).trans (if_neg hsmall))⟩

theorem mem_layoutDecimal {n : ℤ} {c : Char}
    (hdigits : ∀ d ∈ digits, d.isDigit = true) (h : c ∈ layoutDecimal digits n) :
    c.isDigit = true ∨ c ∈ ['.', 'e', '+', '-'] := by
  have hzero {k : ℕ} (h : c ∈ List.replicate k '0') : c.isDigit = true := by
    rw [List.eq_of_mem_replicate h]
    rfl
  rcases layoutDecimal_cases digits n with ⟨-, -, hl⟩ | hl | hl | ⟨init, point, rest, rfl, hp, hl⟩
  · rw [hl] at h
    exact .inl ((List.mem_append.1 h).elim (hdigits c) hzero)
  · rw [hl, List.mem_append, List.mem_cons] at h
    rcases h with h | rfl | h
    · exact .inl (hdigits c (List.mem_of_mem_take h))
    · simp
    · exact .inl (hdigits c (List.mem_of_mem_drop h))
  · rw [hl, List.mem_cons, List.mem_cons, List.mem_append] at h
    rcases h with rfl | rfl | h | h
    · simp
    · simp
    · exact .inl (hzero h)
    · exact .inl (hdigits c h)
  · simp only [hl, List.mem_append] at h
    rcases h with ((h | h) | h) | h
    · exact .inl (hdigits c (List.mem_append_left rest h))
    · have hdot := hp h
      simp only [List.mem_singleton] at hdot
      simp [hdot]
    · exact .inl (hdigits c (List.mem_append_right init h))
    · exact mem_exponentText h

/-- The negative of a Number is one. -/
def Binary64.neg (x : Binary64) : Binary64 where
  val := -x.val
  isBinary64 := by
    obtain ⟨hlt, m, e, hm, he, hval⟩ := x.isBinary64
    exact ⟨by rwa [abs_neg], -m, e, by rwa [abs_neg], he, by rw [hval]; push_cast; ring⟩

theorem toText_fin_cases (x : Binary64) :
    (x.val = 0 ∧ (JsNumber.fin x).toText = "0") ∨
      (0 < x.val ∧ (JsNumber.fin x).toText = String.ofList (finiteChars x)) ∨
      (0 < x.neg.val ∧ (JsNumber.fin x).toText = String.ofList ('-' :: finiteChars x.neg)) := by
  rcases lt_trichotomy x.val 0 with hneg | hzero | hpos
  · have hflip : JsNumber.neg (.fin x) = .fin x.neg := JsNumber.ofRat_val x.neg
    refine .inr (.inr ⟨neg_pos.2 hneg, ?_⟩)
    simp [JsNumber.toText, hneg.ne, hneg.not_gt, hflip, finiteChars]
  · exact .inl ⟨hzero, if_pos hzero⟩
  · exact .inr (.inl ⟨hpos, (if_neg hpos.ne').trans (if_pos hpos)⟩)

/-- What a finite number is written with. -/
theorem mem_toText_fin {x : Binary64} {c : Char} (h : c ∈ (JsNumber.fin x).toText.toList) :
    c.isDigit = true ∨ c ∈ ['.', 'e', '+', '-'] := by
  have hchars {y : Binary64} (h : c ∈ finiteChars y) :
      c.isDigit = true ∨ c ∈ ['.', 'e', '+', '-'] :=
    mem_layoutDecimal (fun d => isDigit_of_mem_shortestDecimal) h
  rcases toText_fin_cases x with ⟨-, h'⟩ | ⟨-, h'⟩ | ⟨-, h'⟩
  · rw [h'] at h
    rw [List.mem_singleton.1 h]
    exact .inl rfl
  · rw [h', String.toList_ofList] at h
    exact hchars h
  · rw [h', String.toList_ofList, List.mem_cons] at h
    rcases h with rfl | h
    · simp
    · exact hchars h

theorem notMem_toText {c : Char} (hc : c.isDigit = false)
    (hother : c ∉ "NaN-Infinity.e+".toList) (n : JsNumber) : c ∉ n.toText.toList := by
  intro h
  apply hother
  cases n with
  | nan => exact List.mem_append_left "-Infinity.e+".toList h
  | posInf => exact List.mem_append_right "NaN-".toList (List.mem_append_left ".e+".toList h)
  | negInf => exact List.mem_append_right "NaN".toList (List.mem_append_left ".e+".toList h)
  | fin x =>
      have hsign := (mem_toText_fin h).resolve_left (by rw [hc]; exact Bool.false_ne_true)
      have hsub : ['.', 'e', '+', '-'] ⊆ "NaN-Infinity.e+".toList := by simp
      exact hsub hsign

/-! ## No two finite numbers share a text -/

theorem finiteChars_ne_nil {x : Binary64} (hx : 0 < x.val) : finiteChars x ≠ [] := by
  intro h
  have hread := ofRat_of_readUnsignedDecimal hx
  rw [h] at hread
  cases hread

theorem toText_ne_nil {n : JsNumber} (h : n.isFinite = true) : n.toText.toList ≠ [] := by
  cases n with
  | fin x =>
      rcases toText_fin_cases x with ⟨-, h'⟩ | ⟨hx, h'⟩ | ⟨-, h'⟩
      · simp [h']
      · rw [h', String.toList_ofList]
        exact finiteChars_ne_nil hx
      · simp [h']
  | nan => cases h
  | posInf => cases h
  | negInf => cases h

theorem readUnsignedDecimal_cons_none {c : Char} {cs : List Char} (hc : isDigitOf 10 c = false)
    (hdot : c ≠ '.') : readUnsignedDecimal (c :: cs) = none := by
  unfold readUnsignedDecimal
  dsimp only
  rw [List.takeWhile_cons_of_neg (by simp [hc]), List.dropWhile_cons_of_neg (by simp [hc])]
  split
  · rename_i heq
    exact absurd (List.cons.inj heq).1 hdot
  · exact if_pos rfl

theorem finiteChars_ne_minus {x : Binary64} (hx : 0 < x.val) (cs : List Char) :
    finiteChars x ≠ '-' :: cs := by
  intro h
  have hread := ofRat_of_readUnsignedDecimal hx
  rw [h, readUnsignedDecimal_cons_none (by decide) (by decide)] at hread
  cases hread

theorem finiteChars_ne_zero {x : Binary64} (hx : 0 < x.val) : finiteChars x ≠ ['0'] := by
  intro h
  have hread := ofRat_of_readUnsignedDecimal hx
  rw [h, show readUnsignedDecimal ['0'] = some (0 * pow10 0) from rfl, Option.map_some, zero_mul,
    Option.some.injEq] at hread
  have hzero : JsNumber.ofRat 0 = .fin ⟨0, isBinary64_intCast (n := 0) (by norm_num)⟩ :=
    JsNumber.ofRat_val ⟨0, _⟩
  rw [hzero] at hread
  rw [← JsNumber.fin.inj hread] at hx
  exact lt_irrefl _ hx

theorem finiteChars_inj {x y : Binary64} (hx : 0 < x.val) (hy : 0 < y.val)
    (h : finiteChars x = finiteChars y) : x = y := by
  have hread := ofRat_of_readUnsignedDecimal hx
  rw [h, ofRat_of_readUnsignedDecimal hy] at hread
  exact (JsNumber.fin.inj (Option.some.inj hread)).symm

theorem toText_fin_inj {x y : Binary64}
    (h : (JsNumber.fin x).toText = (JsNumber.fin y).toText) : x = y := by
  rcases toText_fin_cases x with ⟨hx, hx'⟩ | ⟨hx, hx'⟩ | ⟨hx, hx'⟩ <;>
    rcases toText_fin_cases y with ⟨hy, hy'⟩ | ⟨hy, hy'⟩ | ⟨hy, hy'⟩ <;>
    rw [hx', hy', ← String.toList_inj] at h <;>
    simp only [String.toList_ofList] at h
  · exact Binary64.ext_val (hx.trans hy.symm)
  · exact absurd h.symm (finiteChars_ne_zero hy)
  · cases h
  · exact absurd h (finiteChars_ne_zero hx)
  · exact finiteChars_inj hx hy h
  · exact absurd h (finiteChars_ne_minus hx _)
  · cases h
  · exact absurd h.symm (finiteChars_ne_minus hy _)
  · have hneg := congrArg Binary64.val (finiteChars_inj hx hy (List.cons.inj h).2)
    exact Binary64.ext_val (neg_injective hneg)

theorem JsNumber.toText_inj {a b : JsNumber} (ha : a.isFinite = true) (hb : b.isFinite = true)
    (h : a.toText = b.toText) : a = b := by
  cases a with
  | fin x =>
      cases b with
      | fin y => rw [toText_fin_inj h]
      | nan => cases hb
      | posInf => cases hb
      | negInf => cases hb
  | nan => cases ha
  | posInf => cases ha
  | negInf => cases ha

end UniverEscrow.Js
