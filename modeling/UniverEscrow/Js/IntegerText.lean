import UniverEscrow.Js.DecimalText
import UniverEscrow.Js.Rounding
import UniverEscrow.Js.SafeInteger

/-!
# The text of an integer

`String(n)` of an integer up to `2 ^ 53` is written with digits alone, and they denote `n`.  The
digits of `n` are themselves a decimal that rounds to it, so the shortest one has no more.
-/

namespace UniverEscrow.Js

/-- A decimal with `k` digits that rounds to `x` bounds the digits printed. -/
theorem shortestDecimal_le {x : Binary64} {k : ℕ} (hpos : 0 < k) (hk : k ≤ 17)
    (hcandidate : (decimalCandidate x (decimalPoint x.val) k).isSome = true) :
    (shortestDecimal x).1.length ≤ k ∧ decimalPoint x.val ≤ (shortestDecimal x).2 ∧
      (shortestDecimal x).2 ≤ decimalPoint x.val + 1 := by
  set n := decimalPoint x.val with hn
  have hsome : ((List.range' 1 17).findSome? fun k =>
      (decimalCandidate x n k).map fun s => (s, k)).isSome = true := by
    rw [List.findSome?_isSome_iff]
    refine ⟨k, List.mem_range'_1.2 (by omega), ?_⟩
    rwa [Option.isSome_map]
  obtain ⟨⟨s, j⟩, hfind⟩ := Option.isSome_iff_exists.1 hsome
  obtain ⟨before, j', after, hsplit, hfound, hnone⟩ := List.findSome?_eq_some_iff.1 hfind
  obtain ⟨s', hs', heq⟩ := Option.map_eq_some_iff.1 hfound
  cases heq
  -- the list of lengths is increasing, and `k` is not before the one found
  have hj : j ≤ k := by
    by_contra hlt
    have hmem : k ∈ before ++ j :: after := hsplit ▸ List.mem_range'_1.2 (by omega)
    have hsorted : (before ++ j :: after).Pairwise (· < ·) := hsplit ▸ List.pairwise_lt_range'
    rcases List.mem_append.1 hmem with hbefore | hafter
    · have := hnone k hbefore
      rw [Option.map_eq_none_iff] at this
      rw [this] at hcandidate
      cases hcandidate
    · rcases List.mem_cons.1 hafter with rfl | hafter
      · exact hlt le_rfl
      · have := (List.pairwise_cons.1 (List.pairwise_append.1 hsorted).2.1).1 k hafter
        omega
  unfold shortestDecimal
  dsimp only
  rw [← hn, hfind, Option.getD_some]
  dsimp only
  split_ifs with hlen
  · exact ⟨by rw [hlen]; exact hj, le_rfl, by omega⟩
  · exact ⟨hpos, by omega, le_rfl⟩

section Integer
variable {x : Binary64} {n : ℕ}

theorem decimalPoint_natCast (hn : 0 < n) :
    decimalPoint (n : ℚ) = ((Nat.toDigits 10 n).length : ℕ) := by
  have hone : (1 : ℚ) ≤ n := by exact_mod_cast hn
  rw [decimalPoint, if_pos hone, Int.floor_natCast, Int.toNat_natCast]

/-- An integer is its own candidate. -/
theorem isSome_decimalCandidate_integer (hx : x.val = n) (k : ℕ) :
    (decimalCandidate x k k).isSome = true := by
  have hself : JsNumber.ofRat (((n : ℤ) : ℚ) * 1) = .fin x := by
    rw [Int.cast_natCast, mul_one, ← hx, JsNumber.ofRat_val]
  unfold decimalCandidate
  simp only [sub_self, pow10_zero, mul_one, hx, Int.floor_natCast] at hself ⊢
  rw [if_pos hself]
  split_ifs <;> rfl

theorem digits_integer (hx : x.val = n) (hn : 0 < n) (hsmall : n < 2 ^ 53) :
    ((shortestDecimal x).1.length : ℤ) ≤ (shortestDecimal x).2 ∧ (shortestDecimal x).2 ≤ 21 := by
  have hlength : (Nat.toDigits 10 n).length ≤ 16 :=
    (Nat.length_toDigits_le_iff (by norm_num) (by norm_num)).2 (hsmall.trans (by norm_num))
  have hpoint := decimalPoint_natCast hn
  have hcandidate := isSome_decimalCandidate_integer hx (Nat.toDigits 10 n).length
  rw [← hpoint, ← hx] at hcandidate
  obtain ⟨hle, hlow, hhigh⟩ := shortestDecimal_le Nat.length_toDigits_pos (by omega) hcandidate
  rw [hx, hpoint] at hlow hhigh
  constructor
  · omega
  · omega

theorem onGrid_natCast {m : ℕ} (h : m ≤ 2 ^ 53) : OnGrid (m : ℚ) := by
  have habs : |(m : ℤ)| ≤ 2 ^ 53 := by
    rw [abs_of_nonneg (Int.natCast_nonneg m)]
    exact_mod_cast h
  exact_mod_cast onGrid_intCast habs

/-- An integer that rounds to a smaller one than `2 ^ 53` is that one. -/
theorem eq_of_ofRat_natCast {m : ℕ} (hx : x.val = n) (hsmall : n < 2 ^ 53)
    (h : JsNumber.ofRat (m : ℚ) = .fin x) : m = n := by
  rw [JsNumber.ofRat_eq_fin, hx] at h
  rcases Nat.lt_or_ge (2 ^ 53) m with hlarge | hle
  · have hround : ((2 ^ 53 : ℕ) : ℚ) ≤ roundToUlp m :=
      le_roundToUlp (onGrid_natCast le_rfl) (by exact_mod_cast hlarge.le)
    rw [h] at hround
    exact absurd hsmall (not_lt.2 (by exact_mod_cast hround))
  · rw [roundToUlp_of_onGrid (onGrid_natCast hle)] at h
    exact_mod_cast h

/-- The text is made of digits that denote the integer. -/
theorem finiteChars_integer (hx : x.val = n) (hn : 0 < n) (hsmall : n < 2 ^ 53) :
    (∀ c ∈ finiteChars x, isDigitOf 10 c = true) ∧ digitsValue 10 (finiteChars x) = n := by
  obtain ⟨hzeros, hpoint⟩ := digits_integer hx hn hsmall
  have hdigits := isDigitOf_shortestDecimal x
  have hpositive : 0 < x.val := by
    rw [hx]
    exact_mod_cast hn
  have htext : finiteChars x = (shortestDecimal x).1 ++
      List.replicate ((shortestDecimal x).2 - (shortestDecimal x).1.length).toNat '0' :=
    if_pos ⟨hzeros, hpoint⟩
  have hall : ∀ c ∈ finiteChars x, isDigitOf 10 c = true := by
    intro c hc
    rw [htext] at hc
    exact (List.mem_append.1 hc).elim (hdigits c) (isDigitOf_replicate_zero _ c)
  have hvalue : printedDecimal x = (digitsValue 10 (finiteChars x) : ℕ) :=
    decimalText_unique (decimalText_finiteChars (notMem_of_digits hall (by decide)))
      (.whole hall (finiteChars_ne_nil hpositive))
  have hround := ofRat_printedDecimal hpositive
  rw [hvalue] at hround
  exact ⟨hall, eq_of_ofRat_natCast hx hsmall hround⟩

end Integer

/-- The digits that denote `n`. -/
structure WrittenInDigits (cs : List Char) (n : ℕ) : Prop where
  digits : ∀ c ∈ cs, isDigitOf 10 c = true
  value : digitsValue 10 cs = n

theorem writtenInDigits_ofInt {n : ℕ} (h : n ≤ 2 ^ 53) :
    WrittenInDigits (JsNumber.ofInt n).toText.toList n := by
  rcases Nat.lt_or_eq_of_le h with hsmall | rfl
  · have habs : |(n : ℤ)| ≤ 2 ^ 53 := by
      rw [abs_of_nonneg (Int.natCast_nonneg n)]
      exact_mod_cast h
    rw [JsNumber.ofInt_eq_fin habs]
    have hval : (⟨((n : ℤ) : ℚ), isBinary64_intCast habs⟩ : Binary64).val = (n : ℚ) := by
      exact_mod_cast rfl
    generalize (⟨((n : ℤ) : ℚ), isBinary64_intCast habs⟩ : Binary64) = x at hval ⊢
    rcases Nat.eq_zero_or_pos n with rfl | hpos
    · have htext : (JsNumber.fin x).toText = "0" := if_pos (by exact_mod_cast hval)
      rw [htext]
      exact ⟨List.all_eq_true.1 rfl, rfl⟩
    · have hpositive : 0 < x.val := by
        rw [hval]
        exact_mod_cast hpos
      have htext : (JsNumber.fin x).toText = String.ofList (finiteChars x) :=
        (if_neg hpositive.ne').trans (if_pos hpositive)
      rw [htext, String.toList_ofList]
      obtain ⟨hdigits, hvalue⟩ := finiteChars_integer hval hpos hsmall
      exact ⟨hdigits, hvalue⟩
  · have htext : (JsNumber.ofInt ((2 ^ 53 : ℕ) : ℤ)).toText = "9007199254740992" := by
      decide +kernel
    rw [htext]
    exact ⟨List.all_eq_true.1 rfl, by decide⟩

/-- One more digit makes the integer ten times as large, or larger. -/
theorem WrittenInDigits.mul_le_of_prefix {cs ds : List Char} {m n : ℕ}
    (hcs : WrittenInDigits cs m) (hds : WrittenInDigits ds n) (hstarts : cs <+: ds) :
    cs = ds ∨ 10 * m ≤ n := by
  obtain ⟨rest, rfl⟩ := hstarts
  cases rest with
  | nil => exact .inl (List.append_nil cs).symm
  | cons c rest =>
      right
      have hvalue := hds.value
      rw [digitsValue_append, hcs.value, List.length_cons, pow_succ] at hvalue
      have hpow : 1 ≤ 10 ^ rest.length := Nat.one_le_pow _ _ (by norm_num)
      calc 10 * m = m * (1 * 10) := by ring
        _ ≤ m * (10 ^ rest.length * 10) := Nat.mul_le_mul_left m (Nat.mul_le_mul_right 10 hpow)
        _ ≤ n := by omega

/-- Neither of two successive integers begins with the text of the other. -/
theorem not_prefix_succ {n : ℕ} (h : n < 2 ^ 53) :
    ¬(JsNumber.ofInt n).toText.toList <+: (JsNumber.ofInt ((n + 1 : ℕ) : ℤ)).toText.toList ∧
      ¬(JsNumber.ofInt ((n + 1 : ℕ) : ℤ)).toText.toList <+: (JsNumber.ofInt n).toText.toList := by
  rcases Nat.eq_zero_or_pos n with rfl | hpos
  · decide +kernel
  · have hthis := writtenInDigits_ofInt h.le
    have hnext := writtenInDigits_ofInt (n := n + 1) h
    have hne : (JsNumber.ofInt n).toText.toList ≠
        (JsNumber.ofInt ((n + 1 : ℕ) : ℤ)).toText.toList := by
      intro heq
      rw [heq] at hthis
      exact absurd (hthis.value.symm.trans hnext.value) (by omega)
    constructor
    · intro hstarts
      have := (hthis.mul_le_of_prefix hnext hstarts).resolve_left hne
      omega
    · intro hstarts
      have := (hnext.mul_le_of_prefix hthis hstarts).resolve_left hne.symm
      omega

end UniverEscrow.Js
