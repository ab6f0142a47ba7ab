import UniverEscrow.Merkle.PqcEngine

/-!
# The shape of a key token

The tokens the parser reads, described without it, and among them those written in the documented
shape.
-/

namespace UniverEscrow.Merkle

open UniverEscrow.Js

/-- The body of a token, cut at its semicolons. -/
def bodyParts (s : String) : List (List Char) :=
  (sliceAfter "MLDSA-PUB:" (trimChars s.toList)).splitOn ';'

/-- Each part is empty or of some kind once it is trimmed, and each kind is there. -/
structure Readable (s : String) : Prop where
  start : startsWith "MLDSA-PUB:" (trimChars s.toList) = true
  part : ∀ p ∈ bodyParts s, trimChars p = [] ∨ IsKeyPart (trimChars p)
  idx : ∃ p ∈ bodyParts s, IsIndexPart (trimChars p)
  seed : ∃ p ∈ bodyParts s, IsSeedPart (trimChars p)
  params : ∃ p ∈ bodyParts s, IsParamsPart (trimChars p)

def IsNumeral (cs : List Char) : Prop := cs ≠ [] ∧ ∀ c ∈ cs, isDigitOf 10 c = true

/-- Three parts in the documented order and nothing between them, without white space, and the
numbers in digits. -/
def PlainlyWritten (s : String) : Prop :=
  ∃ idx seed k l,
    bodyParts s = ["idx=".toList ++ idx, "seed=".toList ++ seed,
      "params=".toList ++ ("k=".toList ++ k ++ ',' :: ("l=".toList ++ l))] ∧
    IsNumeral idx ∧ (∀ c ∈ seed, isJsSpace c = false) ∧ IsNumeral k ∧ IsNumeral l

/-- The texts between the fixed parts of the documented shape. -/
structure KeyTexts where
  idx : List Char
  seed : List Char
  k : List Char
  l : List Char

def KeyTexts.token (t : KeyTexts) : List Char :=
  "MLDSA-PUB:idx=".toList ++ t.idx ++ ";seed=".toList ++ t.seed ++ ";params=k=".toList ++ t.k ++
    ",l=".toList ++ t.l

structure KeyTexts.InRange (t : KeyTexts) : Prop where
  idx : digitsValue 10 t.idx ≤ 1000000
  seed : t.seed ≠ [] ∧ isHex (String.ofList t.seed) = true
  k : 1 ≤ digitsValue 10 t.k ∧ digitsValue 10 t.k ≤ 8
  l : 1 ≤ digitsValue 10 t.l ∧ digitsValue 10 t.l ≤ 8

/-- Up to surrounding white space the token is of the documented shape, with plain numerals. -/
structure HasTokenShape (s : String) (t : KeyTexts) : Prop where
  token : trimChars s.toList = t.token
  idx : IsNumeral t.idx
  k : IsNumeral t.k
  l : IsNumeral t.l
  inRange : t.InRange

/-- The key has the values written. -/
structure Denotes (key : MLDSAPublicKey) (t : KeyTexts) : Prop where
  token : key.token = String.ofList t.token
  idx : key.idx = .ofInt (digitsValue 10 t.idx)
  seedHex : key.seedHex.text = String.ofList t.seed
  k : key.k = .ofInt (digitsValue 10 t.k)
  l : key.l = .ofInt (digitsValue 10 t.l)

/-! ## What the parser reads -/

theorem mem_trimmedPieces {separator : Char} {text p : List Char} :
    p ∈ trimmedPieces separator text ↔ p ≠ [] ∧ ∃ q ∈ text.splitOn separator, trimChars q = p := by
  rw [trimmedPieces, List.mem_filter, List.mem_map, decide_eq_true_iff, and_comm]

theorem IsKeyPart.ne_nil {p : List Char} (h : IsKeyPart p) : p ≠ [] := by
  rintro rfl
  rcases h with h | h | h
  · cases h.head
  · cases h.head
  · cases h.head

/-- The parts the loop runs over. -/
def loopParts (s : String) : List (List Char) :=
  trimmedPieces ';' (sliceAfter "MLDSA-PUB:" (trimChars s.toList))

theorem exists_loopPart_iff {s : String} {P : List Char → Prop} (hP : ∀ p, P p → IsKeyPart p) :
    (∃ p ∈ loopParts s, P p) ↔ ∃ p ∈ bodyParts s, P (trimChars p) := by
  constructor
  · rintro ⟨p, hp, h⟩
    obtain ⟨-, q, hq, rfl⟩ := mem_trimmedPieces.1 hp
    exact ⟨q, hq, h⟩
  · rintro ⟨q, hq, h⟩
    exact ⟨trimChars q, mem_trimmedPieces.2 ⟨(hP _ h).ne_nil, q, hq, rfl⟩, h⟩

theorem readable_iff_loopParts {s : String} :
    Readable s ↔ startsWith "MLDSA-PUB:" (trimChars s.toList) = true ∧
      (∀ p ∈ loopParts s, IsKeyPart p) ∧ (∃ p ∈ loopParts s, IsIndexPart p) ∧
      (∃ p ∈ loopParts s, IsSeedPart p) ∧ ∃ p ∈ loopParts s, IsParamsPart p := by
  have hpart : (∀ p ∈ loopParts s, IsKeyPart p) ↔
      ∀ p ∈ bodyParts s, trimChars p = [] ∨ IsKeyPart (trimChars p) := by
    constructor
    · intro h p hp
      by_cases hnil : trimChars p = []
      · exact .inl hnil
      · exact .inr (h _ (mem_trimmedPieces.2 ⟨hnil, p, hp, rfl⟩))
    · intro h p hp
      obtain ⟨hne, q, hq, rfl⟩ := mem_trimmedPieces.1 hp
      exact (h q hq).resolve_left hne
  rw [hpart, exists_loopPart_iff fun p h => .inl h, exists_loopPart_iff fun p h => .inr (.inl h),
    exists_loopPart_iff fun p h => .inr (.inr h)]
  constructor
  · intro h
    exact ⟨h.start, h.part, h.idx, h.seed, h.params⟩
  · rintro ⟨hstart, hpart, hidx, hseed, hparams⟩
    exact ⟨hstart, hpart, hidx, hseed, hparams⟩

/-- Parts of three kinds are at least three. -/
theorem three_le_length {parts : List (List Char)} (hidx : ∃ p ∈ parts, IsIndexPart p)
    (hseed : ∃ p ∈ parts, IsSeedPart p) (hparams : ∃ p ∈ parts, IsParamsPart p) :
    3 ≤ parts.length := by
  obtain ⟨a, ha, haidx⟩ := hidx
  obtain ⟨b, hb, hbseed⟩ := hseed
  obtain ⟨c, hc, hcparams⟩ := hparams
  have hne {x y : List Char} {d e : Char} (hx : x.head? = some d) (hy : y.head? = some e)
      (hde : d ≠ e) : x ≠ y := by
    rintro rfl
    exact hde (Option.some.inj (hx.symm.trans hy))
  have hnodup : [a, b, c].Nodup := by
    simp [hne haidx.head hbseed.head (by decide), hne haidx.head hcparams.head (by decide),
      hne hbseed.head hcparams.head (by decide)]
  have hsub : [a, b, c] ⊆ parts := by
    simp [ha, hb, hc]
  exact (List.subperm_of_subset hnodup hsub).length_le

theorem parse_eq_some {s : String} {key : MLDSAPublicKey} :
    parseMLDSAPublicKey s = some key ↔
      startsWith "MLDSA-PUB:" (trimChars s.toList) = true ∧ 3 ≤ (loopParts s).length ∧
        readParts .none (loopParts s) =
          some ⟨some key.idx, some key.seedHex, some key.k, some key.l⟩ ∧
        key.token = String.ofList (trimChars s.toList) := by
  unfold parseMLDSAPublicKey
  change (if (!startsWith "MLDSA-PUB:" (trimChars s.toList)) = true then none
    else if (loopParts s).length < 3 then none else _) = some key ↔ _
  cases hstart : startsWith "MLDSA-PUB:" (trimChars s.toList) with
  | false => simp
  | true =>
      by_cases hlength : (loopParts s).length < 3
      · simp [hlength, not_le.2 hlength]
      · simp only [Bool.not_true, Bool.false_eq_true, if_false, if_neg hlength, true_and,
          not_lt.1 hlength]
        change (readParts .none (loopParts s)).bind _ = some key ↔ _
        cases hread : readParts .none (loopParts s) with
        | none => simp
        | some found =>
            obtain ⟨idx, seedHex, k, l⟩ := found
            obtain ⟨token, idx', seedHex', k', l'⟩ := key
            cases idx <;> cases seedHex <;> cases k <;> cases l <;>
              simp [eq_comm, and_comm, and_assoc]

/-- The parser returns a key for exactly the readable tokens. -/
theorem isSome_parse_iff {s : String} : (parseMLDSAPublicKey s).isSome = true ↔ Readable s := by
  rw [readable_iff_loopParts, Option.isSome_iff_exists]
  constructor
  · rintro ⟨key, hkey⟩
    obtain ⟨hstart, -, hread, -⟩ := parse_eq_some.1 hkey
    have hfound := found_of_readParts hread
    exact ⟨hstart, hfound.part, by simpa [FoundFields.none] using hfound.idx,
      by simpa [FoundFields.none] using hfound.seedHex, by simpa [FoundFields.none] using hfound.k⟩
  · rintro ⟨hstart, hpart, hidx, hseed, hparams⟩
    obtain ⟨found, hread⟩ := exists_readParts hpart .none
    have hfound := found_of_readParts hread
    obtain ⟨idx, hidx'⟩ := Option.isSome_iff_exists.1 (hfound.idx.2 (.inr hidx))
    obtain ⟨seedHex, hseed'⟩ := Option.isSome_iff_exists.1 (hfound.seedHex.2 (.inr hseed))
    obtain ⟨k, hk'⟩ := Option.isSome_iff_exists.1 (hfound.k.2 (.inr hparams))
    obtain ⟨l, hl'⟩ := Option.isSome_iff_exists.1 (hfound.l.2 (.inr hparams))
    obtain ⟨idx', seedHex'', k'', l''⟩ := found
    cases hidx'
    cases hseed'
    cases hk'
    cases hl'
    exact ⟨⟨_, idx, seedHex, k, l⟩, parse_eq_some.2
      ⟨hstart, three_le_length hidx hseed hparams, hread, rfl⟩⟩

/-! ## Plain numerals among the numbers -/

theorem stringToNumber_numeral {cs : List Char} (h : IsNumeral cs) {n : ℕ} (hn : n ≤ 1000000) :
    stringToNumber (String.ofList cs) = .ofInt n ↔ digitsValue 10 cs = n := by
  rw [stringToNumber_digits h.2 h.1, JsNumber.ofRat_natCast_eq_ofInt (by omega)]

theorem isIndexPart_numeral {cs : List Char} (h : IsNumeral cs) :
    IsIndexPart ("idx=".toList ++ cs) ↔ digitsValue 10 cs ≤ 1000000 := by
  constructor
  · rintro ⟨text, n, heq, hn, hnumber⟩
    rw [← List.append_cancel_left heq, stringToNumber_numeral h hn] at hnumber
    omega
  · intro hle
    exact ⟨cs, _, rfl, hle, (stringToNumber_numeral h hle).2 rfl⟩

theorem isSeedPart_append {text : List Char} :
    IsSeedPart ("seed=".toList ++ text) ↔ text ≠ [] ∧ isHex (String.ofList text) = true := by
  constructor
  · rintro ⟨text', heq, hseed⟩
    rw [List.append_cancel_left heq]
    exact hseed
  · intro hseed
    exact ⟨text, rfl, hseed⟩

theorem IsNumeral.notMem {cs : List Char} (h : IsNumeral cs) {c : Char}
    (hc : isDigitOf 10 c = false) : c ∉ cs :=
  notMem_of_digits h.2 hc

theorem trimChars_append {cs ds : List Char} (hcs : ∀ c ∈ cs, isJsSpace c = false)
    (hds : ∀ c ∈ ds, isJsSpace c = false) : trimChars (cs ++ ds) = cs ++ ds := by
  apply trimChars_of_forall
  intro c hc
  exact (List.mem_append.1 hc).elim (hcs c) (hds c)

theorem IsNumeral.not_space {cs : List Char} (h : IsNumeral cs) :
    ∀ c ∈ cs, isJsSpace c = false :=
  fun c hc => not_space_of_digit (h.2 c hc)

variable {k l : List Char}

/-- The two pieces of the parameters as documented. -/
theorem trimmedPieces_params (hk : IsNumeral k) (hl : IsNumeral l) :
    trimmedPieces ',' ("k=".toList ++ k ++ ',' :: ("l=".toList ++ l)) =
      ["k=".toList ++ k, "l=".toList ++ l] := by
  have hcomma {start cs : List Char} (hstart : ',' ∉ start) (h : IsNumeral cs) :
      ',' ∉ start ++ cs := by
    rw [List.mem_append, not_or]
    exact ⟨hstart, h.notMem (by decide)⟩
  rw [trimmedPieces, List.splitOn_append_cons_self_of_not_mem (hcomma (by decide) hk),
    List.splitOn_eq_singleton (hcomma (by decide) hl), List.map_cons, List.map_singleton,
    trimChars_append (List.all_iff_forall_prop.1 rfl) hk.not_space,
    trimChars_append (List.all_iff_forall_prop.1 rfl) hl.not_space]
  rfl

theorem paramsOf?_numerals (hk : IsNumeral k) (hl : IsNumeral l) {kl : JsNumber × JsNumber} :
    paramsOf? ("k=".toList ++ k ++ ',' :: ("l=".toList ++ l)) = some kl ↔
      (1 ≤ digitsValue 10 k ∧ digitsValue 10 k ≤ 8) ∧
        (1 ≤ digitsValue 10 l ∧ digitsValue 10 l ≤ 8) ∧
        kl = (.ofInt (digitsValue 10 k), .ofInt (digitsValue 10 l)) := by
  have hkfind : ["k=".toList ++ k, "l=".toList ++ l].find? (startsWith "k=") =
      some ("k=".toList ++ k) := by
    rw [List.find?_cons_of_pos (startsWith_append _ _)]
  have hlfind : ["k=".toList ++ k, "l=".toList ++ l].find? (startsWith "l=") =
      some ("l=".toList ++ l) := by
    rw [List.find?_cons_of_neg (by simp [startsWith]),
      List.find?_cons_of_pos (startsWith_append _ _)]
  rw [paramsOf?_eq_some, trimmedPieces_params hk hl, hkfind, hlfind]
  simp only [Option.some.injEq, List.append_cancel_left_eq]
  constructor
  · rintro ⟨kText, lText, rfl, rfl, hrange⟩
    obtain ⟨rfl, ⟨m, hm1, hm8, hm⟩, n, hn1, hn8, hn⟩ := paramsInRange?_eq_some.1 hrange
    have hkm := (stringToNumber_numeral hk (by omega)).1 hm
    have hln := (stringToNumber_numeral hl (by omega)).1 hn
    rw [hm, hn, hkm, hln]
    exact ⟨⟨hm1, hm8⟩, ⟨hn1, hn8⟩, rfl⟩
  · rintro ⟨⟨hk1, hk8⟩, ⟨hl1, hl8⟩, rfl⟩
    refine ⟨k, l, rfl, rfl, ?_⟩
    rw [(stringToNumber_numeral hk (by omega)).2 rfl, (stringToNumber_numeral hl (by omega)).2 rfl,
      paramsInRange?_eq_some]
    exact ⟨rfl, ⟨_, hk1, hk8, rfl⟩, _, hl1, hl8, rfl⟩

/-! ## Tokens written as documented -/

/-- The parts of the documented shape. -/
def KeyTexts.parts (t : KeyTexts) : List (List Char) :=
  ["idx=".toList ++ t.idx, "seed=".toList ++ t.seed,
    "params=".toList ++ ("k=".toList ++ t.k ++ ',' :: ("l=".toList ++ t.l))]

/-- The numerals are plain and nothing is white space. -/
structure KeyTexts.Plain (t : KeyTexts) : Prop where
  idx : IsNumeral t.idx
  seed : ∀ c ∈ t.seed, isJsSpace c = false
  k : IsNumeral t.k
  l : IsNumeral t.l

theorem plainlyWritten_iff {s : String} :
    PlainlyWritten s ↔ ∃ t : KeyTexts, bodyParts s = t.parts ∧ t.Plain := by
  constructor
  · rintro ⟨idx, seed, k, l, hparts, hidx, hseed, hk, hl⟩
    exact ⟨⟨idx, seed, k, l⟩, hparts, hidx, hseed, hk, hl⟩
  · rintro ⟨t, hparts, hplain⟩
    exact ⟨t.idx, t.seed, t.k, t.l, hparts, hplain.idx, hplain.seed, hplain.k, hplain.l⟩

theorem token_eq_intercalate (t : KeyTexts) :
    t.token = "MLDSA-PUB:".toList ++ [';'].intercalate t.parts := by
  have hidx : "MLDSA-PUB:idx=".toList = "MLDSA-PUB:".toList ++ "idx=".toList := by decide
  have hseed : ";seed=".toList = [';'] ++ "seed=".toList := by decide
  have hk : ";params=k=".toList = [';'] ++ "params=".toList ++ "k=".toList := by decide
  have hl : ",l=".toList = [','] ++ "l=".toList := by decide
  unfold KeyTexts.token KeyTexts.parts
  rw [hidx, hseed, hk, hl, List.intercalate_cons_cons, List.intercalate_cons_cons,
    List.intercalate_singleton]
  simp only [List.append_assoc, List.cons_append, List.nil_append]

variable {s : String} {t : KeyTexts}

theorem not_hex_of_space {c : Char} (h : isJsSpace c = true) : (hexDigit? c).isSome = false := by
  rw [Option.isSome_eq_false_iff, Option.isNone_iff_eq_none]
  unfold isJsSpace at h
  simp only [List.mem_cons, List.not_mem_nil, or_false, Bool.or_eq_true, decide_eq_true_eq,
    Bool.and_eq_true] at h
  have hrange (lo hi : Char) : lo ≤ c ∧ c ≤ hi ↔ lo.toNat ≤ c.toNat ∧ c.toNat ≤ hi.toNat :=
    Iff.rfl
  unfold hexDigit?
  rw [if_neg, if_neg, if_neg]
  · rw [hrange, show 'A'.toNat = 65 from rfl, show 'F'.toNat = 70 from rfl]
    omega
  · rw [hrange, show 'a'.toNat = 97 from rfl, show 'f'.toNat = 102 from rfl]
    omega
  · rw [hrange, show '0'.toNat = 48 from rfl, show '9'.toNat = 57 from rfl]
    omega

theorem isHex_all (h : isHex (String.ofList t.seed) = true) :
    ∀ c ∈ t.seed, (hexDigit? c).isSome = true := by
  rw [isHex, Bool.and_eq_true, String.toList_ofList, List.all_eq_true] at h
  exact h.1

theorem HasTokenShape.plain (h : HasTokenShape s t) : t.Plain where
  idx := h.idx
  seed c hc := by
    rw [← Bool.not_eq_true]
    intro hspace
    have hhex := isHex_all h.inRange.seed.2 c hc
    rw [not_hex_of_space hspace] at hhex
    cases hhex
  k := h.k
  l := h.l

theorem HasTokenShape.bodyParts (h : HasTokenShape s t) : bodyParts s = t.parts := by
  have happend {start cs : List Char} (hstart : ';' ∉ start) (hcs : ';' ∉ cs) :
      ';' ∉ start ++ cs := by
    rw [List.mem_append, not_or]
    exact ⟨hstart, hcs⟩
  have hseed : ';' ∉ t.seed := by
    intro hmem
    have := isHex_all h.inRange.seed.2 _ hmem
    revert this
    decide
  have hparts : ∀ p ∈ t.parts, ';' ∉ p := by
    unfold KeyTexts.parts
    simp only [List.forall_mem_cons, List.not_mem_nil, false_imp_iff, implies_true, and_true]
    refine ⟨happend (by decide) (h.idx.notMem (by decide)), happend (by decide) hseed,
      happend (by decide) (happend (happend (by decide) (h.k.notMem (by decide))) ?_)⟩
    rw [List.mem_cons, not_or]
    exact ⟨by decide, happend (by decide) (h.l.notMem (by decide))⟩
  rw [Merkle.bodyParts, h.token, token_eq_intercalate, sliceAfter_append,
    List.splitOn_intercalate ';' hparts (List.cons_ne_nil _ _)]

theorem loopParts_of_plain (hparts : bodyParts s = t.parts) (h : t.Plain) :
    loopParts s = t.parts := by
  have hparams : ∀ c ∈ "k=".toList ++ t.k ++ ',' :: ("l=".toList ++ t.l),
      isJsSpace c = false := by
    intro c hc
    rw [List.mem_append, List.mem_append, List.mem_cons, List.mem_append] at hc
    have hk : ∀ c ∈ "k=".toList, isJsSpace c = false := List.all_iff_forall_prop.1 rfl
    have hl : ∀ c ∈ "l=".toList, isJsSpace c = false := List.all_iff_forall_prop.1 rfl
    rcases hc with (hc | hc) | rfl | hc | hc
    · exact hk c hc
    · exact h.k.not_space c hc
    · rfl
    · exact hl c hc
    · exact h.l.not_space c hc
  have hbody : (sliceAfter "MLDSA-PUB:" (trimChars s.toList)).splitOn ';' = t.parts := hparts
  rw [loopParts, trimmedPieces, hbody, KeyTexts.parts, List.map_cons, List.map_cons,
    List.map_singleton, trimChars_append (List.all_iff_forall_prop.1 rfl) h.idx.not_space,
    trimChars_append (List.all_iff_forall_prop.1 rfl) h.seed,
    trimChars_append (List.all_iff_forall_prop.1 rfl) hparams]
  rfl

theorem isParamsPart_texts (h : t.Plain) :
    IsParamsPart ("params=".toList ++ ("k=".toList ++ t.k ++ ',' :: ("l=".toList ++ t.l))) ↔
      (1 ≤ digitsValue 10 t.k ∧ digitsValue 10 t.k ≤ 8) ∧
        (1 ≤ digitsValue 10 t.l ∧ digitsValue 10 t.l ≤ 8) := by
  rw [isParamsPart_iff]
  constructor
  · rintro ⟨kl, hkl⟩
    obtain ⟨hk, hl, -⟩ := (paramsOf?_numerals h.k h.l).1 hkl
    exact ⟨hk, hl⟩
  · rintro ⟨hk, hl⟩
    exact ⟨_, (paramsOf?_numerals h.k h.l).2 ⟨hk, hl, rfl⟩⟩

/-- A part of a kind is the one that starts like it. -/
theorem parts_of_kind (h : (∀ p ∈ t.parts, IsKeyPart p) ∧ (∃ p ∈ t.parts, IsIndexPart p) ∧
      (∃ p ∈ t.parts, IsSeedPart p) ∧ ∃ p ∈ t.parts, IsParamsPart p) :
    IsIndexPart ("idx=".toList ++ t.idx) ∧ IsSeedPart ("seed=".toList ++ t.seed) ∧
      IsParamsPart ("params=".toList ++ ("k=".toList ++ t.k ++ ',' :: ("l=".toList ++ t.l))) := by
  obtain ⟨hall, -, -, -⟩ := h
  simp only [KeyTexts.parts, List.forall_mem_cons] at hall
  obtain ⟨hidx, hseed, hparams, -⟩ := hall
  have hnot {p : List Char} {c : Char} (hp : p.head? = some c) := not_part_of_head hp
  refine ⟨hidx.resolve_right ?_, (hseed.resolve_left ?_).resolve_right ?_,
    (hparams.resolve_left ?_).resolve_left ?_⟩
  · rw [not_or]
    exact ⟨(hnot rfl).2.1 (by decide), (hnot rfl).2.2 (by decide)⟩
  · exact (hnot rfl).1 (by decide)
  · exact (hnot rfl).2.2 (by decide)
  · exact (hnot rfl).1 (by decide)
  · exact (hnot rfl).2.1 (by decide)

/-- A plainly written token is read when its values are in range. -/
theorem readable_iff_inRange (hparts : bodyParts s = t.parts) (h : t.Plain) :
    Readable s ↔ startsWith "MLDSA-PUB:" (trimChars s.toList) = true ∧ t.InRange := by
  rw [readable_iff_loopParts, loopParts_of_plain hparts h]
  constructor
  · rintro ⟨hstart, hkinds⟩
    obtain ⟨hidx, hseed, hparams⟩ := parts_of_kind hkinds
    have hkl := (isParamsPart_texts h).1 hparams
    exact ⟨hstart, (isIndexPart_numeral h.idx).1 hidx, isSeedPart_append.1 hseed, hkl.1, hkl.2⟩
  · rintro ⟨hstart, hrange⟩
    have hidx := (isIndexPart_numeral h.idx).2 hrange.idx
    have hseed := isSeedPart_append.2 hrange.seed
    have hparams := (isParamsPart_texts h).2 ⟨hrange.k, hrange.l⟩
    simp only [KeyTexts.parts, List.forall_mem_cons, List.exists_mem_cons_iff]
    exact ⟨hstart, ⟨.inl hidx, .inr (.inl hseed), .inr (.inr hparams), by simp⟩, .inl hidx,
      .inr (.inl hseed), .inr (.inr (.inl hparams))⟩

theorem HasTokenShape.start (h : HasTokenShape s t) :
    startsWith "MLDSA-PUB:" (trimChars s.toList) = true := by
  rw [h.token, token_eq_intercalate]
  exact startsWith_append _ _

/-- The documented tokens are the readable ones that are plainly written. -/
theorem exists_hasTokenShape_iff {s : String} :
    (∃ t, HasTokenShape s t) ↔ Readable s ∧ PlainlyWritten s := by
  rw [plainlyWritten_iff]
  constructor
  · rintro ⟨t, h⟩
    exact ⟨(readable_iff_inRange h.bodyParts h.plain).2 ⟨h.start, h.inRange⟩, t, h.bodyParts,
      h.plain⟩
  · rintro ⟨hreadable, t, hparts, hplain⟩
    obtain ⟨hstart, hrange⟩ := (readable_iff_inRange hparts hplain).1 hreadable
    obtain ⟨body, hbody⟩ := startsWith_iff.1 hstart
    refine ⟨t, ?_, hplain.idx, hplain.k, hplain.l, hrange⟩
    rw [token_eq_intercalate, ← hparts, Merkle.bodyParts, List.intercalate_splitOn, hbody,
      sliceAfter_append]

/-- A token of the documented shape is read as its values. -/
theorem parse_of_hasTokenShape (h : HasTokenShape s t) :
    ∃ key, parseMLDSAPublicKey s = some key ∧ Denotes key t := by
  have hloop := loopParts_of_plain h.bodyParts h.plain
  have hidx : indexOf? t.idx = some (.ofInt (digitsValue 10 t.idx)) :=
    indexOf?_eq_some.2
      ⟨(stringToNumber_numeral h.idx h.inRange.idx).2 rfl, _, h.inRange.idx, rfl⟩
  have hseed : seedOf? t.seed = some ⟨String.ofList t.seed, h.inRange.seed.2⟩ :=
    seedOf?_eq_some.2 ⟨rfl, h.inRange.seed.1⟩
  have hparams := (paramsOf?_numerals h.k h.l).2 ⟨h.inRange.k, h.inRange.l, rfl⟩
  have hlength : 3 ≤ (loopParts s).length := by
    rw [hloop]
    exact le_rfl
  have hread : readParts .none (loopParts s) = some ⟨some (.ofInt (digitsValue 10 t.idx)),
      some ⟨String.ofList t.seed, h.inRange.seed.2⟩, some (.ofInt (digitsValue 10 t.k)),
      some (.ofInt (digitsValue 10 t.l))⟩ := by
    rw [hloop, KeyTexts.parts, readParts, readPart_idx, hidx, Option.map_some, Option.bind_some,
      readParts, readPart_seed, hseed, Option.map_some, Option.bind_some, readParts,
      readPart_params, hparams, Option.map_some, Option.bind_some]
    rfl
  exact ⟨⟨String.ofList (trimChars s.toList), _, _, _, _⟩,
    parse_eq_some.2 ⟨h.start, hlength, hread, rfl⟩, by rw [h.token], rfl, rfl, rfl, rfl⟩

/-! ## Strict parsing -/

/-- Keys are returned for the documented tokens alone, with the values written. -/
def StrictlyParsed (s : String) : Prop :=
  ((parseMLDSAPublicKey s).isSome = true ↔ ∃ t, HasTokenShape s t) ∧
    ∀ t, HasTokenShape s t → ∃ key, parseMLDSAPublicKey s = some key ∧ Denotes key t

/-- A token is parsed strictly unless it is readable without being plainly written. -/
theorem strictlyParsed_iff (s : String) :
    StrictlyParsed s ↔ (Readable s → PlainlyWritten s) := by
  have hvalues : ∀ t, HasTokenShape s t → ∃ key, parseMLDSAPublicKey s = some key ∧ Denotes key t :=
    fun t ht => parse_of_hasTokenShape ht
  rw [StrictlyParsed, isSome_parse_iff, exists_hasTokenShape_iff]
  constructor
  · rintro ⟨hiff, -⟩ hreadable
    exact (hiff.1 hreadable).2
  · intro h
    exact ⟨⟨fun hreadable => ⟨hreadable, h hreadable⟩, And.left⟩, hvalues⟩

/-- The index is given twice. -/
def repeatedIndexToken : String := "MLDSA-PUB:idx=1;idx=2;seed=ab;params=k=2,l=2"

/-- The second index is taken. -/
theorem repeatedIndex_parsed :
    (parseMLDSAPublicKey repeatedIndexToken).map (·.idx) = some (.ofInt 2) ∧
      ¬StrictlyParsed repeatedIndexToken := by
  have hparse : (parseMLDSAPublicKey repeatedIndexToken).map (·.idx) = some (.ofInt 2) := by
    decide +kernel
  refine ⟨hparse, fun hstrict => ?_⟩
  obtain ⟨key, hkey, -⟩ := Option.map_eq_some_iff.1 hparse
  obtain ⟨t, ht⟩ := hstrict.1.1 (Option.isSome_iff_exists.2 ⟨key, hkey⟩)
  have hlength : (bodyParts repeatedIndexToken).length = 3 := congrArg List.length ht.bodyParts
  revert hlength
  decide

end UniverEscrow.Merkle
