import UniverEscrow.Js.Hex
import UniverEscrow.Js.Numeral

/-!
# ML-DSA public key tokens

The documented shape is `MLDSA-PUB:idx=<n>;seed=<hex>;params=k=<n>,l=<n>`.  The parser reads the
parts of a token one after the other, takes them in any order and lets a later one of a kind
replace an earlier one.
-/

namespace UniverEscrow.Merkle

open UniverEscrow.Js

def isHex (s : String) : Bool :=
  s.toList.all (fun c => (hexDigit? c).isSome) && s.toList.length % 2 = 0

structure HexLike where
  text : String
  isHex : isHex text = true
deriving DecidableEq

structure MLDSAPublicKey where
  token : String
  idx : JsNumber
  seedHex : HexLike
  k : JsNumber
  l : JsNumber
deriving DecidableEq

/-! ## The parser -/

def parseHexLike (s : String) : Option HexLike :=
  if h : isHex s = true then some ⟨s, h⟩ else none

def startsWith (start : String) (text : List Char) : Bool := start.toList.isPrefixOf text

/-- `text.slice(start.length)`. -/
def sliceAfter (start : String) (text : List Char) : List Char := text.drop start.toList.length

/-- `text.split(separator).map(trim).filter(Boolean)`. -/
def trimmedPieces (separator : Char) (text : List Char) : List (List Char) :=
  ((text.splitOn separator).map trimChars).filter (· ≠ [])

def indexOf? (text : List Char) : Option JsNumber :=
  let v := stringToNumber (String.ofList text)
  if !v.isInteger || v.lt (.ofInt 0) || (JsNumber.ofInt 1000000).lt v then none else some v

/-- The empty text is hexadecimal, and falsy. -/
def seedOf? (text : List Char) : Option HexLike :=
  (parseHexLike (String.ofList text)).filter (·.text ≠ "")

def paramsInRange? (kVal lVal : JsNumber) : Option (JsNumber × JsNumber) :=
  if !kVal.isInteger || !lVal.isInteger then none
  else if kVal.le (.ofInt 0) || lVal.le (.ofInt 0) || (JsNumber.ofInt 8).lt kVal ||
      (JsNumber.ofInt 8).lt lVal then none
  else some (kVal, lVal)

def paramsOf? (params : List Char) : Option (JsNumber × JsNumber) :=
  let kv := trimmedPieces ',' params
  match kv.find? (startsWith "k="), kv.find? (startsWith "l=") with
  | some kPart, some lPart =>
      paramsInRange? (stringToNumber (String.ofList (sliceAfter "k=" kPart)))
        (stringToNumber (String.ofList (sliceAfter "l=" lPart)))
  | _, _ => none

/-- The variables of the loop over the parts. -/
structure FoundFields where
  idx : Option JsNumber
  seedHex : Option HexLike
  k : Option JsNumber
  l : Option JsNumber

def FoundFields.none : FoundFields := ⟨.none, .none, .none, .none⟩

def readPart (found : FoundFields) (p : List Char) : Option FoundFields :=
  if startsWith "idx=" p then
    (indexOf? (sliceAfter "idx=" p)).map fun v => { found with idx := some v }
  else if startsWith "seed=" p then
    (seedOf? (sliceAfter "seed=" p)).map fun h => { found with seedHex := some h }
  else if startsWith "params=" p then
    (paramsOf? (sliceAfter "params=" p)).map fun kl =>
      { found with k := some kl.1, l := some kl.2 }
  else none

def readParts : FoundFields → List (List Char) → Option FoundFields
  | found, [] => some found
  | found, p :: ps => (readPart found p).bind fun found => readParts found ps

def parseMLDSAPublicKey (token : String) : Option MLDSAPublicKey := do
  let trimmed := trimChars token.toList
  if !startsWith "MLDSA-PUB:" trimmed then none
  else
    let parts := trimmedPieces ';' (sliceAfter "MLDSA-PUB:" trimmed)
    if parts.length < 3 then none
    else
      let found ← readParts .none parts
      return {
        token := String.ofList trimmed
        idx := ← found.idx
        seedHex := ← found.seedHex
        k := ← found.k
        l := ← found.l }

/-! ## What the loop takes -/

def IsIndexPart (p : List Char) : Prop :=
  ∃ text n, p = "idx=".toList ++ text ∧ n ≤ 1000000 ∧
    stringToNumber (String.ofList text) = .ofInt (n : ℕ)

def IsSeedPart (p : List Char) : Prop :=
  ∃ text, p = "seed=".toList ++ text ∧ text ≠ [] ∧ isHex (String.ofList text) = true

/-- The first piece for `k` and the first piece for `l` count. -/
def IsParamsPart (p : List Char) : Prop :=
  ∃ params kText lText k l, p = "params=".toList ++ params ∧
    (trimmedPieces ',' params).find? (startsWith "k=") = some ("k=".toList ++ kText) ∧
    (trimmedPieces ',' params).find? (startsWith "l=") = some ("l=".toList ++ lText) ∧
    1 ≤ k ∧ k ≤ 8 ∧ stringToNumber (String.ofList kText) = .ofInt (k : ℕ) ∧
    1 ≤ l ∧ l ≤ 8 ∧ stringToNumber (String.ofList lText) = .ofInt (l : ℕ)

theorem startsWith_iff {start : String} {p : List Char} :
    startsWith start p = true ↔ ∃ text, p = start.toList ++ text := by
  rw [startsWith, List.isPrefixOf_iff_prefix]
  constructor
  · rintro ⟨text, rfl⟩
    exact ⟨text, rfl⟩
  · rintro ⟨text, rfl⟩
    exact List.prefix_append _ _

@[simp] theorem sliceAfter_append (start : String) (text : List Char) :
    sliceAfter start (start.toList ++ text) = text :=
  List.drop_left

theorem indexOf?_eq_some {text : List Char} {v : JsNumber} :
    indexOf? text = some v ↔ stringToNumber (String.ofList text) = v ∧
      ∃ n : ℕ, n ≤ 1000000 ∧ v = .ofInt n := by
  have hbetween := JsNumber.isInteger_between_iff (v := v) (Nat.zero_le 1000000) (by norm_num)
  simp only [Nat.zero_le, true_and] at hbetween
  rw [← hbetween, indexOf?]
  generalize stringToNumber (String.ofList text) = w
  push_cast
  constructor
  · intro h
    split_ifs at h with hout
    obtain rfl := Option.some.inj h
    simpa only [Bool.or_eq_true, Bool.not_eq_true', not_or, Bool.not_eq_false, Bool.not_eq_true,
      and_assoc, true_and] using hout
  · rintro ⟨rfl, hinteger, hlow, hhigh⟩
    simp [hinteger, hlow, hhigh]

theorem seedOf?_eq_some {text : List Char} {h : HexLike} :
    seedOf? text = some h ↔ h.text = String.ofList text ∧ text ≠ [] := by
  have hempty : String.ofList text ≠ "" ↔ text ≠ [] := by
    rw [ne_eq, ← String.toList_inj, String.toList_ofList]
    rfl
  rw [← hempty, seedOf?, Option.filter_eq_some_iff, parseHexLike, decide_eq_true_iff]
  constructor
  · rintro ⟨hparse, hne⟩
    split_ifs at hparse
    cases hparse
    exact ⟨rfl, hne⟩
  · rintro ⟨htext, hne⟩
    obtain ⟨chars, hhex⟩ := h
    obtain rfl : chars = String.ofList text := htext
    exact ⟨dif_pos hhex, hne⟩

theorem paramsInRange?_eq_some {v w : JsNumber} {kl : JsNumber × JsNumber} :
    paramsInRange? v w = some kl ↔ kl = (v, w) ∧
      (∃ k : ℕ, 1 ≤ k ∧ k ≤ 8 ∧ v = .ofInt k) ∧ ∃ l : ℕ, 1 ≤ l ∧ l ≤ 8 ∧ w = .ofInt l := by
  rw [← JsNumber.isInteger_between_iff (by norm_num) (by norm_num),
    ← JsNumber.isInteger_between_iff (by norm_num) (by norm_num), paramsInRange?]
  constructor
  · intro h
    split_ifs at h with hinteger hrange
    simp only [Bool.or_eq_true, Bool.not_eq_true', not_or, Bool.not_eq_false, Bool.not_eq_true]
      at hinteger hrange
    rw [JsNumber.le_zero_of_isInteger hinteger.1, JsNumber.le_zero_of_isInteger hinteger.2]
      at hrange
    exact ⟨(Option.some.inj h).symm, ⟨hinteger.1, hrange.1.1.1, hrange.1.2⟩, hinteger.2,
      hrange.1.1.2, hrange.2⟩
  · rintro ⟨rfl, ⟨hvi, hv0, hv8⟩, hwi, hw0, hw8⟩
    push_cast at hv0 hv8 hw0 hw8
    simp [hvi, hwi, JsNumber.le_zero_of_isInteger hvi, JsNumber.le_zero_of_isInteger hwi, hv0,
      hv8, hw0, hw8]

theorem find?_startsWith {start : String} {pieces : List (List Char)} {piece : List Char}
    (h : pieces.find? (startsWith start) = some piece) :
    piece = start.toList ++ sliceAfter start piece := by
  obtain ⟨text, rfl⟩ := startsWith_iff.1 (List.find?_some h)
  rw [sliceAfter_append]

theorem paramsOf?_eq_some {params : List Char} {kl : JsNumber × JsNumber} :
    paramsOf? params = some kl ↔ ∃ kText lText,
      (trimmedPieces ',' params).find? (startsWith "k=") = some ("k=".toList ++ kText) ∧
      (trimmedPieces ',' params).find? (startsWith "l=") = some ("l=".toList ++ lText) ∧
      paramsInRange? (stringToNumber (String.ofList kText))
        (stringToNumber (String.ofList lText)) = some kl := by
  unfold paramsOf?
  dsimp only
  constructor
  · intro h
    split at h
    · rename_i kPart lPart hk hl
      exact ⟨_, _, hk.trans (congrArg some (find?_startsWith hk)),
        hl.trans (congrArg some (find?_startsWith hl)), h⟩
    · cases h
  · rintro ⟨kText, lText, hk, hl, h⟩
    rw [hk, hl]
    dsimp only
    rw [sliceAfter_append, sliceAfter_append]
    exact h

theorem IsIndexPart.head {p : List Char} (h : IsIndexPart p) : p.head? = some 'i' := by
  obtain ⟨text, n, rfl, -⟩ := h
  rfl

theorem IsSeedPart.head {p : List Char} (h : IsSeedPart p) : p.head? = some 's' := by
  obtain ⟨text, rfl, -⟩ := h
  rfl

theorem IsParamsPart.head {p : List Char} (h : IsParamsPart p) : p.head? = some 'p' := by
  obtain ⟨params, kText, lText, k, l, rfl, -⟩ := h
  rfl

/-- The first character tells the kind. -/
theorem not_part_of_head {p : List Char} {c : Char} (h : p.head? = some c) :
    (c ≠ 'i' → ¬IsIndexPart p) ∧ (c ≠ 's' → ¬IsSeedPart p) ∧ (c ≠ 'p' → ¬IsParamsPart p) := by
  refine ⟨fun hne hpart => hne ?_, fun hne hpart => hne ?_, fun hne hpart => hne ?_⟩
  · exact Option.some.inj (h.symm.trans hpart.head)
  · exact Option.some.inj (h.symm.trans hpart.head)
  · exact Option.some.inj (h.symm.trans hpart.head)

theorem isIndexPart_iff {text : List Char} :
    IsIndexPart ("idx=".toList ++ text) ↔ ∃ v, indexOf? text = some v := by
  constructor
  · rintro ⟨text', n, heq, hn, hnumber⟩
    rw [List.append_cancel_left heq]
    exact ⟨_, indexOf?_eq_some.2 ⟨hnumber, n, hn, rfl⟩⟩
  · rintro ⟨v, hv⟩
    obtain ⟨hnumber, n, hn, rfl⟩ := indexOf?_eq_some.1 hv
    exact ⟨text, n, rfl, hn, hnumber⟩

theorem isSeedPart_iff {text : List Char} :
    IsSeedPart ("seed=".toList ++ text) ↔ ∃ h, seedOf? text = some h := by
  constructor
  · rintro ⟨text', heq, hne, hhex⟩
    rw [List.append_cancel_left heq]
    exact ⟨⟨_, hhex⟩, seedOf?_eq_some.2 ⟨rfl, hne⟩⟩
  · rintro ⟨h, hseed⟩
    obtain ⟨htext, hne⟩ := seedOf?_eq_some.1 hseed
    exact ⟨text, rfl, hne, htext ▸ h.isHex⟩

theorem isParamsPart_iff {params : List Char} :
    IsParamsPart ("params=".toList ++ params) ↔ ∃ kl, paramsOf? params = some kl := by
  constructor
  · rintro ⟨params', kText, lText, k, l, heq, hk, hl, hk1, hk8, hkn, hl1, hl8, hln⟩
    rw [List.append_cancel_left heq]
    exact ⟨_, paramsOf?_eq_some.2 ⟨kText, lText, hk, hl,
      paramsInRange?_eq_some.2 ⟨rfl, ⟨k, hk1, hk8, hkn⟩, l, hl1, hl8, hln⟩⟩⟩
  · rintro ⟨kl, hkl⟩
    obtain ⟨kText, lText, hk, hl, hrange⟩ := paramsOf?_eq_some.1 hkl
    obtain ⟨-, ⟨k, hk1, hk8, hkn⟩, l, hl1, hl8, hln⟩ := paramsInRange?_eq_some.1 hrange
    exact ⟨params, kText, lText, k, l, rfl, hk, hl, hk1, hk8, hkn, hl1, hl8, hln⟩

/-! ## The loop -/

def IsKeyPart (p : List Char) : Prop := IsIndexPart p ∨ IsSeedPart p ∨ IsParamsPart p

theorem startsWith_append (start : String) (text : List Char) :
    startsWith start (start.toList ++ text) = true :=
  startsWith_iff.2 ⟨text, rfl⟩

theorem readPart_idx (found : FoundFields) (text : List Char) :
    readPart found ("idx=".toList ++ text) =
      (indexOf? text).map fun v => { found with idx := some v } := by
  rw [readPart, if_pos (startsWith_append _ _), sliceAfter_append]

theorem readPart_seed (found : FoundFields) (text : List Char) :
    readPart found ("seed=".toList ++ text) =
      (seedOf? text).map fun h => { found with seedHex := some h } := by
  have hidx : ¬startsWith "idx=" ("seed=".toList ++ text) = true := by simp [startsWith]
  rw [readPart, if_neg hidx, if_pos (startsWith_append _ _), sliceAfter_append]

theorem readPart_params (found : FoundFields) (text : List Char) :
    readPart found ("params=".toList ++ text) =
      (paramsOf? text).map fun kl => { found with k := some kl.1, l := some kl.2 } := by
  have hidx : ¬startsWith "idx=" ("params=".toList ++ text) = true := by simp [startsWith]
  have hseed : ¬startsWith "seed=" ("params=".toList ++ text) = true := by simp [startsWith]
  rw [readPart, if_neg hidx, if_neg hseed, if_pos (startsWith_append _ _), sliceAfter_append]

/-- The kinds found after the parts are those found before and those of the parts. -/
structure Found (parts : List (List Char)) (before after : FoundFields) : Prop where
  part : ∀ p ∈ parts, IsKeyPart p
  idx : after.idx.isSome = true ↔ before.idx.isSome = true ∨ ∃ p ∈ parts, IsIndexPart p
  seedHex : after.seedHex.isSome = true ↔
    before.seedHex.isSome = true ∨ ∃ p ∈ parts, IsSeedPart p
  k : after.k.isSome = true ↔ before.k.isSome = true ∨ ∃ p ∈ parts, IsParamsPart p
  l : after.l.isSome = true ↔ before.l.isSome = true ∨ ∃ p ∈ parts, IsParamsPart p

theorem Found.nil (found : FoundFields) : Found [] found found := by
  constructor <;> simp

theorem Found.cons {p : List Char} {ps : List (List Char)} {a b c : FoundFields}
    (hp : Found [p] a b) (hps : Found ps b c) : Found (p :: ps) a c where
  part := List.forall_mem_cons.2 ⟨hp.part p List.mem_cons_self, hps.part⟩
  idx := by rw [hps.idx, hp.idx]; simp [or_assoc]
  seedHex := by rw [hps.seedHex, hp.seedHex]; simp [or_assoc]
  k := by rw [hps.k, hp.k]; simp [or_assoc]
  l := by rw [hps.l, hp.l]; simp [or_assoc]

theorem startsWith_of_readPart {found found' : FoundFields} {p : List Char}
    (h : readPart found p = some found') :
    (∃ text, p = "idx=".toList ++ text) ∨ (∃ text, p = "seed=".toList ++ text) ∨
      ∃ text, p = "params=".toList ++ text := by
  rw [← startsWith_iff, ← startsWith_iff, ← startsWith_iff]
  unfold readPart at h
  split_ifs at h with hidx hseed hparams
  · exact .inl hidx
  · exact .inr (.inl hseed)
  · exact .inr (.inr hparams)

/-- One turn of the loop. -/
theorem found_of_readPart {found found' : FoundFields} {p : List Char}
    (h : readPart found p = some found') : Found [p] found found' := by
  rcases startsWith_of_readPart h with ⟨text, rfl⟩ | ⟨text, rfl⟩ | ⟨text, rfl⟩
  · rw [readPart_idx, Option.map_eq_some_iff] at h
    obtain ⟨v, hv, rfl⟩ := h
    have hpart := isIndexPart_iff.2 ⟨v, hv⟩
    obtain ⟨-, hseed, hparams⟩ := not_part_of_head hpart.head
    generalize "idx=".toList ++ text = p at hpart hseed hparams ⊢
    constructor <;> simp [IsKeyPart, hpart, hseed (by decide), hparams (by decide)]
  · rw [readPart_seed, Option.map_eq_some_iff] at h
    obtain ⟨v, hv, rfl⟩ := h
    have hpart := isSeedPart_iff.2 ⟨v, hv⟩
    obtain ⟨hidx, -, hparams⟩ := not_part_of_head hpart.head
    generalize "seed=".toList ++ text = p at hpart hidx hparams ⊢
    constructor <;> simp [IsKeyPart, hpart, hidx (by decide), hparams (by decide)]
  · rw [readPart_params, Option.map_eq_some_iff] at h
    obtain ⟨kl, hkl, rfl⟩ := h
    have hpart := isParamsPart_iff.2 ⟨kl, hkl⟩
    obtain ⟨hidx, hseed, -⟩ := not_part_of_head hpart.head
    generalize "params=".toList ++ text = p at hpart hidx hseed ⊢
    constructor <;> simp [IsKeyPart, hpart, hidx (by decide), hseed (by decide)]

theorem exists_readPart {p : List Char} (h : IsKeyPart p) (found : FoundFields) :
    ∃ found', readPart found p = some found' := by
  rcases h with h | h | h
  · obtain ⟨text, -, rfl, -⟩ := id h
    obtain ⟨v, hv⟩ := isIndexPart_iff.1 h
    exact ⟨_, by rw [readPart_idx, hv, Option.map_some]⟩
  · obtain ⟨text, rfl, -⟩ := id h
    obtain ⟨v, hv⟩ := isSeedPart_iff.1 h
    exact ⟨_, by rw [readPart_seed, hv, Option.map_some]⟩
  · obtain ⟨params, -, -, -, -, rfl, -⟩ := id h
    obtain ⟨kl, hkl⟩ := isParamsPart_iff.1 h
    exact ⟨_, by rw [readPart_params, hkl, Option.map_some]⟩

/-- All turns of the loop. -/
theorem found_of_readParts {parts : List (List Char)} {found found' : FoundFields}
    (h : readParts found parts = some found') : Found parts found found' := by
  induction parts generalizing found with
  | nil =>
      cases h
      exact .nil _
  | cons p ps ih =>
      obtain ⟨next, hnext, hrest⟩ := Option.bind_eq_some_iff.1 h
      exact (found_of_readPart hnext).cons (ih hrest)

theorem exists_readParts {parts : List (List Char)} (h : ∀ p ∈ parts, IsKeyPart p)
    (found : FoundFields) : ∃ found', readParts found parts = some found' := by
  induction parts generalizing found with
  | nil => exact ⟨found, rfl⟩
  | cons p ps ih =>
      obtain ⟨hp, hps⟩ := List.forall_mem_cons.1 h
      obtain ⟨next, hnext⟩ := exists_readPart hp found
      obtain ⟨found', hrest⟩ := ih hps next
      exact ⟨found', by rw [readParts, hnext, Option.bind_some, hrest]⟩

end UniverEscrow.Merkle
