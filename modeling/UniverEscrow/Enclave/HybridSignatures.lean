import UniverEscrow.Enclave.EnclaveBridgeService
import UniverEscrow.Merkle.KeyTokenShape
import UniverEscrow.Middleware.IntegrityMiddleware

/-!
# Hybrid signatures

A payload passes with a classical signature and a mock ML-DSA one.  The latter is a digest over
public data, so whoever reads the public key can write it: the hybrid check is as strong as its
classical half.
-/

namespace UniverEscrow.Merkle

open UniverEscrow.Js

/-- `createHash('sha256')` over bytes. -/
abbrev ByteSha256 := Bytes → Vector UInt8 32

/-- No two different byte lists of the list share a digest. -/
def ByteCollisionFreeOn (digest : ByteSha256) (hashed : List Bytes) : Prop :=
  ∀ a ∈ hashed, ∀ b ∈ hashed, digest a = digest b → a = b

structure PQCVerificationResult where
  ok : Bool
  scrubbedBytes : ℕ
deriving DecidableEq

/-! ## Signature tokens -/

/-- The variables of the loop over the parts of a signature token. -/
structure FoundSignature where
  sigIdx : Option JsNumber
  sigHex : Option HexLike

def FoundSignature.none : FoundSignature := ⟨.none, .none⟩

def readSignaturePart (found : FoundSignature) (p : List Char) : Option FoundSignature :=
  if startsWith "idx=" p then
    (indexOf? (sliceAfter "idx=" p)).map fun v => { found with sigIdx := some v }
  else if startsWith "sig=" p then
    (seedOf? (sliceAfter "sig=" p)).map fun h => { found with sigHex := some h }
  else none

def readSignatureParts : FoundSignature → List (List Char) → Option FoundSignature
  | found, [] => some found
  | found, p :: ps => (readSignaturePart found p).bind fun found => readSignatureParts found ps

/-- The index and the digits of a token `MLDSA-SIG:idx=<n>;sig=<hex>`. -/
def readSignature (pqcSignature : String) : Option (JsNumber × HexLike) := do
  let trimmed := trimChars pqcSignature.toList
  if !startsWith "MLDSA-SIG:" trimmed then none
  else
    let parts := trimmedPieces ';' (sliceAfter "MLDSA-SIG:" trimmed)
    if parts.length ≠ 2 then none
    else
      let found ← readSignatureParts .none parts
      return (← found.sigIdx, ← found.sigHex)

/-! ## The commitment -/

/-- The turns of `for (let i = 0; i < n; i++)`; the parameters of a key are small integers. -/
def loopBound : JsNumber → ℕ
  | .fin x => ⌈x.val⌉.toNat
  | _ => 0

/-- An index into no bytes is `NaN`, and so is the sum. -/
def coefficient (messageHashBytes : Bytes) (exp : ℕ) : UInt8 :=
  match messageHashBytes[(exp - 1) % messageHashBytes.length]? with
  | some b => b + UInt8.ofNat exp
  | none => 0

def matrixBytes (messageHashBytes : Bytes) (k l : ℕ) : Bytes :=
  (List.range k).flatMap fun i => (List.range l).map fun j =>
    coefficient messageHashBytes ((i + 1) * (j + 1))

def commitmentInput (messageHashBytes : Bytes) (publicKey : MLDSAPublicKey) : Bytes :=
  matrixBytes messageHashBytes (loopBound publicKey.k) (loopBound publicKey.l) ++
    messageHashBytes ++ bytesOfHex publicKey.seedHex.text

def constantTimeEqual (a b : Bytes) : Bool :=
  if a.length ≠ b.length then false
  else (List.zipWith (· ^^^ ·) a b).foldl (· ||| ·) 0 = 0

def verifyMockMLDSA (digest : ByteSha256) (messageHashHex pqcSignature : String)
    (publicKey : MLDSAPublicKey) : PQCVerificationResult :=
  match readSignature pqcSignature with
  | none => ⟨false, 0⟩
  | some (sigIdx, sigHex) =>
      if sigIdx ≠ publicKey.idx then ⟨false, 0⟩
      else
        let messageHashBytes := bytesOfHex messageHashHex
        let commitmentHash := (digest (commitmentInput messageHashBytes publicKey)).toList
        let expectedSigBytes := bytesOfHex sigHex.text
        if expectedSigBytes.length ≠ commitmentHash.length then ⟨false, 0⟩
        else
          ⟨constantTimeEqual commitmentHash expectedSigBytes, messageHashBytes.length +
            loopBound publicKey.k * loopBound publicKey.l + commitmentHash.length⟩

/-! ### Comparing in constant time -/

theorem foldl_or_eq_zero {bytes : Bytes} {acc : UInt8} :
    bytes.foldl (· ||| ·) acc = 0 ↔ acc = 0 ∧ ∀ b ∈ bytes, b = 0 := by
  induction bytes generalizing acc with
  | nil => simp
  | cons b bytes ih =>
      rw [List.foldl_cons, ih, UInt8.or_eq_zero_iff, List.forall_mem_cons, and_assoc]

theorem constantTimeEqual_iff {a b : Bytes} : constantTimeEqual a b = true ↔ a = b := by
  rw [constantTimeEqual]
  split_ifs with hlength
  · exact iff_of_false id fun h => hlength (congrArg List.length h)
  · rw [decide_eq_true_iff, foldl_or_eq_zero]
    simp only [true_and]
    rw [not_not] at hlength
    induction a generalizing b with
    | nil =>
        obtain rfl := List.length_eq_zero_iff.1 hlength.symm
        simp
    | cons x a ih =>
        cases b with
        | nil => cases hlength
        | cons y b =>
            rw [List.zipWith_cons_cons, List.forall_mem_cons, ih (Nat.succ.inj hlength),
              UInt8.xor_eq_zero_iff, List.cons.injEq]

theorem verifyMockMLDSA_ok_iff {digest : ByteSha256} {messageHashHex pqcSignature : String}
    {publicKey : MLDSAPublicKey} :
    (verifyMockMLDSA digest messageHashHex pqcSignature publicKey).ok = true ↔
      ∃ sigHex, readSignature pqcSignature = some (publicKey.idx, sigHex) ∧
        bytesOfHex sigHex.text =
          (digest (commitmentInput (bytesOfHex messageHashHex) publicKey)).toList := by
  rw [verifyMockMLDSA]
  cases hread : readSignature pqcSignature with
  | none => simp
  | some found =>
      obtain ⟨sigIdx, sigHex⟩ := found
      by_cases hidx : sigIdx = publicKey.idx
      · subst hidx
        have hother : (∃ sigHex', some (publicKey.idx, sigHex) = some (publicKey.idx, sigHex') ∧
            bytesOfHex sigHex'.text =
              (digest (commitmentInput (bytesOfHex messageHashHex) publicKey)).toList) ↔
            bytesOfHex sigHex.text =
              (digest (commitmentInput (bytesOfHex messageHashHex) publicKey)).toList := by
          simp
        rw [hother]
        dsimp only
        rw [if_neg (not_not.2 rfl)]
        split_ifs with hlength
        · exact iff_of_false id fun h => hlength (congrArg List.length h)
        · exact constantTimeEqual_iff.trans eq_comm
      · simp [hidx]

/-! ### What a signature token says -/

def signatureParts (pqcSignature : String) : List (List Char) :=
  trimmedPieces ';' (sliceAfter "MLDSA-SIG:" (trimChars pqcSignature.toList))

theorem readSignaturePart_idx (found : FoundSignature) (text : List Char) :
    readSignaturePart found ("idx=".toList ++ text) =
      (indexOf? text).map fun v => { found with sigIdx := some v } := by
  rw [readSignaturePart, if_pos (startsWith_append _ _), sliceAfter_append]

theorem readSignaturePart_sig (found : FoundSignature) (text : List Char) :
    readSignaturePart found ("sig=".toList ++ text) =
      (seedOf? text).map fun h => { found with sigHex := some h } := by
  have hidx : ¬startsWith "idx=" ("sig=".toList ++ text) = true := by simp [startsWith]
  rw [readSignaturePart, if_neg hidx, if_pos (startsWith_append _ _), sliceAfter_append]

/-- One turn of the loop sets one of the variables. -/
theorem readSignaturePart_eq_some {found found' : FoundSignature} {p : List Char} :
    readSignaturePart found p = some found' ↔
      (∃ text v, p = "idx=".toList ++ text ∧ indexOf? text = some v ∧
        found' = { found with sigIdx := some v }) ∨
      ∃ text h, p = "sig=".toList ++ text ∧ seedOf? text = some h ∧
        found' = { found with sigHex := some h } := by
  constructor
  · intro hread
    by_cases hidx : startsWith "idx=" p = true
    · obtain ⟨text, rfl⟩ := startsWith_iff.1 hidx
      rw [readSignaturePart_idx, Option.map_eq_some_iff] at hread
      obtain ⟨v, hv, rfl⟩ := hread
      exact .inl ⟨text, v, rfl, hv, rfl⟩
    · by_cases hsig : startsWith "sig=" p = true
      · obtain ⟨text, rfl⟩ := startsWith_iff.1 hsig
        rw [readSignaturePart_sig, Option.map_eq_some_iff] at hread
        obtain ⟨h, hh, rfl⟩ := hread
        exact .inr ⟨text, h, rfl, hh, rfl⟩
      · rw [readSignaturePart, if_neg hidx, if_neg hsig] at hread
        cases hread
  · rintro (⟨text, v, rfl, hv, rfl⟩ | ⟨text, h, rfl, hh, rfl⟩)
    · rw [readSignaturePart_idx, hv, Option.map_some]
    · rw [readSignaturePart_sig, hh, Option.map_some]

/-- One part for the index and one for the digits, in either order. -/
def SignatureParts (parts : List (List Char)) (v : JsNumber) (h : HexLike) : Prop :=
  ∃ idxText sigText, indexOf? idxText = some v ∧ seedOf? sigText = some h ∧
    (parts = ["idx=".toList ++ idxText, "sig=".toList ++ sigText] ∨
      parts = ["sig=".toList ++ sigText, "idx=".toList ++ idxText])

theorem readSignatureParts_pair {p q : List Char} {v : JsNumber} {h : HexLike} :
    readSignatureParts .none [p, q] = some ⟨some v, some h⟩ ↔ SignatureParts [p, q] v h := by
  simp only [readSignatureParts, Option.bind_eq_some_iff, Option.some.injEq,
    exists_eq_right, FoundSignature.none, readSignaturePart_eq_some]
  constructor
  · rintro ⟨found, ⟨text, w, rfl, hw, rfl⟩ | ⟨text, g, rfl, hg, rfl⟩,
      ⟨text', w', rfl, hw', heq⟩ | ⟨text', g', rfl, hg', heq⟩⟩
    · cases heq
    · cases heq
      exact ⟨text, text', hw, hg', .inl rfl⟩
    · cases heq
      exact ⟨text', text, hw', hg, .inr rfl⟩
    · cases heq
  · rintro ⟨idxText, sigText, hv, hh, heq | heq⟩
    · obtain ⟨rfl, rfl⟩ : p = "idx=".toList ++ idxText ∧ q = "sig=".toList ++ sigText := by
        simpa using heq
      exact ⟨_, .inl ⟨idxText, v, rfl, hv, rfl⟩, .inr ⟨sigText, h, rfl, hh, rfl⟩⟩
    · obtain ⟨rfl, rfl⟩ : p = "sig=".toList ++ sigText ∧ q = "idx=".toList ++ idxText := by
        simpa using heq
      exact ⟨_, .inr ⟨sigText, h, rfl, hh, rfl⟩, .inl ⟨idxText, v, rfl, hv, rfl⟩⟩

/-- A token is read if it has one part of each kind, in either order, and no other. -/
theorem readSignature_eq_some {pqcSignature : String} {v : JsNumber} {h : HexLike} :
    readSignature pqcSignature = some (v, h) ↔
      startsWith "MLDSA-SIG:" (trimChars pqcSignature.toList) = true ∧
        SignatureParts (signatureParts pqcSignature) v h := by
  unfold readSignature
  change (if (!startsWith "MLDSA-SIG:" (trimChars pqcSignature.toList)) = true then none
    else if (signatureParts pqcSignature).length ≠ 2 then none else _) = some (v, h) ↔ _
  cases hstart : startsWith "MLDSA-SIG:" (trimChars pqcSignature.toList) with
  | false => simp
  | true =>
      by_cases hlength : (signatureParts pqcSignature).length = 2
      · obtain ⟨p, q, hparts⟩ := List.length_eq_two.1 hlength
        simp only [Bool.not_true, Bool.false_eq_true, if_false, hlength, ne_eq, not_true_eq_false,
          true_and]
        change (readSignatureParts .none (signatureParts pqcSignature)).bind _ = some (v, h) ↔ _
        rw [hparts, ← readSignatureParts_pair]
        cases hread : readSignatureParts .none [p, q] with
        | none => simp
        | some found =>
            obtain ⟨sigIdx, sigHex⟩ := found
            cases sigIdx <;> cases sigHex <;> simp
      · have hparts : ¬SignatureParts (signatureParts pqcSignature) v h := by
          rintro ⟨idxText, sigText, -, -, heq | heq⟩
          · exact hlength (congrArg List.length heq)
          · exact hlength (congrArg List.length heq)
        simp [hlength, hparts]

/-! ### Writing a signature token -/

/-- The token of a digest under an index, as documented. -/
def signatureToken (idx : JsNumber) (bytes : Bytes) : String :=
  "MLDSA-SIG:idx=" ++ idx.toText ++ ";sig=" ++ hexOfBytes bytes

theorem hexDigit?_of_mem_hexPair {b : UInt8} {c : Char} (h : c ∈ hexPair b) :
    (hexDigit? c).isSome = true := by
  have hb := b.toNat_lt
  have hdigit {d : ℕ} (hd : d < 16) : (hexDigit? (Nat.digitChar d)).isSome = true := by
    rw [hexDigit?_digitChar d hd]
    rfl
  simp only [hexPair, List.mem_cons, List.not_mem_nil, or_false] at h
  rcases h with rfl | rfl
  · exact hdigit (by omega)
  · exact hdigit (by omega)

theorem hexDigit?_of_mem {bytes : Bytes} {c : Char} (h : c ∈ (hexOfBytes bytes).toList) :
    (hexDigit? c).isSome = true := by
  rw [hexOfBytes, String.toList_ofList] at h
  obtain ⟨b, -, hc⟩ := List.mem_flatMap.1 h
  exact hexDigit?_of_mem_hexPair hc

theorem length_flatMap_hexPair (bytes : Bytes) :
    (bytes.flatMap hexPair).length = 2 * bytes.length := by
  induction bytes with
  | nil => rfl
  | cons b bytes ih =>
      rw [List.flatMap_cons, List.length_append, ih, List.length_cons]
      simp only [hexPair, List.length_cons, List.length_nil]
      omega

theorem isHex_hexOfBytes (bytes : Bytes) : isHex (hexOfBytes bytes) = true := by
  have hlength : (hexOfBytes bytes).toList.length = 2 * bytes.length := by
    rw [hexOfBytes, String.toList_ofList, length_flatMap_hexPair]
  rw [isHex, Bool.and_eq_true, List.all_eq_true, decide_eq_true_iff]
  exact ⟨fun c hc => hexDigit?_of_mem hc, by omega⟩

/-- A written token is read back. -/
theorem readSignature_signatureToken {n : ℕ} (hn : n ≤ 1000000) {bytes : Bytes} (hne : bytes ≠ []) :
    readSignature (signatureToken (.ofInt n) bytes) =
      some (.ofInt n, ⟨hexOfBytes bytes, isHex_hexOfBytes bytes⟩) := by
  obtain ⟨hdigits, hvalue⟩ := writtenInDigits_ofInt (n := n) (by omega)
  have htext : (JsNumber.ofInt n).toText.toList ≠ [] := by
    refine toText_ne_nil ?_
    rw [JsNumber.ofInt_eq_fin (by rw [abs_of_nonneg (Int.natCast_nonneg n)]; omega)]
    rfl
  generalize hidxText : (JsNumber.ofInt n).toText.toList = idxText at hdigits hvalue htext
  have hnumeral : IsNumeral idxText := ⟨htext, hdigits⟩
  have hidx : indexOf? idxText = some (.ofInt n) :=
    indexOf?_eq_some.2 ⟨(stringToNumber_numeral hnumeral hn).2 hvalue, n, hn, rfl⟩
  have hhexNe : (hexOfBytes bytes).toList ≠ [] := by
    cases bytes with
    | nil => exact absurd rfl hne
    | cons b bytes => simp [hexOfBytes, hexPair]
  have hsig : seedOf? (hexOfBytes bytes).toList =
      some ⟨hexOfBytes bytes, isHex_hexOfBytes bytes⟩ :=
    seedOf?_eq_some.2 ⟨String.ofList_toList.symm, hhexNe⟩
  have hhexSpace : ∀ c ∈ (hexOfBytes bytes).toList, isJsSpace c = false := by
    intro c hc
    rw [← Bool.not_eq_true]
    intro hspace
    have hhex := hexDigit?_of_mem hc
    rw [not_hex_of_space hspace] at hhex
    cases hhex
  have hname : ∀ c ∈ "MLDSA-SIG:".toList ++ "idx=".toList ++ "sig=".toList,
      isJsSpace c = false := List.all_iff_forall_prop.1 rfl
  have hidxPart : ∀ c ∈ "idx=".toList ++ idxText, isJsSpace c = false := by
    intro c hc
    rcases List.mem_append.1 hc with hc | hc
    · exact hname c (List.mem_append_left _ (List.mem_append_right _ hc))
    · exact hnumeral.not_space c hc
  have hsigPart : ∀ c ∈ "sig=".toList ++ (hexOfBytes bytes).toList, isJsSpace c = false := by
    intro c hc
    rcases List.mem_append.1 hc with hc | hc
    · exact hname c (List.mem_append_right _ hc)
    · exact hhexSpace c hc
  have hlist : (signatureToken (.ofInt n) bytes).toList = "MLDSA-SIG:".toList ++
      (("idx=".toList ++ idxText) ++ ';' :: ("sig=".toList ++ (hexOfBytes bytes).toList)) := by
    rw [← hidxText]
    simp [signatureToken]
  have htrim : trimChars (signatureToken (.ofInt n) bytes).toList =
      (signatureToken (.ofInt n) bytes).toList := by
    refine trimChars_of_forall fun c hc => ?_
    rw [hlist, List.mem_append, List.mem_append, List.mem_cons] at hc
    rcases hc with hc | hc | rfl | hc
    · exact hname c (List.mem_append_left _ (List.mem_append_left _ hc))
    · exact hidxPart c hc
    · rfl
    · exact hsigPart c hc
  have hsemiIdx : ';' ∉ "idx=".toList ++ idxText := by
    rw [List.mem_append, not_or]
    exact ⟨by decide, hnumeral.notMem (by decide)⟩
  have hsemiSig : ';' ∉ "sig=".toList ++ (hexOfBytes bytes).toList := by
    rw [List.mem_append, not_or]
    refine ⟨by decide, fun hc => ?_⟩
    have hhex := hexDigit?_of_mem hc
    exact absurd hhex (by decide)
  have hparts : signatureParts (signatureToken (.ofInt n) bytes) =
      ["idx=".toList ++ idxText, "sig=".toList ++ (hexOfBytes bytes).toList] := by
    rw [signatureParts, htrim, hlist, sliceAfter_append, trimmedPieces,
      List.splitOn_append_cons_self_of_not_mem hsemiIdx, List.splitOn_eq_singleton hsemiSig,
      List.map_cons, List.map_singleton, trimChars_of_forall hidxPart,
      trimChars_of_forall hsigPart]
    rfl
  refine readSignature_eq_some.2 ⟨?_, idxText, (hexOfBytes bytes).toList, hidx, hsig, .inl hparts⟩
  rw [htrim, hlist]
  exact startsWith_append _ _

/-- The index of a key that was read is a small natural number. -/
theorem idx_of_readParts {parts : List (List Char)} {found found' : FoundFields}
    (h : readParts found parts = some found')
    (hfound : ∀ v, found.idx = some v → ∃ n : ℕ, n ≤ 1000000 ∧ v = .ofInt n) :
    ∀ v, found'.idx = some v → ∃ n : ℕ, n ≤ 1000000 ∧ v = .ofInt n := by
  induction parts generalizing found with
  | nil =>
      cases h
      exact hfound
  | cons p ps ih =>
      obtain ⟨next, hnext, hrest⟩ := Option.bind_eq_some_iff.1 h
      apply ih hrest
      rcases startsWith_of_readPart hnext with ⟨text, rfl⟩ | ⟨text, rfl⟩ | ⟨text, rfl⟩
      · rw [readPart_idx, Option.map_eq_some_iff] at hnext
        obtain ⟨w, hw, rfl⟩ := hnext
        intro v hv
        cases hv
        exact (indexOf?_eq_some.1 hw).2
      · rw [readPart_seed, Option.map_eq_some_iff] at hnext
        obtain ⟨seed, -, rfl⟩ := hnext
        exact hfound
      · rw [readPart_params, Option.map_eq_some_iff] at hnext
        obtain ⟨kl, -, rfl⟩ := hnext
        exact hfound

theorem idx_of_parse {token : String} {publicKey : MLDSAPublicKey}
    (h : parseMLDSAPublicKey token = some publicKey) :
    ∃ n : ℕ, n ≤ 1000000 ∧ publicKey.idx = .ofInt n := by
  obtain ⟨-, -, hread, -⟩ := parse_eq_some.1 h
  refine idx_of_readParts hread (fun v hv => ?_) publicKey.idx rfl
  cases hv

end UniverEscrow.Merkle

namespace UniverEscrow.Enclave

open UniverEscrow.Js UniverEscrow.Merkle

structure HybridSignatureInput where
  classicalSignature : String
  pqcSignature : String
  classicalPublicKeyPem : String
  pqcPublicKeyToken : String

/-- SHA-256 over texts and over bytes, and RSA verification. -/
structure HybridPlatform where
  sha256 : Sha256
  digest : ByteSha256
  rsa : RsaVerify

namespace EnclaveBridge

def verifyHybridSignatureInEnclave (platform : HybridPlatform) (bridge : EnclaveBridge)
    (payload : String) (inputs : HybridSignatureInput) : Except String Bool :=
  if !bridge.enclaveReady then .error boundaryError
  else if inputs.pqcSignature = "" || inputs.pqcPublicKeyToken = "" then .ok false
  else if !verifySignature platform.rsa payload (.str inputs.classicalSignature)
      inputs.classicalPublicKeyPem then .ok false
  else
    match parseMLDSAPublicKey inputs.pqcPublicKeyToken with
    | none => .ok false
    | some pqcPublicKey => .ok (verifyMockMLDSA platform.digest
        (sha256Hex platform.sha256 payload) inputs.pqcSignature pqcPublicKey).ok

def committedBytes (platform : HybridPlatform) (payload : String) (publicKey : MLDSAPublicKey) :
    Bytes :=
  commitmentInput (bytesOfHex (sha256Hex platform.sha256 payload)) publicKey

/-- The only digest that a key accepts for a payload. -/
def commitment (platform : HybridPlatform) (payload : String) (publicKey : MLDSAPublicKey) :
    Bytes :=
  (platform.digest (committedBytes platform payload publicKey)).toList

theorem commitment_ne_nil (platform : HybridPlatform) (payload : String)
    (publicKey : MLDSAPublicKey) : commitment platform payload publicKey ≠ [] := by
  intro h
  have hlength := congrArg List.length h
  rw [commitment, Vector.length_toList] at hlength
  cases hlength

theorem startsWith_empty {start : String} (h : start.toList ≠ []) :
    startsWith start (trimChars "".toList) = false := by
  change start.toList.isPrefixOf [] = false
  cases hstart : start.toList with
  | nil => exact absurd hstart h
  | cons c cs => rfl

/-- The check passes exactly on a valid classical signature, a readable key token and a signature
token of the key's index and its commitment to the payload. -/
theorem verifyHybrid_eq_true_iff (platform : HybridPlatform) (bridge : EnclaveBridge)
    (payload : String) (inputs : HybridSignatureInput) :
    verifyHybridSignatureInEnclave platform bridge payload inputs = .ok true ↔
      bridge.enclaveReady = true ∧
      verifySignature platform.rsa payload (.str inputs.classicalSignature)
        inputs.classicalPublicKeyPem = true ∧
      ∃ publicKey sigHex, parseMLDSAPublicKey inputs.pqcPublicKeyToken = some publicKey ∧
        startsWith "MLDSA-SIG:" (trimChars inputs.pqcSignature.toList) = true ∧
        SignatureParts (signatureParts inputs.pqcSignature) publicKey.idx sigHex ∧
        bytesOfHex sigHex.text = commitment platform payload publicKey := by
  have hsignature {publicKey : MLDSAPublicKey} :
      (verifyMockMLDSA platform.digest (sha256Hex platform.sha256 payload) inputs.pqcSignature
        publicKey).ok = true ↔
      ∃ sigHex, startsWith "MLDSA-SIG:" (trimChars inputs.pqcSignature.toList) = true ∧
        SignatureParts (signatureParts inputs.pqcSignature) publicKey.idx sigHex ∧
        bytesOfHex sigHex.text = commitment platform payload publicKey := by
    rw [verifyMockMLDSA_ok_iff]
    simp only [readSignature_eq_some, and_assoc, commitment, committedBytes]
  unfold verifyHybridSignatureInEnclave
  cases hready : bridge.enclaveReady with
  | false => simp
  | true =>
      by_cases hempty : inputs.pqcSignature = "" ∨ inputs.pqcPublicKeyToken = ""
      · have hfields : (decide (inputs.pqcSignature = "") ||
            decide (inputs.pqcPublicKeyToken = "")) = true := by simpa using hempty
        simp only [Bool.not_true, Bool.false_eq_true, if_false, hfields, if_true]
        refine iff_of_false (by simp) ?_
        rintro ⟨-, -, publicKey, sigHex, hparse, hstart, -⟩
        rcases hempty with hempty | hempty
        · rw [hempty, startsWith_empty (by decide)] at hstart
          cases hstart
        · have hprefix := (parse_eq_some.1 hparse).1
          rw [hempty, startsWith_empty (by decide)] at hprefix
          cases hprefix
      · have hfields : (decide (inputs.pqcSignature = "") ||
            decide (inputs.pqcPublicKeyToken = "")) = false := by simpa using hempty
        simp only [Bool.not_true, Bool.false_eq_true, if_false, hfields, true_and]
        cases verifySignature platform.rsa payload (.str inputs.classicalSignature)
          inputs.classicalPublicKeyPem with
        | false => simp
        | true =>
            cases hparse : parseMLDSAPublicKey inputs.pqcPublicKeyToken with
            | none => simp
            | some publicKey =>
                simp only [Bool.not_true, Bool.false_eq_true, if_false, Except.ok.injEq, hsignature,
                  true_and, Option.some.injEq]
                constructor
                · rintro ⟨sigHex, hsig⟩
                  exact ⟨publicKey, sigHex, rfl, hsig⟩
                · rintro ⟨publicKey, sigHex, rfl, hsig⟩
                  exact ⟨sigHex, hsig⟩

/-! ## What the second half adds -/

/-- A signature token made of the public key and the payload alone. -/
def publicSignature (platform : HybridPlatform) (payload : String) (publicKey : MLDSAPublicKey) :
    String :=
  signatureToken publicKey.idx (commitment platform payload publicKey)

/-- With a token that everybody can write the hybrid check is the classical one. -/
theorem verifyHybrid_publicSignature (platform : HybridPlatform) (bridge : EnclaveBridge)
    (payload classicalSignature classicalPublicKeyPem pqcPublicKeyToken : String)
    (publicKey : MLDSAPublicKey) (hparse : parseMLDSAPublicKey pqcPublicKeyToken = some publicKey) :
    verifyHybridSignatureInEnclave platform bridge payload
        ⟨classicalSignature, publicSignature platform payload publicKey, classicalPublicKeyPem,
          pqcPublicKeyToken⟩ =
      verifySignatureInEnclave platform.rsa bridge payload classicalSignature
        classicalPublicKeyPem := by
  obtain ⟨n, hn, hidx⟩ := idx_of_parse hparse
  have hread : readSignature (publicSignature platform payload publicKey) =
      some (publicKey.idx, ⟨hexOfBytes (commitment platform payload publicKey),
        isHex_hexOfBytes _⟩) := by
    rw [publicSignature, hidx]
    exact readSignature_signatureToken hn (commitment_ne_nil platform payload publicKey)
  have hok : (verifyMockMLDSA platform.digest (sha256Hex platform.sha256 payload)
      (publicSignature platform payload publicKey) publicKey).ok = true :=
    verifyMockMLDSA_ok_iff.2 ⟨_, hread, bytesOfHex_hexOfBytes _⟩
  have hsignature : publicSignature platform payload publicKey ≠ "" := by
    intro hempty
    have hstart := (readSignature_eq_some.1 hread).1
    rw [hempty, startsWith_empty (by decide)] at hstart
    cases hstart
  have htoken : pqcPublicKeyToken ≠ "" := by
    rintro rfl
    have hstart := (parse_eq_some.1 hparse).1
    rw [startsWith_empty (by decide)] at hstart
    cases hstart
  unfold verifyHybridSignatureInEnclave verifySignatureInEnclave
  cases bridge.enclaveReady with
  | false => rfl
  | true =>
      simp only [Bool.not_true, Bool.false_eq_true, if_false, hsignature, htoken, decide_false,
        Bool.or_self, hparse, hok]
      cases verifySignature platform.rsa payload (.str classicalSignature)
        classicalPublicKeyPem <;> rfl

theorem length_matrixBytes (messageHashBytes : Bytes) (k l : ℕ) :
    (matrixBytes messageHashBytes k l).length = k * l := by
  simp [matrixBytes, List.length_flatMap]

theorem length_payloadHash (sha256 : Sha256) (payload : String) :
    (bytesOfHex (sha256Hex sha256 payload)).length = 32 := by
  have hlower : ∀ c ∈ (sha256Hex sha256 payload).toList, isLowerHex c = true :=
    fun c hc => isLowerHex_of_mem_text hc
  have hpairs := congrArg List.length (Middleware.flatMap_hexPair_bytesOfDigits (n := 32)
    (length_sha256Hex sha256 payload) hlower)
  rw [length_sha256Hex, length_flatMap_hexPair] at hpairs
  rw [bytesOfHex]
  omega

/-! ### A sample -/

/-- The texts of a key of the smallest shape. -/
def sampleTexts : KeyTexts := ⟨['1'], ['a', 'b'], ['1'], ['1']⟩

def sampleToken : String := "MLDSA-PUB:idx=1;seed=ab;params=k=1,l=1"

def spacedToken : String := " MLDSA-PUB:idx=1;seed=ab;params=k=1,l=1"

theorem hasTokenShape_sample (s : String) (h : trimChars s.toList = sampleTexts.token) :
    HasTokenShape s sampleTexts where
  token := h
  idx := ⟨by decide, List.all_eq_true.1 (by decide)⟩
  k := ⟨by decide, List.all_eq_true.1 (by decide)⟩
  l := ⟨by decide, List.all_eq_true.1 (by decide)⟩
  inRange := ⟨by decide, ⟨by decide, by decide⟩, by decide, by decide⟩

/-- The digests of one payload and of what the sample key commits to for it. -/
def hybridPlatform : HybridPlatform where
  sha256 := fun _ =>
    ⟨"239f59ed55e737c77147cf55ad0c1b030b6d7ee748a7426952f9b852d5a935e5", by rfl⟩
  digest := fun _ => #v[153, 33, 193, 3, 84, 111, 239, 251, 117, 190, 38, 191, 207, 191, 38, 89, 81, 109, 161, 20,
      146, 211, 76, 121, 122, 16, 70, 185, 231, 0, 74, 92]
  rsa := fun publicKeyPem data signature =>
    some (publicKeyPem = "key" && data = "payload" && signature = "0a")

theorem verifyHybrid_publicSignature_sample :
    ∃ publicKey, parseMLDSAPublicKey sampleToken = some publicKey ∧
      verifyHybridSignatureInEnclave hybridPlatform ⟨true, false⟩ "payload"
          ⟨"0a", publicSignature hybridPlatform "payload" publicKey, "key", sampleToken⟩ =
        verifySignatureInEnclave hybridPlatform.rsa ⟨true, false⟩ "payload" "0a" "key" := by
  obtain ⟨publicKey, hparse, -⟩ := parse_of_hasTokenShape (hasTokenShape_sample sampleToken rfl)
  exact ⟨publicKey, hparse, verifyHybrid_publicSignature hybridPlatform _ _ _ _ _ publicKey hparse⟩

/-- What an accepted signature token fixes: the payload and, among keys of the same shape, the index
and the seed. -/
theorem verifyHybrid_binds {platform : HybridPlatform} {bridge bridge' : EnclaveBridge}
    {payload payload' : String} {inputs inputs' : HybridSignatureInput}
    {publicKey publicKey' : MLDSAPublicKey}
    (hparse : parseMLDSAPublicKey inputs.pqcPublicKeyToken = some publicKey)
    (hparse' : parseMLDSAPublicKey inputs'.pqcPublicKeyToken = some publicKey')
    (hk : publicKey.k = publicKey'.k) (hl : publicKey.l = publicKey'.l)
    (hsame : inputs.pqcSignature = inputs'.pqcSignature)
    (haccepted : verifyHybridSignatureInEnclave platform bridge payload inputs = .ok true)
    (haccepted' : verifyHybridSignatureInEnclave platform bridge' payload' inputs' = .ok true)
    (hfree : CollisionFreeOn platform.sha256 [payload, payload'])
    (hdigest : ByteCollisionFreeOn platform.digest [committedBytes platform payload publicKey,
      committedBytes platform payload' publicKey']) :
    payload = payload' ∧ publicKey.idx = publicKey'.idx ∧
      bytesOfHex publicKey.seedHex.text = bytesOfHex publicKey'.seedHex.text := by
  obtain ⟨-, -, key, sigHex, hkey, hstart, hparts, hcommitment⟩ :=
    (verifyHybrid_eq_true_iff ..).1 haccepted
  obtain ⟨-, -, key', sigHex', hkey', hstart', hparts', hcommitment'⟩ :=
    (verifyHybrid_eq_true_iff ..).1 haccepted'
  obtain rfl := Option.some.inj (hparse.symm.trans hkey)
  obtain rfl := Option.some.inj (hparse'.symm.trans hkey')
  have hread := readSignature_eq_some.2 ⟨hstart, hparts⟩
  have hread' := readSignature_eq_some.2 ⟨hstart', hparts'⟩
  rw [hsame, hread', Option.some.injEq, Prod.mk.injEq] at hread
  obtain ⟨hidx, rfl⟩ := hread
  have hcommitted : committedBytes platform payload publicKey =
      committedBytes platform payload' publicKey' := by
    refine hdigest _ List.mem_cons_self _ (List.mem_cons_of_mem _ List.mem_cons_self) ?_
    exact Vector.toList_inj.1 (hcommitment.symm.trans hcommitment')
  rw [committedBytes, committedBytes, commitmentInput, commitmentInput, ← hk, ← hl,
    List.append_assoc, List.append_assoc] at hcommitted
  obtain ⟨-, hrest⟩ := List.append_inj hcommitted (by rw [length_matrixBytes, length_matrixBytes])
  obtain ⟨hhash, hseed⟩ := List.append_inj hrest (by rw [length_payloadHash, length_payloadHash])
  refine ⟨hfree _ List.mem_cons_self _ (List.mem_cons_of_mem _ List.mem_cons_self) ?_, hidx.symm,
    hseed⟩
  exact congrArg HexDigest.text (Middleware.bytesOfHex_text_inj hhash)

/-- The same key, written twice. -/
theorem verifyHybrid_binds_sample :
    ∃ publicKey publicKey', parseMLDSAPublicKey sampleToken = some publicKey ∧
      parseMLDSAPublicKey spacedToken = some publicKey' ∧
      publicKey.idx = publicKey'.idx ∧
      bytesOfHex publicKey.seedHex.text = bytesOfHex publicKey'.seedHex.text := by
  obtain ⟨publicKey, hparse, hkey⟩ := parse_of_hasTokenShape (hasTokenShape_sample sampleToken rfl)
  obtain ⟨publicKey', hparse', hkey'⟩ :=
    parse_of_hasTokenShape (hasTokenShape_sample spacedToken rfl)
  have hclassical : verifySignatureInEnclave hybridPlatform.rsa ⟨true, false⟩ "payload" "0a" "key" =
      .ok true := rfl
  have hcommitted : committedBytes hybridPlatform "payload" publicKey' =
      committedBytes hybridPlatform "payload" publicKey := by
    unfold committedBytes commitmentInput
    rw [hkey.k, hkey'.k, hkey.l, hkey'.l, hkey.seedHex, hkey'.seedHex]
  have hsignature : publicSignature hybridPlatform "payload" publicKey =
      publicSignature hybridPlatform "payload" publicKey' := by
    unfold publicSignature commitment
    rw [hcommitted, hkey.idx, hkey'.idx]
  have haccepted := (verifyHybrid_publicSignature hybridPlatform ⟨true, false⟩ "payload" "0a" "key"
    sampleToken publicKey hparse).trans hclassical
  have haccepted' := (verifyHybrid_publicSignature hybridPlatform ⟨true, false⟩ "payload" "0a" "key"
    spacedToken publicKey' hparse').trans hclassical
  have hfree : CollisionFreeOn hybridPlatform.sha256 ["payload", "payload"] := by
    intro a ha b hb _
    simp only [List.mem_cons, List.not_mem_nil, or_false, or_self] at ha hb
    rw [ha, hb]
  have hdigest : ByteCollisionFreeOn hybridPlatform.digest
      [committedBytes hybridPlatform "payload" publicKey,
        committedBytes hybridPlatform "payload" publicKey'] := by
    intro a ha b hb _
    simp only [hcommitted, List.mem_cons, List.not_mem_nil, or_false, or_self] at ha hb
    rw [ha, hb]
  obtain ⟨-, hidx, hseed⟩ := @verifyHybrid_binds hybridPlatform ⟨true, false⟩ ⟨true, false⟩
    "payload" "payload"
    ⟨"0a", publicSignature hybridPlatform "payload" publicKey, "key", sampleToken⟩
    ⟨"0a", publicSignature hybridPlatform "payload" publicKey', "key", spacedToken⟩
    publicKey publicKey' hparse hparse' (hkey.k.trans hkey'.k.symm) (hkey.l.trans hkey'.l.symm)
    hsignature haccepted haccepted' hfree hdigest
  exact ⟨publicKey, publicKey', hparse, hparse', hidx, hseed⟩

end EnclaveBridge

end UniverEscrow.Enclave
