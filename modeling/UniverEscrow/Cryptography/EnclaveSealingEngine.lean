import UniverEscrow.Js.Hex
import UniverEscrow.Js.Throw
import UniverEscrow.Lib.Except
import UniverEscrow.Lib.TaggedCipher
import UniverEscrow.Merkle.Sha256

/-!
# Sealing

Plaintext is sealed with AES-256-GCM under a key that HKDF derives from the CPU secret and the
identity of the enclave.  Unsealing compares every identifier of a blob with the engine's own
before it decrypts.  The blob to unseal is any value; the one sealed is well formed by type.
-/

namespace UniverEscrow.Cryptography

open UniverEscrow.Js UniverEscrow.Merkle UniverEscrow.Lib

inductive SealingPolicy where
  | mrenclave
  | mrsigner
deriving DecidableEq

def SealingPolicy.text : SealingPolicy → String
  | .mrenclave => "MRENCLAVE"
  | .mrsigner => "MRSIGNER"

/-- The platform identifiers bound at sealing time. -/
structure SealedPlatform where
  cpuPlatformId : String
  mrsigner : String
  mrenclave : String
deriving DecidableEq

/-- The version is 1 in all of them. -/
structure EncryptedSealedBlob where
  policy : SealingPolicy
  platform : SealedPlatform
  dkSaltHex : String
  nonceHex : String
  ciphertextHex : String
  tagHex : String
  keyId : String
  sealedAtMs : ℤ
deriving DecidableEq

def SealedPlatform.toJs (platform : SealedPlatform) : JsValue :=
  .obj [("cpuPlatformId", platform.cpuPlatformId), ("mrsigner", platform.mrsigner),
    ("mrenclave", platform.mrenclave)]

def EncryptedSealedBlob.toJs (blob : EncryptedSealedBlob) : JsValue :=
  .obj [("version", .num (.ofInt 1)), ("policy", blob.policy.text),
    ("platform", blob.platform.toJs), ("dkSaltHex", blob.dkSaltHex), ("nonceHex", blob.nonceHex),
    ("ciphertextHex", blob.ciphertextHex), ("tagHex", blob.tagHex), ("keyId", blob.keyId),
    ("sealedAtMs", .num (.ofInt blob.sealedAtMs))]

/-- What the engine takes from the platform.  HKDF and AES-GCM read texts as UTF-8. -/
structure SealingPlatform where
  sha256 : Sha256
  /-- `crypto.hkdfSync('sha256', ikm, salt, info, 32)`. -/
  hkdf : (ikm : String) → (salt : Bytes) → (info : String) → Vector UInt8 32
  gcmKeystream : (key : Vector UInt8 32) → (nonce : Bytes) → ℕ → UInt8
  gcmTag : (key : Vector UInt8 32) → (nonce : Bytes) → (aad : String) → (ciphertext : Bytes) →
    Vector UInt8 16
  /-- `Buffer.from(v, 'hex')` for a `v` that is no string. -/
  bufferFrom : JsValue → Except String Bytes

theorem xor_xor_stream (stream text : UInt8) : (text ^^^ stream) ^^^ stream = text := by
  rw [UInt8.xor_assoc, UInt8.xor_self, UInt8.xor_zero]

/-- The tag lengths `setAuthTag` takes. -/
def gcmTagLength (n : ℕ) : Bool := n = 4 || n = 8 || (12 ≤ n && n ≤ 16)

def SealingPlatform.aesGcm (platform : SealingPlatform) :
    TaggedCipher (Vector UInt8 32) Bytes String UInt8 where
  keystream := platform.gcmKeystream
  mask stream text := text ^^^ stream
  mask_mask := xor_xor_stream
  tag key nonce aad ciphertext := (platform.gcmTag key nonce aad ciphertext).toList
  acceptsTagLength := gcmTagLength

def SealingPlatform.bufferFromHex (platform : SealingPlatform) : JsValue → Except String Bytes
  | .str s => .ok (bytesOfHex s)
  | v => platform.bufferFrom v

structure EnclaveSealingConfig where
  cpuMasterSecret : String
  mrsigner : String
  mrenclave : String
deriving DecidableEq

/-- The engine is the configuration it has coerced to text. -/
@[ext]
structure EnclaveSealingEngine where
  cpuMasterSecret : String
  mrsigner : String
  mrenclave : String
deriving DecidableEq

namespace EnclaveSealingEngine

/-- `new EnclaveSealingEngine(config)`. -/
def create (cpuMasterSecret mrsigner mrenclave : JsValue) : Except String EnclaveSealingEngine := do
  let cpuMasterSecret ← textOrThrow cpuMasterSecret
  let mrsigner ← textOrThrow mrsigner
  let mrenclave ← textOrThrow mrenclave
  return ⟨cpuMasterSecret, mrsigner, mrenclave⟩

variable (platform : SealingPlatform) (engine : EnclaveSealingEngine)

def cpuPlatformId : String :=
  sha256Hex platform.sha256 ("cpu-master-root|" ++ engine.cpuMasterSecret)

def canonicalAad (policy : SealingPolicy) : String :=
  "policy=" ++ policy.text ++ "|cpu=" ++ engine.cpuPlatformId platform ++ "|mrsigner=" ++
    engine.mrsigner ++ "|mrenclave=" ++ engine.mrenclave

def computeDkSaltHex (policy : SealingPolicy) : String :=
  sha256Hex platform.sha256 ("hkdf-salt|policy=" ++ policy.text ++ "|cpu=" ++
    engine.cpuMasterSecret ++ "|mrs=" ++ engine.mrsigner ++ "|mren=" ++ engine.mrenclave)

/-- The input keying material. -/
def ikm : SealingPolicy → String
  | .mrenclave => engine.cpuMasterSecret ++ "|" ++ engine.mrsigner ++ "|" ++ engine.mrenclave
  | .mrsigner => engine.cpuMasterSecret ++ "|" ++ engine.mrsigner

def deriveAesKey (policy : SealingPolicy) (dkSaltHex : String) : Vector UInt8 32 :=
  platform.hkdf (engine.ikm policy) (bytesOfHex dkSaltHex) "enclave-sealing"

def computeKeyId (policy : SealingPolicy) : String :=
  sha256Hex platform.sha256 ("keyid|policy=" ++ policy.text ++ "|cpu=" ++
    engine.cpuPlatformId platform ++ "|mrs=" ++ engine.mrsigner ++ "|mren=" ++ engine.mrenclave)

/-- The key the engine seals with. -/
def sealingKey (policy : SealingPolicy) : Vector UInt8 32 :=
  engine.deriveAesKey platform policy (engine.computeDkSaltHex platform policy)

/-- The blob without the check of the plaintext; the nonce is random. -/
def sealedBlob (nonce : Vector UInt8 12) (sealedAtMs : ℤ) (plaintext : Bytes)
    (policy : SealingPolicy) : EncryptedSealedBlob :=
  let (ciphertext, tag) := platform.aesGcm.encrypt (engine.sealingKey platform policy) nonce.toList
    (engine.canonicalAad platform policy) plaintext
  { policy := policy
    platform := ⟨engine.cpuPlatformId platform, engine.mrsigner, engine.mrenclave⟩
    dkSaltHex := engine.computeDkSaltHex platform policy
    nonceHex := hexOfBytes nonce.toList
    ciphertextHex := hexOfBytes ciphertext
    tagHex := hexOfBytes tag
    keyId := engine.computeKeyId platform policy
    sealedAtMs := sealedAtMs }

/-- A plaintext is a Buffer by type. -/
def sealData (nonce : Vector UInt8 12) (sealedAtMs : ℤ) (plaintext : Bytes)
    (policy : SealingPolicy) : Except String EncryptedSealedBlob := do
  throwUnless (plaintext ≠ []) "plaintext must not be empty"
  return engine.sealedBlob platform nonce sealedAtMs plaintext policy

def policyOf? (v : JsValue) : Option SealingPolicy :=
  if v.isStr "MRENCLAVE" then some .mrenclave
  else if v.isStr "MRSIGNER" then some .mrsigner
  else none

def decryptionError (tag : Bytes) : Rejection → String
  | .tagLength => "Invalid authentication tag length: " ++ toString tag.length
  | .tagMismatch => "Unsupported state or unable to authenticate data"

/-- The comparisons of the blob's identifiers; the policy they were made under. -/
def checkedPolicy (blob : JsValue) : Except String SealingPolicy := do
  throwUnless blob.isObject "blob must be an EncryptedSealedBlob"
  throwUnless ((blob.get "version").isNum (.ofInt 1)) "UNSEAL_FAILED: unsupported blob version"
  let cpuPlatformId ← memberOrThrow (blob.get "platform") "cpuPlatformId"
  throwUnless (cpuPlatformId.isStr (engine.cpuPlatformId platform))
    "UNSEAL_FAILED: CPU platform identity mismatch"
  throwUnless (((blob.get "platform").get "mrsigner").isStr engine.mrsigner)
    "UNSEAL_FAILED: MRSIGNER mismatch"
  throwUnless (((blob.get "platform").get "mrenclave").isStr engine.mrenclave)
    "UNSEAL_FAILED: MRENCLAVE mismatch"
  let policy ← orThrow "UNSEAL_FAILED: invalid policy" (policyOf? (blob.get "policy"))
  throwUnless ((blob.get "dkSaltHex").isStr (engine.computeDkSaltHex platform policy))
    "UNSEAL_FAILED: dkSaltHex mismatch"
  throwUnless ((blob.get "keyId").isStr (engine.computeKeyId platform policy))
    "UNSEAL_FAILED: keyId mismatch"
  return policy

/-- `blob.dkSaltHex` has been compared with the engine's own, so the key is the engine's. -/
def unsealData (blob : JsValue) : Except String Bytes := do
  let policy ← engine.checkedPolicy platform blob
  let nonce ← platform.bufferFromHex (blob.get "nonceHex")
  let ciphertext ← platform.bufferFromHex (blob.get "ciphertextHex")
  let tag ← platform.bufferFromHex (blob.get "tagHex")
  throwUnless (nonce.length = 12) "UNSEAL_FAILED: invalid nonce length"
  (platform.aesGcm.decrypt (engine.sealingKey platform policy) nonce
    (engine.canonicalAad platform policy) ciphertext tag).mapError (decryptionError tag)

/-! ## When a blob unseals -/

/-- The identifiers of the blob are those of the engine. -/
structure Identified (policy : SealingPolicy) (blob : JsValue) : Prop where
  isObject : blob.isObject = true
  version : (blob.get "version").isNum (.ofInt 1) = true
  cpuPlatformId : (blob.get "platform").get "cpuPlatformId" = .str (engine.cpuPlatformId platform)
  mrsigner : (blob.get "platform").get "mrsigner" = .str engine.mrsigner
  mrenclave : (blob.get "platform").get "mrenclave" = .str engine.mrenclave
  hasPolicy : blob.get "policy" = .str policy.text
  dkSaltHex : blob.get "dkSaltHex" = .str (engine.computeDkSaltHex platform policy)
  keyId : blob.get "keyId" = .str (engine.computeKeyId platform policy)

variable {platform engine} {policy : SealingPolicy} {blob : JsValue}

theorem create_eq_ok_iff {cpuMasterSecret mrsigner mrenclave : JsValue} :
    create cpuMasterSecret mrsigner mrenclave = .ok engine ↔
      cpuMasterSecret.toText = some engine.cpuMasterSecret ∧
        mrsigner.toText = some engine.mrsigner ∧ mrenclave.toText = some engine.mrenclave := by
  simp only [create, bind_eq_ok, textOrThrow_eq_ok, pure, Except.pure, Except.ok.injEq]
  constructor
  · rintro ⟨_, hcpu, _, hmrsigner, _, hmrenclave, rfl⟩
    exact ⟨hcpu, hmrsigner, hmrenclave⟩
  · intro h
    exact ⟨_, h.1, _, h.2.1, _, h.2.2, rfl⟩

theorem policyOf?_eq_some {v : JsValue} : policyOf? v = some policy ↔ v = .str policy.text := by
  rw [policyOf?]
  cases policy with
  | mrenclave =>
      rw [SealingPolicy.text, ← JsValue.isStr_iff]
      split_ifs with h h' <;> simp [h]
  | mrsigner =>
      rw [SealingPolicy.text, ← JsValue.isStr_iff]
      split_ifs with h h'
      · rw [JsValue.isStr_iff.1 h]
        decide
      · simp [h']
      · simp [h']

theorem checkedPolicy_eq_ok_iff :
    engine.checkedPolicy platform blob = .ok policy ↔ engine.Identified platform policy blob := by
  simp only [checkedPolicy, bind_eq_ok, throwUnless_eq_ok, memberOrThrow_eq_ok, orThrow_eq_ok,
    policyOf?_eq_some, JsValue.isStr_iff, pure, Except.pure, Except.ok.injEq]
  constructor
  · rintro ⟨-, hobject, -, hversion, _, ⟨-, rfl⟩, -, hcpu, -, hmrsigner, -, hmrenclave, _, hpolicy,
      -, hsalt, -, hkeyId, rfl⟩
    exact ⟨hobject, hversion, hcpu, hmrsigner, hmrenclave, hpolicy, hsalt, hkeyId⟩
  · intro h
    have hthere : (blob.get "platform").isNullish = false := by
      apply JsValue.isNullish_of_get_ne
      rw [h.mrsigner]
      simp
    exact ⟨(), h.isObject, (), h.version, _, ⟨hthere, rfl⟩, (), h.cpuPlatformId, (), h.mrsigner, (),
      h.mrenclave, policy, h.hasPolicy, (), h.dkSaltHex, (), h.keyId, rfl⟩

theorem unsealData_eq_ok_iff {plaintext : Bytes} :
    engine.unsealData platform blob = .ok plaintext ↔
      ∃ policy, engine.Identified platform policy blob ∧
        ∃ nonce, platform.bufferFromHex (blob.get "nonceHex") = .ok nonce ∧
        ∃ ciphertext, platform.bufferFromHex (blob.get "ciphertextHex") = .ok ciphertext ∧
        ∃ tag, platform.bufferFromHex (blob.get "tagHex") = .ok tag ∧ nonce.length = 12 ∧
          platform.aesGcm.decrypt (engine.sealingKey platform policy) nonce
            (engine.canonicalAad platform policy) ciphertext tag = .ok plaintext := by
  simp only [unsealData, bind_eq_ok, checkedPolicy_eq_ok_iff, throwUnless_eq_ok, mapError_eq_ok,
    decide_eq_true_eq, exists_const]

/-! ## Who unseals a sealed blob -/

variable {nonce : Vector UInt8 12} {sealedAtMs : ℤ} {plaintext : Bytes}

theorem sealData_eq_ok_iff {sealed : EncryptedSealedBlob} :
    engine.sealData platform nonce sealedAtMs plaintext policy = .ok sealed ↔
      plaintext ≠ [] ∧ engine.sealedBlob platform nonce sealedAtMs plaintext policy = sealed := by
  simp [sealData, bind_eq_ok, pure, Except.pure]

theorem isNum_version : (JsValue.num (.ofInt 1)).isNum (.ofInt 1) = true := by
  decide +kernel

theorem identified_sealedBlob (engine : EnclaveSealingEngine) :
    engine.Identified platform policy
      (engine.sealedBlob platform nonce sealedAtMs plaintext policy).toJs where
  isObject := rfl
  version := isNum_version
  cpuPlatformId := rfl
  mrsigner := rfl
  mrenclave := rfl
  hasPolicy := rfl
  dkSaltHex := rfl
  keyId := rfl

/-- The ciphertext and the whole tag of a plaintext the engine seals. -/
def encrypted (platform : SealingPlatform) (engine : EnclaveSealingEngine)
    (nonce : Vector UInt8 12) (plaintext : Bytes) (policy : SealingPolicy) : Bytes × Bytes :=
  platform.aesGcm.encrypt (engine.sealingKey platform policy) nonce.toList
    (engine.canonicalAad platform policy) plaintext

/-- Another engine reads the bytes of a sealed blob as they were written. -/
theorem unsealData_sealedBlob_iff {other : EnclaveSealingEngine} {opened : Bytes} :
    other.unsealData platform
        (engine.sealedBlob platform nonce sealedAtMs plaintext policy).toJs = .ok opened ↔
      other.Identified platform policy
          (engine.sealedBlob platform nonce sealedAtMs plaintext policy).toJs ∧
        platform.aesGcm.decrypt (other.sealingKey platform policy) nonce.toList
          (other.canonicalAad platform policy) (engine.encrypted platform nonce plaintext policy).1
          (engine.encrypted platform nonce plaintext policy).2 = .ok opened := by
  have hnonce : platform.bufferFromHex (.str (hexOfBytes nonce.toList)) = .ok nonce.toList :=
    congrArg Except.ok (bytesOfHex_hexOfBytes _)
  have hciphertext : platform.bufferFromHex
      (.str (hexOfBytes (engine.encrypted platform nonce plaintext policy).1)) =
        .ok (engine.encrypted platform nonce plaintext policy).1 :=
    congrArg Except.ok (bytesOfHex_hexOfBytes _)
  have htag : platform.bufferFromHex
      (.str (hexOfBytes (engine.encrypted platform nonce plaintext policy).2)) =
        .ok (engine.encrypted platform nonce plaintext policy).2 :=
    congrArg Except.ok (bytesOfHex_hexOfBytes _)
  rw [unsealData_eq_ok_iff]
  constructor
  · rintro ⟨policy', hid, _, hn, _, hc, _, ht, -, hopen⟩
    have hpolicy : policy' = policy := by
      apply Option.some.inj
      rw [← policyOf?_eq_some.2 hid.hasPolicy]
      exact policyOf?_eq_some.2 rfl
    subst hpolicy
    cases hnonce.symm.trans hn
    cases hciphertext.symm.trans hc
    cases htag.symm.trans ht
    exact ⟨hid, hopen⟩
  · rintro ⟨hid, hopen⟩
    exact ⟨policy, hid, _, hnonce, _, hciphertext, _, htag, nonce.length_toList, hopen⟩

/-- The engine that sealed unseals. -/
theorem unsealData_sealedBlob (engine : EnclaveSealingEngine) :
    engine.unsealData platform
      (engine.sealedBlob platform nonce sealedAtMs plaintext policy).toJs = .ok plaintext := by
  rw [unsealData_sealedBlob_iff]
  refine ⟨identified_sealedBlob engine, ?_⟩
  apply TaggedCipher.decrypt_encrypt
  intro masked
  rw [SealingPlatform.aesGcm, Vector.length_toList]
  rfl

/-- HKDF and AES-GCM behave ideally on what two engines make of one text: of two input keying
materials no one key is derived, and under two keys no one tag is computed. -/
structure IdealFor (platform : SealingPlatform) (engine other : EnclaveSealingEngine)
    (nonce : Vector UInt8 12) (plaintext : Bytes) (policy : SealingPolicy) : Prop where
  hkdf : other.sealingKey platform policy = engine.sealingKey platform policy →
    other.ikm policy = engine.ikm policy
  gcm : platform.gcmTag (other.sealingKey platform policy) nonce.toList
        (other.canonicalAad platform policy) (engine.encrypted platform nonce plaintext policy).1 =
      platform.gcmTag (engine.sealingKey platform policy) nonce.toList
        (engine.canonicalAad platform policy) (engine.encrypted platform nonce plaintext policy).1 →
    other.sealingKey platform policy = engine.sealingKey platform policy

theorem cpuMasterSecret_eq_of_ikm {other : EnclaveSealingEngine}
    (hmrsigner : other.mrsigner = engine.mrsigner) (hmrenclave : other.mrenclave = engine.mrenclave)
    (h : other.ikm policy = engine.ikm policy) :
    other.cpuMasterSecret = engine.cpuMasterSecret := by
  cases policy with
  | mrenclave =>
      simp only [ikm, hmrsigner, hmrenclave, String.append_left_inj] at h
      exact h
  | mrsigner =>
      simp only [ikm, hmrsigner, String.append_left_inj] at h
      exact h

/-- No other engine unseals. -/
theorem eq_of_unsealData_sealedBlob {other : EnclaveSealingEngine} {opened : Bytes}
    (hideal : IdealFor platform engine other nonce plaintext policy)
    (h : other.unsealData platform
      (engine.sealedBlob platform nonce sealedAtMs plaintext policy).toJs = .ok opened) :
    other = engine := by
  obtain ⟨hid, hopen⟩ := unsealData_sealedBlob_iff.1 h
  have hmrsigner : other.mrsigner = engine.mrsigner := (JsValue.str.inj hid.mrsigner).symm
  have hmrenclave : other.mrenclave = engine.mrenclave := (JsValue.str.inj hid.mrenclave).symm
  have htag : platform.gcmTag (other.sealingKey platform policy) nonce.toList
        (other.canonicalAad platform policy) (engine.encrypted platform nonce plaintext policy).1 =
      platform.gcmTag (engine.sealingKey platform policy) nonce.toList
        (engine.canonicalAad platform policy)
        (engine.encrypted platform nonce plaintext policy).1 := by
    apply Vector.toList_inj.1
    refine TaggedCipher.tag_eq_of_decrypt_encrypt ?_ hopen
    exact Vector.length_toList.trans Vector.length_toList.symm
  have hcpu : other.cpuMasterSecret = engine.cpuMasterSecret :=
    cpuMasterSecret_eq_of_ikm hmrsigner hmrenclave (hideal.hkdf (hideal.gcm htag))
  exact EnclaveSealingEngine.ext hcpu hmrsigner hmrenclave

end EnclaveSealingEngine

end UniverEscrow.Cryptography
