import UniverEscrow.Cryptography.EnclaveSealingEngine

/-!
# What the two sealing policies mean

The key of an MRSIGNER blob is derived without the measurement in the input keying material, but
the salt, the key id, the associated data and the comparison of the platform all contain it.  So
the two policies admit the same engines: the one that sealed.
-/

namespace UniverEscrow.Cryptography

open UniverEscrow.Js UniverEscrow.Merkle

/-- The engines a policy is meant for, as its name says. -/
def SealingPolicy.Admits (engine other : EnclaveSealingEngine) : SealingPolicy → Prop
  | .mrenclave =>
      other.cpuMasterSecret = engine.cpuMasterSecret ∧ other.mrsigner = engine.mrsigner ∧
        other.mrenclave = engine.mrenclave
  | .mrsigner =>
      other.cpuMasterSecret = engine.cpuMasterSecret ∧ other.mrsigner = engine.mrsigner

instance (engine other : EnclaveSealingEngine) (policy : SealingPolicy) :
    Decidable (policy.Admits engine other) :=
  match policy with
  | .mrenclave => inferInstanceAs (Decidable (_ ∧ _ ∧ _))
  | .mrsigner => inferInstanceAs (Decidable (_ ∧ _))

namespace EnclaveSealingEngine

variable {platform : SealingPlatform} {engine other : EnclaveSealingEngine}
  {nonce : Vector UInt8 12} {sealedAtMs : ℤ} {plaintext : Bytes} {policy : SealingPolicy}

/-- The engine seals, and the other engine opens the blob exactly where the policy admits it. -/
structure OpensAsNamed (platform : SealingPlatform) (engine other : EnclaveSealingEngine)
    (nonce : Vector UInt8 12) (sealedAtMs : ℤ) (plaintext : Bytes) (policy : SealingPolicy)
    (blob : EncryptedSealedBlob) : Prop where
  sealed : engine.sealData platform nonce sealedAtMs plaintext policy = .ok blob
  opens : policy.Admits engine other → other.unsealData platform blob.toJs = .ok plaintext
  alone : ∀ opened, other.unsealData platform blob.toJs = .ok opened → policy.Admits engine other

theorem admits_self (engine : EnclaveSealingEngine) (policy : SealingPolicy) :
    policy.Admits engine engine := by
  cases policy with
  | mrenclave => exact ⟨rfl, rfl, rfl⟩
  | mrsigner => exact ⟨rfl, rfl⟩

theorem eq_of_admits (h : policy.Admits engine other)
    (hmrenclave : other.mrenclave = engine.mrenclave) : other = engine := by
  cases policy with
  | mrenclave => exact EnclaveSealingEngine.ext h.1 h.2.1 h.2.2
  | mrsigner => exact EnclaveSealingEngine.ext h.1 h.2 hmrenclave

/-- Under either policy a blob names the measurement of the engine that sealed it. -/
theorem mrenclave_eq_of_unsealData {opened : Bytes}
    (h : other.unsealData platform
      (engine.sealedBlob platform nonce sealedAtMs plaintext policy).toJs = .ok opened) :
    other.mrenclave = engine.mrenclave := by
  have hid := (unsealData_sealedBlob_iff.1 h).1
  exact (JsValue.str.inj hid.mrenclave).symm

theorem sealData_eq_sealedBlob (hne : plaintext ≠ []) :
    engine.sealData platform nonce sealedAtMs plaintext policy =
      .ok (engine.sealedBlob platform nonce sealedAtMs plaintext policy) :=
  sealData_eq_ok_iff.2 ⟨hne, rfl⟩

/-- A policy is kept between two engines exactly where every engine it admits has the measurement
of the one that sealed. -/
theorem opensAsNamed_iff (hne : plaintext ≠ [])
    (hideal : IdealFor platform engine other nonce plaintext policy) :
    (∃ blob, OpensAsNamed platform engine other nonce sealedAtMs plaintext policy blob) ↔
      (policy.Admits engine other → other.mrenclave = engine.mrenclave) := by
  constructor
  · rintro ⟨blob, hblob⟩ hadmits
    have hopens := hblob.opens hadmits
    rw [← (sealData_eq_ok_iff.1 hblob.sealed).2] at hopens
    exact mrenclave_eq_of_unsealData hopens
  · intro hsame
    refine ⟨_, sealData_eq_sealedBlob hne, fun hadmits => ?_, fun opened hopened => ?_⟩
    · rw [eq_of_admits hadmits (hsame hadmits)]
      exact unsealData_sealedBlob engine
    · rw [eq_of_unsealData_sealedBlob hideal hopened]
      exact admits_self engine policy

/-! ### A sample -/

theorem isHexDigest_cpuRoot :
    isHexDigest "c59cae82feeb2b25e9154f362a804f439d34b82a12ab9661d479096c668f9f08" = true := by
  decide +kernel

/-- SHA-256 on the texts that two engines of one signer hash for MRSIGNER. -/
def signerSha256 : Sha256 := fun text =>
  if text = "cpu-master-root|cpu-1" then
    ⟨"c59cae82feeb2b25e9154f362a804f439d34b82a12ab9661d479096c668f9f08", isHexDigest_cpuRoot⟩
  else if text = "hkdf-salt|policy=MRSIGNER|cpu=cpu-1|mrs=signer-1|mren=code-1" then
    ⟨"a982095beef189e1e1c7e02232ba7435936250f3a71eb33ff3b78cd5c19f70f0", by decide +kernel⟩
  else if text = "hkdf-salt|policy=MRSIGNER|cpu=cpu-1|mrs=signer-1|mren=code-2" then
    ⟨"e3fcca703f90e4525d68f2ef604f7efd7b31e04d888c4ec71e95fc2baf921d97", by decide +kernel⟩
  else if text = "keyid|policy=MRSIGNER|cpu=" ++
      "c59cae82feeb2b25e9154f362a804f439d34b82a12ab9661d479096c668f9f08" ++
      "|mrs=signer-1|mren=code-1" then
    ⟨"54a7972e6d54cba20ae69ebac28232545a25b1d97c3ddc182a19c31391d19b3d", by decide +kernel⟩
  else ⟨"ce10c634e3fc1fd2aa90783792dc59a43c5e489becb5274e62a551552f353134", by decide +kernel⟩

/-- The bytes of the text, zero past its end. -/
def bytesVector (n : ℕ) (s : String) : Vector UInt8 n :=
  Vector.ofFn fun i => (bytesOfHex s).getD i 0

/-- The keys of the two engines differ by their salts, and so do the tags under them. -/
def signerPlatform : SealingPlatform where
  sha256 := signerSha256
  hkdf _ salt _ :=
    if salt.head? = some 0xa9 then
      bytesVector 32 "9d37aec656216032cfd56c40cae2e954ecc8b2c0d9f303f25ce88a6e3d93520e"
    else bytesVector 32 "bb8b9d967281acdc7b3e1af805acd67536cc98e94944855989930f08aa4e2db3"
  gcmKeystream key _ i :=
    if key.toList.head? = some 0x9d then (bytesOfHex "44b238e7").getD i 0
    else (bytesOfHex "415c3323").getD i 0
  gcmTag key _ _ _ :=
    if key.toList.head? = some 0x9d then bytesVector 16 "519ea5e2c7552f9581828d0def9c9c52"
    else bytesVector 16 "c6aa61faa0fe47a44cd7413fa4239813"
  bufferFrom _ := .error "The first argument must be of type string"

def signerEngine (mrenclave : String) : EnclaveSealingEngine := ⟨"cpu-1", "signer-1", mrenclave⟩

/-- The twelve bytes from zero. -/
def countingNonce : Vector UInt8 12 := Vector.ofFn fun i => UInt8.ofNat i

/-- The text `root` in bytes. -/
def rootBytes : Bytes := [0x72, 0x6f, 0x6f, 0x74]

theorem idealFor_signerEngine :
    IdealFor signerPlatform (signerEngine "code-1") (signerEngine "code-2") countingNonce
      rootBytes .mrsigner := by
  constructor <;> decide +kernel

theorem opensAsNamed_iff_sample :
    rootBytes ≠ [] ∧
      ((∃ blob, OpensAsNamed signerPlatform (signerEngine "code-1") (signerEngine "code-2")
          countingNonce 1767225600000 rootBytes .mrsigner blob) ↔
        (SealingPolicy.mrsigner.Admits (signerEngine "code-1") (signerEngine "code-2") →
          (signerEngine "code-2").mrenclave = (signerEngine "code-1").mrenclave)) :=
  ⟨by decide, opensAsNamed_iff (by decide) idealFor_signerEngine⟩

/-- An engine of the same CPU and signer does not open an MRSIGNER blob under another
measurement. -/
theorem mrsigner_blob_refused :
    SealingPolicy.mrsigner.Admits (signerEngine "code-1") (signerEngine "code-2") ∧
      IdealFor signerPlatform (signerEngine "code-1") (signerEngine "code-2") countingNonce
        rootBytes .mrsigner ∧
      ∃ blob, (signerEngine "code-1").sealData signerPlatform countingNonce 1767225600000
          rootBytes .mrsigner = .ok blob ∧
        (signerEngine "code-2").unsealData signerPlatform blob.toJs =
          .error "UNSEAL_FAILED: MRENCLAVE mismatch" := by
  refine ⟨by decide, idealFor_signerEngine, _, sealData_eq_sealedBlob (by decide), ?_⟩
  decide +kernel

end EnclaveSealingEngine

end UniverEscrow.Cryptography
