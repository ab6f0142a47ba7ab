import UniverEscrow.Cryptography.SealingPolicies

/-!
# Altered sealed blobs

Unsealing compares the identifiers of a blob, the length of its nonce and, through the tag, the
associated data and the ciphertext.  The length of the tag is left to the cipher, which also takes
the first 4, 8 or 12 to 15 bytes of a tag of 16.  So a blob with its tag cut short unseals as the
blob that was sealed.
-/

namespace UniverEscrow.Cryptography

open UniverEscrow.Js UniverEscrow.Lib

/-- A call of `sealData` that returns. -/
structure Sealing where
  nonce : Vector UInt8 12
  sealedAtMs : ℤ
  plaintext : Bytes
  policy : SealingPolicy
  nonempty : plaintext ≠ []

namespace Sealing

variable (platform : SealingPlatform) (engine : EnclaveSealingEngine) (sealing : Sealing)

/-- The blob of the call. -/
def blob : EncryptedSealedBlob :=
  engine.sealedBlob platform sealing.nonce sealing.sealedAtMs sealing.plaintext sealing.policy

theorem sealData_eq_blob :
    engine.sealData platform sealing.nonce sealing.sealedAtMs sealing.plaintext sealing.policy =
      .ok (sealing.blob platform engine) :=
  EnclaveSealingEngine.sealData_eq_sealedBlob sealing.nonempty

/-- The ciphertext and the tag of the call. -/
def encrypted : Bytes × Bytes :=
  engine.encrypted platform sealing.nonce sealing.plaintext sealing.policy

/-- What the tag of the call is computed from. -/
def tagged : Vector UInt8 32 × Bytes × String × Bytes :=
  (engine.sealingKey platform sealing.policy, sealing.nonce.toList,
    engine.canonicalAad platform sealing.policy, (sealing.encrypted platform engine).1)

end Sealing

namespace EncryptedSealedBlob

/-- The altered blob agrees with the sealed one in everything but the tag.  A comparison of bytes
is one of what is read from the hexadecimal texts. -/
structure AgreesButTag (platform : SealingPlatform) (blob : EncryptedSealedBlob)
    (altered : JsValue) : Prop where
  policy : altered.get "policy" = .str blob.policy.text
  cpuPlatformId : (altered.get "platform").get "cpuPlatformId" = .str blob.platform.cpuPlatformId
  mrsigner : (altered.get "platform").get "mrsigner" = .str blob.platform.mrsigner
  mrenclave : (altered.get "platform").get "mrenclave" = .str blob.platform.mrenclave
  dkSaltHex : altered.get "dkSaltHex" = .str blob.dkSaltHex
  keyId : altered.get "keyId" = .str blob.keyId
  nonce : platform.bufferFromHex (altered.get "nonceHex") = .ok (bytesOfHex blob.nonceHex)
  ciphertext :
    platform.bufferFromHex (altered.get "ciphertextHex") = .ok (bytesOfHex blob.ciphertextHex)

structure Agrees (platform : SealingPlatform) (blob : EncryptedSealedBlob)
    (altered : JsValue) : Prop extends AgreesButTag platform blob altered where
  tag : platform.bufferFromHex (altered.get "tagHex") = .ok (bytesOfHex blob.tagHex)

/-- The altered blob is of the version that is read and has the first bytes of the sealed blob's
tag, in a number that the cipher takes. -/
structure OpensAs (platform : SealingPlatform) (blob : EncryptedSealedBlob) (altered : JsValue)
    (tag : Bytes) : Prop extends AgreesButTag platform blob altered where
  isObject : altered.isObject = true
  version : (altered.get "version").isNum (.ofInt 1) = true
  hasTag : platform.bufferFromHex (altered.get "tagHex") = .ok tag
  tagLength : gcmTagLength tag.length = true
  tagPrefix : tag <+: bytesOfHex blob.tagHex

/-- The altered blob is the sealed one but for a tag that is cut short. -/
def CutShort (platform : SealingPlatform) (blob : EncryptedSealedBlob) (altered : JsValue) :
    Prop :=
  ∃ tag, OpensAs platform blob altered tag ∧ tag.length < 16

end EncryptedSealedBlob

namespace EnclaveSealingEngine

open EncryptedSealedBlob

/-- AES-GCM is ideal on the altered blob: where its tag is accepted under the key for its policy,
the key, the nonce, the associated data and the ciphertext are those of a call that sealed. -/
def Unforged (platform : SealingPlatform) (engine : EnclaveSealingEngine)
    (sealings : List Sealing) (altered : JsValue) : Prop :=
  ∀ policy nonce ciphertext tag, altered.get "policy" = .str policy.text →
    platform.bufferFromHex (altered.get "nonceHex") = .ok nonce →
    platform.bufferFromHex (altered.get "ciphertextHex") = .ok ciphertext →
    platform.bufferFromHex (altered.get "tagHex") = .ok tag →
      platform.aesGcm.Unforged (sealings.map (Sealing.tagged platform engine))
        (engine.sealingKey platform policy) nonce (engine.canonicalAad platform policy) ciphertext
        tag

/-- Where the altered blob differs from every blob that was sealed, unsealing throws. -/
def TamperEvident (platform : SealingPlatform) (engine : EnclaveSealingEngine)
    (sealings : List Sealing) (altered : JsValue) : Prop :=
  (∀ sealing ∈ sealings, ∀ blob,
      engine.sealData platform sealing.nonce sealing.sealedAtMs sealing.plaintext sealing.policy =
        .ok blob → ¬ blob.Agrees platform altered) →
    ∃ message, engine.unsealData platform altered = .error message

variable {platform : SealingPlatform} {engine : EnclaveSealingEngine} {sealing : Sealing}
  {sealings : List Sealing} {altered : JsValue} {policy : SealingPolicy} {tag : Bytes}

theorem text_inj {policy' : SealingPolicy} : policy'.text = policy.text → policy' = policy := by
  cases policy <;> cases policy' <;> decide

theorem canonicalAad_inj {policy' : SealingPolicy}
    (h : engine.canonicalAad platform policy' = engine.canonicalAad platform policy) :
    policy' = policy := by
  simp only [canonicalAad, String.append_left_inj, String.append_right_inj] at h
  exact text_inj h

@[simp] theorem bytesOfHex_nonceHex_blob :
    bytesOfHex (sealing.blob platform engine).nonceHex = sealing.nonce.toList :=
  bytesOfHex_hexOfBytes _

@[simp] theorem bytesOfHex_ciphertextHex_blob :
    bytesOfHex (sealing.blob platform engine).ciphertextHex =
      (sealing.encrypted platform engine).1 :=
  bytesOfHex_hexOfBytes _

@[simp] theorem bytesOfHex_tagHex_blob :
    bytesOfHex (sealing.blob platform engine).tagHex = (sealing.encrypted platform engine).2 :=
  bytesOfHex_hexOfBytes _

theorem length_tag_blob : (bytesOfHex (sealing.blob platform engine).tagHex).length = 16 := by
  rw [bytesOfHex_tagHex_blob]
  exact Vector.length_toList

/-- The identifiers of a sealed blob are those of the engine. -/
theorem identified_of_opensAs (h : (sealing.blob platform engine).OpensAs platform altered tag) :
    engine.Identified platform sealing.policy altered where
  isObject := h.isObject
  version := h.version
  cpuPlatformId := h.cpuPlatformId
  mrsigner := h.mrsigner
  mrenclave := h.mrenclave
  hasPolicy := h.policy
  dkSaltHex := h.dkSaltHex
  keyId := h.keyId

theorem unsealData_of_opensAs (h : (sealing.blob platform engine).OpensAs platform altered tag) :
    engine.unsealData platform altered = .ok sealing.plaintext := by
  have hnonce := h.nonce
  have hciphertext := h.ciphertext
  have hprefix := h.tagPrefix
  rw [bytesOfHex_nonceHex_blob] at hnonce
  rw [bytesOfHex_ciphertextHex_blob] at hciphertext
  rw [bytesOfHex_tagHex_blob] at hprefix
  rw [unsealData_eq_ok_iff]
  refine ⟨sealing.policy, identified_of_opensAs h, _, hnonce, _, hciphertext, tag, h.hasTag,
    sealing.nonce.length_toList, ?_⟩
  exact TaggedCipher.decrypt_encrypt_of_prefix h.tagLength hprefix

/-- What unseals is a sealed blob, but for the length of its tag. -/
theorem opensAs_of_unsealData {opened : Bytes} (hideal : Unforged platform engine sealings altered)
    (h : engine.unsealData platform altered = .ok opened) :
    ∃ sealing ∈ sealings, ∃ tag, (sealing.blob platform engine).OpensAs platform altered tag := by
  obtain ⟨policy, hid, nonce, hnonce, ciphertext, hciphertext, tag, htag, -, hopen⟩ :=
    unsealData_eq_ok_iff.1 h
  have hmem := hideal policy nonce ciphertext tag hid.hasPolicy hnonce hciphertext htag opened hopen
  obtain ⟨sealing, hsealing, htagged⟩ := List.mem_map.1 hmem
  simp only [Sealing.tagged, Prod.mk.injEq] at htagged
  obtain ⟨-, rfl, haad, rfl⟩ := htagged
  obtain rfl : sealing.policy = policy := canonicalAad_inj haad
  obtain ⟨hlength, hprefix, -⟩ := TaggedCipher.decrypt_eq_ok_iff.1 hopen
  refine ⟨sealing, hsealing, tag, ?_⟩
  exact
    { policy := hid.hasPolicy
      cpuPlatformId := hid.cpuPlatformId
      mrsigner := hid.mrsigner
      mrenclave := hid.mrenclave
      dkSaltHex := hid.dkSaltHex
      keyId := hid.keyId
      nonce := by rw [bytesOfHex_nonceHex_blob, hnonce]
      ciphertext := by rw [bytesOfHex_ciphertextHex_blob, hciphertext]
      isObject := hid.isObject
      version := hid.version
      hasTag := htag
      tagLength := hlength
      tagPrefix := by
        rw [bytesOfHex_tagHex_blob]
        exact hprefix }

/-- A tag that is cut short is not the tag of any sealed blob. -/
theorem not_agrees_of_cutShort (h : (sealing.blob platform engine).CutShort platform altered)
    (other : Sealing) : ¬ (other.blob platform engine).Agrees platform altered := by
  intro hagrees
  obtain ⟨tag, hopens, hshort⟩ := h
  have hsame : tag = bytesOfHex (other.blob platform engine).tagHex :=
    Except.ok.inj (hopens.hasTag.symm.trans hagrees.tag)
  have hlength : (bytesOfHex (other.blob platform engine).tagHex).length = 16 := length_tag_blob
  rw [← hsame] at hlength
  omega

/-- Without a cut the tag is the whole one. -/
theorem agrees_of_opensAs (h : (sealing.blob platform engine).OpensAs platform altered tag)
    (hwhole : ¬ (sealing.blob platform engine).CutShort platform altered) :
    (sealing.blob platform engine).Agrees platform altered := by
  have hlength : ¬ tag.length < 16 := fun hshort => hwhole ⟨tag, h, hshort⟩
  have hle := h.tagPrefix.length_le
  rw [length_tag_blob] at hle
  have hsame : tag = bytesOfHex (sealing.blob platform engine).tagHex := by
    apply h.tagPrefix.eq_of_length
    rw [length_tag_blob]
    omega
  exact ⟨h.toAgreesButTag, by rw [← hsame, h.hasTag]⟩

theorem not_tamperEvident_of_cutShort
    (hcut : (sealing.blob platform engine).CutShort platform altered) :
    ¬ TamperEvident platform engine sealings altered := by
  intro h
  have hdiffers : ∀ other ∈ sealings, ∀ blob,
      engine.sealData platform other.nonce other.sealedAtMs other.plaintext other.policy =
        .ok blob → ¬ blob.Agrees platform altered := by
    intro other _ blob hblob
    cases (other.sealData_eq_blob platform engine).symm.trans hblob
    exact not_agrees_of_cutShort hcut other
  obtain ⟨message, hthrows⟩ := h hdiffers
  obtain ⟨tag, hopens, -⟩ := hcut
  rw [unsealData_of_opensAs hopens] at hthrows
  cases hthrows

/-- A blob that was altered is refused exactly where it is not a sealed blob with its tag cut
short. -/
theorem tamperEvident_iff (hideal : Unforged platform engine sealings altered) :
    TamperEvident platform engine sealings altered ↔
      ∀ sealing ∈ sealings, ¬ (sealing.blob platform engine).CutShort platform altered := by
  constructor
  · intro h sealing _ hcut
    exact not_tamperEvident_of_cutShort hcut h
  · intro h hdiffers
    cases hunseal : engine.unsealData platform altered with
    | error message => exact ⟨message, rfl⟩
    | ok opened =>
        obtain ⟨sealing, hmem, tag, hopens⟩ := opensAs_of_unsealData hideal hunseal
        have hagrees := agrees_of_opensAs hopens (h sealing hmem)
        exact absurd hagrees (hdiffers sealing hmem _ (sealing.sealData_eq_blob platform engine))

/-! ### A sample -/

/-- The text `root` sealed for its signer. -/
def rootSealing : Sealing := ⟨countingNonce, 1767225600000, rootBytes, .mrsigner, by decide⟩

/-- The sealed blob with the first four bytes of its tag. -/
def rootCut : JsValue :=
  { rootSealing.blob signerPlatform (signerEngine "code-1") with tagHex := "519ea5e2" }.toJs

theorem unforged_rootCut :
    Unforged signerPlatform (signerEngine "code-1") [rootSealing] rootCut := by
  intro policy nonce ciphertext tag hpolicy hnonce hciphertext _ text _
  obtain rfl : countingNonce.toList = nonce :=
    (bytesOfHex_hexOfBytes _).symm.trans (Except.ok.inj hnonce)
  obtain rfl : (rootSealing.encrypted signerPlatform (signerEngine "code-1")).1 = ciphertext :=
    (bytesOfHex_hexOfBytes _).symm.trans (Except.ok.inj hciphertext)
  obtain rfl : SealingPolicy.mrsigner = policy := text_inj (JsValue.str.inj hpolicy)
  exact List.mem_singleton.2 rfl

theorem cutShort_rootCut :
    (rootSealing.blob signerPlatform (signerEngine "code-1")).CutShort signerPlatform rootCut :=
  ⟨[0x51, 0x9e, 0xa5, 0xe2],
    { policy := rfl
      cpuPlatformId := rfl
      mrsigner := rfl
      mrenclave := rfl
      dkSaltHex := rfl
      keyId := rfl
      nonce := rfl
      ciphertext := rfl
      isObject := rfl
      version := isNum_version
      hasTag := rfl
      tagLength := rfl
      tagPrefix := by
        rw [bytesOfHex_tagHex_blob]
        decide +kernel }, by decide⟩

theorem tamperEvident_iff_rootCut :
    Unforged signerPlatform (signerEngine "code-1") [rootSealing] rootCut ∧
      (TamperEvident signerPlatform (signerEngine "code-1") [rootSealing] rootCut ↔
        ∀ sealing ∈ [rootSealing],
          ¬ (sealing.blob signerPlatform (signerEngine "code-1")).CutShort signerPlatform
            rootCut) :=
  ⟨unforged_rootCut, tamperEvident_iff unforged_rootCut⟩

/-- Four bytes of the tag are enough to unseal. -/
theorem rootCut_unseals :
    Unforged signerPlatform (signerEngine "code-1") [rootSealing] rootCut ∧
      (signerEngine "code-1").unsealData signerPlatform rootCut = .ok rootBytes ∧
      ¬ TamperEvident signerPlatform (signerEngine "code-1") [rootSealing] rootCut := by
  obtain ⟨tag, hopens, -⟩ := cutShort_rootCut
  exact ⟨unforged_rootCut, unsealData_of_opensAs hopens,
    not_tamperEvident_of_cutShort cutShort_rootCut⟩

end EnclaveSealingEngine

end UniverEscrow.Cryptography
