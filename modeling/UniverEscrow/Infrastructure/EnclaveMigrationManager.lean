import UniverEscrow.Cryptography.EnclaveSealingEngine
import UniverEscrow.Enclave.CryptoService

/-!
# Migrating sealed state

A signed package asks for a sealed blob to be sealed again under the measurement it names.  The
payload is any value.  Whatever is thrown on the way is caught and becomes the error of the
result, as the refusals are, so both are errors of one sequence of steps here.
-/

namespace UniverEscrow.Infrastructure

open UniverEscrow.Js UniverEscrow.Enclave UniverEscrow.Cryptography

structure MigrationPlatform extends SealingPlatform where
  rsa : RsaVerify

inductive MigrationResult where
  | migrated (newBlob : EncryptedSealedBlob)
  | refused (error : String)

def MigrationResult.ok : MigrationResult → Bool
  | .migrated _ => true
  | .refused _ => false

/-- The nonce and the clock reading the new blob is sealed with. -/
structure SealingMoment where
  nonce : Vector UInt8 12
  nowMs : ℤ

namespace EnclaveMigrationManager

def canonicalMigrationHeader (migrationId : String) (metadata : JsValue) :
    Except String String := do
  let mrsigner ← textOrThrow (metadata.get "mrsigner")
  let targetMrenclave ← textOrThrow (metadata.get "targetMrenclave")
  return "migrationId=" ++ migrationId ++ "|mrsigner=" ++ mrsigner ++ "|targetMrenclave=" ++
    targetMrenclave

/-- A signature that is no string has no hexadecimal text of even `length`, and a throw counts as
a rejection. -/
def verifyHexRsaSha256 (rsa : RsaVerify) (data : String) (sigHex : JsValue)
    (publicKeyPem : String) : Bool :=
  match sigHex with
  | .str signature =>
      publicKeyPem ≠ "" && isHexBytes signature && (rsa publicKeyPem data signature).getD false
  | _ => false

/-- `typeof v === 'string'` for a truthy `v`. -/
def nonEmptyString? (v : JsValue) : Option String :=
  match v with
  | .str s => if s = "" then none else some s
  | _ => none

variable (platform : MigrationPlatform) (sealingConfig : EnclaveSealingConfig) (payload : JsValue)
  (trustedMRSIGNER trustedPackagePublicKeyPem : String)

/-- The checks ahead of the unsealing. -/
def checkPackage : Except String Unit := do
  let blob := payload.get "blob"
  let metadata := payload.get "metadata"
  throwUnless payload.isObject "MIGRATION_PAYLOAD_MISSING"
  throwUnless blob.truthy "MIGRATION_BLOB_MISSING"
  throwUnless metadata.truthy "MIGRATION_METADATA_MISSING"
  let migrationId ← orThrow "MIGRATION_ID_MISSING" (nonEmptyString? (payload.get "migrationId"))
  let canonicalHeader ← canonicalMigrationHeader migrationId metadata
  throwUnless (verifyHexRsaSha256 platform.rsa canonicalHeader (payload.get "packageSignatureHex")
    trustedPackagePublicKeyPem) "PACKAGE_SIGNATURE_INVALID"
  throwUnless ((metadata.get "mrsigner").isStr trustedMRSIGNER) "MRSIGNER_NOT_TRUSTED"
  let mrsigner ← memberOrThrow (blob.get "platform") "mrsigner"
  throwUnless (mrsigner.isStr trustedMRSIGNER) "BLOB_MRSIGNER_MISMATCH"

/-- The engine the blob is unsealed with takes the enclave's identity from the blob itself. -/
def unsealWithOwn (blob : JsValue) : Except String Bytes := do
  let engineOld ← EnclaveSealingEngine.create sealingConfig.cpuMasterSecret
    ((blob.get "platform").get "mrsigner") ((blob.get "platform").get "mrenclave")
  engineOld.unsealData platform.toSealingPlatform blob

/-- Unsealing has checked the policy, so there always is one. -/
def reseal (moment : SealingMoment) (plaintext : Bytes) :
    Except String EncryptedSealedBlob := do
  let engineNew ← EnclaveSealingEngine.create sealingConfig.cpuMasterSecret trustedMRSIGNER
    ((payload.get "metadata").get "targetMrenclave")
  let policy ← orThrow "UNSEAL_FAILED: invalid policy"
    (EnclaveSealingEngine.policyOf? ((payload.get "blob").get "policy"))
  engineNew.sealData platform.toSealingPlatform moment.nonce moment.nowMs plaintext policy

def migrate (moment : SealingMoment) : Except String EncryptedSealedBlob := do
  checkPackage platform payload trustedMRSIGNER trustedPackagePublicKeyPem
  let plaintext ← unsealWithOwn platform sealingConfig (payload.get "blob")
  reseal platform sealingConfig payload trustedMRSIGNER moment plaintext

def migrateBlob (moment : SealingMoment) : MigrationResult :=
  match migrate platform sealingConfig payload trustedMRSIGNER trustedPackagePublicKeyPem
    moment with
  | .ok newBlob => .migrated newBlob
  | .error error => .refused error

/-! ## Which payloads are migrated -/

/-- The package is signed over the header of its migration id, which is a string. -/
def PackageSigned : Prop :=
  ∃ migrationId header, payload.get "migrationId" = .str migrationId ∧
    canonicalMigrationHeader migrationId (payload.get "metadata") = .ok header ∧
    verifyHexRsaSha256 platform.rsa header (payload.get "packageSignatureHex")
      trustedPackagePublicKeyPem = true

/-- The package and the blob are the trusted authority's. -/
def SignerTrusted : Prop :=
  (payload.get "metadata").get "mrsigner" = .str trustedMRSIGNER ∧
    ((payload.get "blob").get "platform").get "mrsigner" = .str trustedMRSIGNER

/-- The blob unseals to the plaintext under the CPU secret of the manager and the blob's own
identity. -/
def UnsealsTo (plaintext : Bytes) : Prop :=
  unsealWithOwn platform sealingConfig (payload.get "blob") = .ok plaintext

structure Migratable : Prop where
  hasId : payload.get "migrationId" ≠ .str ""
  signed : PackageSigned platform payload trustedPackagePublicKeyPem
  trusted : SignerTrusted payload trustedMRSIGNER
  unseals : ∃ plaintext, plaintext ≠ [] ∧ UnsealsTo platform sealingConfig payload plaintext

variable {platform sealingConfig payload trustedMRSIGNER trustedPackagePublicKeyPem}

theorem nonEmptyString?_eq_some {v : JsValue} {s : String} :
    nonEmptyString? v = some s ↔ v = .str s ∧ v ≠ .str "" := by
  cases v with
  | str t =>
      rw [nonEmptyString?]
      split_ifs with h
      · simp [h]
      · simp [h]
  | _ => simp [nonEmptyString?]

theorem checkPackage_eq_ok_iff {u : Unit} :
    checkPackage platform payload trustedMRSIGNER trustedPackagePublicKeyPem = .ok u ↔
      payload.get "migrationId" ≠ .str "" ∧
        PackageSigned platform payload trustedPackagePublicKeyPem ∧
        SignerTrusted payload trustedMRSIGNER := by
  simp only [checkPackage, bind_eq_ok, throwUnless_eq_ok, orThrow_eq_ok, memberOrThrow_eq_ok,
    nonEmptyString?_eq_some, JsValue.isStr_iff]
  constructor
  · rintro ⟨-, -, -, -, -, -, migrationId, ⟨hid, hne⟩, header, hheader, -, hsigned, -, hmrsigner,
      _, ⟨-, rfl⟩, hblob⟩
    exact ⟨hne, ⟨migrationId, header, hid, hheader, hsigned⟩, hmrsigner, hblob⟩
  · rintro ⟨hne, ⟨migrationId, header, hid, hheader, hsigned⟩, hmrsigner, hblob⟩
    obtain ⟨metadata, hmetadata⟩ := JsValue.exists_eq_obj_of_get_ne "mrsigner" (by decide)
      (by rw [hmrsigner]; simp)
    obtain ⟨identifiers, hplatform⟩ := JsValue.exists_eq_obj_of_get_ne "mrsigner" (by decide)
      (by rw [hblob]; simp)
    obtain ⟨blob, hblobObject⟩ := JsValue.exists_eq_obj_of_get_ne "platform" (by decide)
      (by rw [hplatform]; simp)
    obtain ⟨members, hpayload⟩ := JsValue.exists_eq_obj_of_get_ne "metadata" (by decide)
      (by rw [hmetadata]; simp)
    refine ⟨(), ?_, (), ?_, (), ?_, migrationId, ⟨hid, hne⟩, header, hheader, (), hsigned, (),
      hmrsigner, _, ⟨?_, rfl⟩, hblob⟩
    · rw [hpayload]
      rfl
    · rw [hblobObject]
      rfl
    · rw [hmetadata]
      rfl
    · rw [hplatform]
      rfl

/-- A blob that unseals names a policy. -/
theorem exists_policy_of_unsealsTo {plaintext : Bytes}
    (h : UnsealsTo platform sealingConfig payload plaintext) :
    ∃ policy : SealingPolicy, (payload.get "blob").get "policy" = .str policy.text := by
  obtain ⟨engineOld, -, hunseal⟩ := bind_eq_ok.1 h
  obtain ⟨policy, hid, -⟩ := EnclaveSealingEngine.unsealData_eq_ok_iff.1 hunseal
  exact ⟨policy, hid.hasPolicy⟩

/-- The header of a signed package names the target measurement. -/
theorem exists_target_of_packageSigned
    (h : PackageSigned platform payload trustedPackagePublicKeyPem) :
    ∃ target, ((payload.get "metadata").get "targetMrenclave").toText = some target := by
  obtain ⟨migrationId, header, -, hheader, -⟩ := h
  obtain ⟨_, -, hrest⟩ := bind_eq_ok.1 hheader
  obtain ⟨target, htarget, -⟩ := bind_eq_ok.1 hrest
  exact ⟨target, textOrThrow_eq_ok.1 htarget⟩

/-- The engine a payload is resealed with. -/
def targetEngine (sealingConfig : EnclaveSealingConfig) (trustedMRSIGNER target : String) :
    EnclaveSealingEngine :=
  ⟨sealingConfig.cpuMasterSecret, trustedMRSIGNER, target⟩

variable {moment : SealingMoment} {newBlob : EncryptedSealedBlob}

theorem reseal_eq_ok_iff {plaintext : Bytes} {target : String} {policy : SealingPolicy}
    (htarget : ((payload.get "metadata").get "targetMrenclave").toText = some target)
    (hpolicy : (payload.get "blob").get "policy" = .str policy.text) :
    reseal platform sealingConfig payload trustedMRSIGNER moment plaintext = .ok newBlob ↔
      plaintext ≠ [] ∧ (targetEngine sealingConfig trustedMRSIGNER target).sealedBlob
        platform.toSealingPlatform moment.nonce moment.nowMs plaintext policy = newBlob := by
  have hengine : EnclaveSealingEngine.create sealingConfig.cpuMasterSecret trustedMRSIGNER
      ((payload.get "metadata").get "targetMrenclave") =
        .ok (targetEngine sealingConfig trustedMRSIGNER target) :=
    EnclaveSealingEngine.create_eq_ok_iff.2 ⟨rfl, rfl, htarget⟩
  have hpolicyOf : EnclaveSealingEngine.policyOf? ((payload.get "blob").get "policy") =
      some policy :=
    EnclaveSealingEngine.policyOf?_eq_some.2 hpolicy
  rw [reseal, hengine, hpolicyOf]
  exact EnclaveSealingEngine.sealData_eq_ok_iff

/-- What a migration gives where there is one. -/
theorem migrate_eq_ok_iff :
    migrate platform sealingConfig payload trustedMRSIGNER trustedPackagePublicKeyPem moment =
        .ok newBlob ↔
      (payload.get "migrationId" ≠ .str "" ∧
        PackageSigned platform payload trustedPackagePublicKeyPem ∧
        SignerTrusted payload trustedMRSIGNER) ∧
      ∃ plaintext, UnsealsTo platform sealingConfig payload plaintext ∧
        reseal platform sealingConfig payload trustedMRSIGNER moment plaintext = .ok newBlob := by
  simp only [migrate, bind_eq_ok, checkPackage_eq_ok_iff, UnsealsTo, exists_const]

theorem ok_migrateBlob_iff :
    (migrateBlob platform sealingConfig payload trustedMRSIGNER trustedPackagePublicKeyPem
        moment).ok = true ↔
      Migratable platform sealingConfig payload trustedMRSIGNER trustedPackagePublicKeyPem := by
  have hok : (migrateBlob platform sealingConfig payload trustedMRSIGNER
      trustedPackagePublicKeyPem moment).ok = true ↔
        ∃ newBlob, migrate platform sealingConfig payload trustedMRSIGNER
          trustedPackagePublicKeyPem moment = .ok newBlob := by
    rw [migrateBlob]
    cases migrate platform sealingConfig payload trustedMRSIGNER trustedPackagePublicKeyPem moment
    · simp [MigrationResult.ok]
    · simp [MigrationResult.ok]
  rw [hok]
  simp only [migrate_eq_ok_iff]
  constructor
  · rintro ⟨newBlob, ⟨hid, hsigned, htrusted⟩, plaintext, hunseals, hreseal⟩
    obtain ⟨policy, hpolicy⟩ := exists_policy_of_unsealsTo hunseals
    obtain ⟨target, htarget⟩ := exists_target_of_packageSigned hsigned
    have hne : plaintext ≠ [] := ((reseal_eq_ok_iff htarget hpolicy).1 hreseal).1
    exact ⟨hid, hsigned, htrusted, plaintext, hne, hunseals⟩
  · intro h
    obtain ⟨plaintext, hne, hunseals⟩ := h.unseals
    obtain ⟨policy, hpolicy⟩ := exists_policy_of_unsealsTo hunseals
    obtain ⟨target, htarget⟩ := exists_target_of_packageSigned h.signed
    exact ⟨_, ⟨h.hasId, h.signed, h.trusted⟩, plaintext, hunseals,
      (reseal_eq_ok_iff htarget hpolicy).2 ⟨hne, rfl⟩⟩

end EnclaveMigrationManager

end UniverEscrow.Infrastructure
