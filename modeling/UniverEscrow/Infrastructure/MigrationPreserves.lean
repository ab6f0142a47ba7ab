import UniverEscrow.Infrastructure.EnclaveMigrationManager

/-!
# Migration keeps the sealed data

A migrated blob unseals to what the old one held, under the engine the package names and under no
other.  The package has to carry a migration id besides its signature.
-/

namespace UniverEscrow.Infrastructure.EnclaveMigrationManager

open UniverEscrow.Js UniverEscrow.Merkle UniverEscrow.Enclave UniverEscrow.Cryptography

/-- The new blob holds the plaintext under the old policy for the engine, and, where HKDF and
AES-GCM behave ideally, for that engine alone. -/
structure Resealed (platform : MigrationPlatform) (moment : SealingMoment) (blob : JsValue)
    (newBlob : EncryptedSealedBlob) (engine : EnclaveSealingEngine) (plaintext : Bytes) :
    Prop where
  policy : blob.get "policy" = .str newBlob.policy.text
  unseals : engine.unsealData platform.toSealingPlatform newBlob.toJs = .ok plaintext
  alone : ∀ other : EnclaveSealingEngine, EnclaveSealingEngine.IdealFor platform.toSealingPlatform
    engine other moment.nonce plaintext newBlob.policy → ∀ opened,
      other.unsealData platform.toSealingPlatform newBlob.toJs = .ok opened → other = engine

theorem resealed_sealedBlob (platform : MigrationPlatform) (moment : SealingMoment) {blob : JsValue}
    (engine : EnclaveSealingEngine) (plaintext : Bytes) {policy : SealingPolicy}
    (hpolicy : blob.get "policy" = .str policy.text) :
    Resealed platform moment blob (engine.sealedBlob platform.toSealingPlatform moment.nonce
      moment.nowMs plaintext policy) engine plaintext where
  policy := hpolicy
  unseals := EnclaveSealingEngine.unsealData_sealedBlob engine
  alone _ hideal _ hopened := EnclaveSealingEngine.eq_of_unsealData_sealedBlob hideal hopened

variable (platform : MigrationPlatform) (sealingConfig : EnclaveSealingConfig) (payload : JsValue)
  (trustedMRSIGNER trustedPackagePublicKeyPem : String) (moment : SealingMoment)

/-- A payload is migrated exactly where it is signed with an id, trusted, and unseals to some
plaintext, and then that plaintext is what the new blob holds for the target engine. -/
theorem migrateBlob_preserves :
    ((migrateBlob platform sealingConfig payload trustedMRSIGNER trustedPackagePublicKeyPem
        moment).ok = true ↔
      Migratable platform sealingConfig payload trustedMRSIGNER trustedPackagePublicKeyPem) ∧
    ∀ newBlob, migrateBlob platform sealingConfig payload trustedMRSIGNER
        trustedPackagePublicKeyPem moment = .migrated newBlob →
      ∃ plaintext engineNew, plaintext ≠ [] ∧
        UnsealsTo platform sealingConfig payload plaintext ∧
        EnclaveSealingEngine.create sealingConfig.cpuMasterSecret trustedMRSIGNER
          ((payload.get "metadata").get "targetMrenclave") = .ok engineNew ∧
        Resealed platform moment (payload.get "blob") newBlob engineNew plaintext := by
  refine ⟨ok_migrateBlob_iff, fun newBlob h => ?_⟩
  have hmigrate : migrate platform sealingConfig payload trustedMRSIGNER
      trustedPackagePublicKeyPem moment = .ok newBlob := by
    rw [migrateBlob] at h
    cases hmigrate : migrate platform sealingConfig payload trustedMRSIGNER
        trustedPackagePublicKeyPem moment with
    | error error => simp [hmigrate] at h
    | ok migrated =>
        simp only [hmigrate, MigrationResult.migrated.injEq] at h
        rw [h]
  obtain ⟨⟨-, hsigned, -⟩, plaintext, hunseals, hreseal⟩ := migrate_eq_ok_iff.1 hmigrate
  obtain ⟨policy, hpolicy⟩ := exists_policy_of_unsealsTo hunseals
  obtain ⟨target, htarget⟩ := exists_target_of_packageSigned hsigned
  obtain ⟨hne, rfl⟩ := (reseal_eq_ok_iff htarget hpolicy).1 hreseal
  refine ⟨plaintext, targetEngine sealingConfig trustedMRSIGNER target, hne, hunseals,
    EnclaveSealingEngine.create_eq_ok_iff.2 ⟨rfl, rfl, htarget⟩, ?_⟩
  exact resealed_sealedBlob platform moment _ plaintext hpolicy

/-! ### A sample -/

/-- SHA-256 on the texts of the sample. -/
def sealingSha256 : Sha256 := fun text =>
  if text = "cpu-master-root|cpu-1" then
    ⟨"c59cae82feeb2b25e9154f362a804f439d34b82a12ab9661d479096c668f9f08", by decide +kernel⟩
  else if text = "hkdf-salt|policy=MRENCLAVE|cpu=cpu-1|mrs=signer-1|mren=code-1" then
    ⟨"e6edbc572b9ef464ab5b66f2a89ea6582084555ba2f7cd5cacf02e424d116c4c", by decide +kernel⟩
  else if text = "hkdf-salt|policy=MRENCLAVE|cpu=cpu-1|mrs=signer-1|mren=code-2" then
    ⟨"5844d8e34e9ac8724d31d6944df78dd6fa80e4d29514616f57cafeb50bbcdefe", by decide +kernel⟩
  else if text = "hkdf-salt|policy=MRENCLAVE|cpu=cpu-2|mrs=signer-1|mren=code-2" then
    ⟨"78b4ea5765f1826ad31120396fa95ccb8506ca68df48b69e3f896de4dbbbe9c6", by decide +kernel⟩
  else if text = "keyid|policy=MRENCLAVE|cpu=" ++
      "c59cae82feeb2b25e9154f362a804f439d34b82a12ab9661d479096c668f9f08" ++
      "|mrs=signer-1|mren=code-1" then
    ⟨"fa3a78d4022aee0aa37285a937da7ca9c6447fcce242311ee2daec735704fc3e", by decide +kernel⟩
  else if text = "keyid|policy=MRENCLAVE|cpu=" ++
      "c59cae82feeb2b25e9154f362a804f439d34b82a12ab9661d479096c668f9f08" ++
      "|mrs=signer-1|mren=code-2" then
    ⟨"2746c747c6b400314341ffe0a9c2db92d217f626d44cb9ed96a0d9edea99e42c", by decide +kernel⟩
  else ⟨"f4bbab3f1e4c9cfd98a018b672251cd441d47e8d77a3fa3c9730610c3bde76b0", by decide +kernel⟩

/-- The keys of the sample's engines, in hexadecimal. -/
def sealingKeyHex (ikm : String) : String :=
  if ikm = "cpu-1|signer-1|code-1" then
    "56f124b26b6c46f19c20cd00b325d90d1d485b0c22309f081c17a5a2d607d815"
  else if ikm = "cpu-1|signer-1|code-2" then
    "42cb1186569ee18793070640da5ed6effcc28df50ce1462136e8381fb3254c3f"
  else "fb434d53b57309a94088b85efe49439222a68e2bc0ff5183d533dd606b7baa45"

/-- As many bytes of the text as the vector holds. -/
def vectorOfHex (n : ℕ) (s : String) : Vector UInt8 n :=
  Vector.ofFn fun i => (bytesOfHex s).getD i 0

@[irreducible] def packageKey : String :=
  "-----BEGIN PUBLIC KEY-----\n" ++
    "MFwwDQYJKoZIhvcNAQEBBQADSwAwSAJBALsNMwtziewO0pIH9rD/on6DHrzkpvGR\n" ++
    "fipg3TH9238aFOXAE5+1vSSkWMvHOEI3P37EGE3g4xDonfD8XZ2/qi0CAwEAAQ==\n" ++
    "-----END PUBLIC KEY-----\n"

/-- The package signer's signature over the header of a migration id. -/
def packageSignature (migrationId : String) : String :=
  if migrationId = "" then
    "81c4030c88e1153aec4720e863c3b93fb046d1d3043c64d9575bef4482bb3550" ++
      "353d328b049f23525fbd6e28138744bb3db15a5e44105bd1576e7f526636aeb6"
  else
    "79016e5874462414fc990822cdb8529d0c01b7a51d3cd3f564b76f6c2f6253c4" ++
      "ba8a2e3c4e02df71795775f2fc9674ded168fcd7a95aa321a79b067e46972560"

def sealingRsa : RsaVerify := fun publicKeyPem data signature =>
  some (publicKeyPem = packageKey &&
    ((data = "migrationId=|mrsigner=signer-1|targetMrenclave=code-2" &&
        signature = packageSignature "") ||
      (data = "migrationId=mig-1|mrsigner=signer-1|targetMrenclave=code-2" &&
        signature = packageSignature "mig-1")))

/-- HKDF, AES-GCM and RSA on the sample, whose keys differ in their first bytes. -/
def samplePlatform : MigrationPlatform where
  sha256 := sealingSha256
  hkdf ikm _ _ := vectorOfHex 32 (sealingKeyHex ikm)
  gcmKeystream key _ i :=
    if key.toList.head? = some 0x56 then (bytesOfHex "6ef7fbeb").getD i 0
    else (bytesOfHex "9dfc81cc").getD i 0
  gcmTag key _ _ _ :=
    if key.toList.head? = some 0x56 then vectorOfHex 16 "bde757b4a3f0eef08d4ca04aa7f51832"
    else if key.toList.head? = some 0x42 then vectorOfHex 16 "7b0ae17b3be0477cc3e8ece4698430cb"
    else vectorOfHex 16 "cfc06d2717571998d4e1fa5cca9d9035"
  bufferFrom _ := .error "The first argument must be of type string"
  rsa := sealingRsa

/-- The sample's engine for a CPU secret and a measurement. -/
def sampleEngine (cpuMasterSecret mrenclave : String) : EnclaveSealingEngine :=
  ⟨cpuMasterSecret, "signer-1", mrenclave⟩

/-- The running node of the sample at a measurement. -/
def runningAt (mrenclave : String) : EnclaveSealingConfig := ⟨"cpu-1", "signer-1", mrenclave⟩

/-- The twelve bytes from the one given. -/
def momentFrom (first : UInt8) : SealingMoment where
  nonce := Vector.ofFn fun i => first + UInt8.ofNat i
  nowMs := 1767225600000

/-- The text `root` in bytes. -/
def stateRoot : Bytes := [0x72, 0x6f, 0x6f, 0x74]

def oldBlob : EncryptedSealedBlob :=
  (sampleEngine "cpu-1" "code-1").sealedBlob samplePlatform.toSealingPlatform (momentFrom 0).nonce
    (momentFrom 0).nowMs stateRoot .mrenclave

/-- The package that moves the old blob to the second measurement. -/
def samplePayload (migrationId : String) : JsValue :=
  .obj [("blob", oldBlob.toJs),
    ("metadata", .obj [("mrsigner", "signer-1"), ("targetMrenclave", "code-2")]),
    ("migrationId", migrationId), ("packageSignatureHex", packageSignature migrationId),
    ("packagePublicKeyPem", packageKey)]

theorem isHexBytes_packageSignature :
    isHexBytes (packageSignature "") = true ∧ isHexBytes (packageSignature "mig-1") = true := by
  decide +kernel

theorem packageSigned_samplePayload {migrationId : String}
    (h : migrationId = "" ∨ migrationId = "mig-1") :
    PackageSigned samplePlatform (samplePayload migrationId) packageKey := by
  refine ⟨migrationId, "migrationId=" ++ migrationId ++ "|mrsigner=" ++ "signer-1" ++
    "|targetMrenclave=" ++ "code-2", rfl, rfl, ?_⟩
  have hkey : packageKey ≠ "" := by simp [packageKey]
  change verifyHexRsaSha256 sealingRsa _ (.str (packageSignature migrationId)) packageKey = true
  rcases h with rfl | rfl
  · simp [verifyHexRsaSha256, hkey, isHexBytes_packageSignature.1, sealingRsa]
  · simp [verifyHexRsaSha256, hkey, isHexBytes_packageSignature.2, sealingRsa]

theorem unsealsTo_samplePayload (mrenclave migrationId : String) :
    UnsealsTo samplePlatform (runningAt mrenclave) (samplePayload migrationId) stateRoot :=
  EnclaveSealingEngine.unsealData_sealedBlob (sampleEngine "cpu-1" "code-1")

theorem migratable_samplePayload (mrenclave : String) :
    Migratable samplePlatform (runningAt mrenclave) (samplePayload "mig-1") "signer-1"
      packageKey where
  hasId := by simp [samplePayload, JsValue.get]
  signed := packageSigned_samplePayload (.inr rfl)
  trusted := ⟨rfl, rfl⟩
  unseals := ⟨stateRoot, by decide, unsealsTo_samplePayload mrenclave "mig-1"⟩

theorem head?_sealingKey_sample :
    ((sampleEngine "cpu-1" "code-2").sealingKey samplePlatform.toSealingPlatform
        .mrenclave).toList.head? = some 0x42 ∧
      ((sampleEngine "cpu-2" "code-2").sealingKey samplePlatform.toSealingPlatform
        .mrenclave).toList.head? = some 0xfb := by
  constructor <;> decide +kernel

theorem idealFor_sample :
    EnclaveSealingEngine.IdealFor samplePlatform.toSealingPlatform (sampleEngine "cpu-1" "code-2")
      (sampleEngine "cpu-2" "code-2") (momentFrom 16).nonce stateRoot .mrenclave where
  hkdf h := by
    have hkey := head?_sealingKey_sample.1
    rw [← h, head?_sealingKey_sample.2] at hkey
    cases hkey
  gcm h := absurd (congrArg (fun tag => tag.toList.head?) h) (by decide +kernel)

theorem migrateBlob_preserves_sample :
    (migrateBlob samplePlatform (runningAt "code-1") (samplePayload "mig-1") "signer-1" packageKey
        (momentFrom 16)).ok = true ∧
      ∀ newBlob, migrateBlob samplePlatform (runningAt "code-1") (samplePayload "mig-1") "signer-1"
          packageKey (momentFrom 16) = .migrated newBlob →
        (sampleEngine "cpu-1" "code-2").unsealData samplePlatform.toSealingPlatform newBlob.toJs =
            .ok stateRoot ∧
          ∀ opened, (sampleEngine "cpu-2" "code-2").unsealData samplePlatform.toSealingPlatform
            newBlob.toJs ≠ .ok opened := by
  have hpreserves := migrateBlob_preserves samplePlatform (runningAt "code-1")
    (samplePayload "mig-1") "signer-1" packageKey (momentFrom 16)
  refine ⟨hpreserves.1.2 (migratable_samplePayload "code-1"), fun newBlob h => ?_⟩
  obtain ⟨plaintext, engineNew, -, hunseals, hengine, hresealed⟩ := hpreserves.2 newBlob h
  cases hunseals.symm.trans (unsealsTo_samplePayload "code-1" "mig-1")
  cases hengine.symm.trans (EnclaveSealingEngine.create_eq_ok_iff.2 ⟨rfl, rfl, rfl⟩ : _ = .ok
    (sampleEngine "cpu-1" "code-2"))
  have hpolicy : newBlob.policy = .mrenclave := by
    apply Option.some.inj
    rw [← EnclaveSealingEngine.policyOf?_eq_some.2 hresealed.policy]
    rfl
  refine ⟨hresealed.unseals, fun opened hopened => ?_⟩
  have hideal := idealFor_sample
  rw [← hpolicy] at hideal
  exact absurd (hresealed.alone _ hideal opened hopened) (by decide)

/-- Signed, trusted and sealed as it should be, a package without a migration id is refused. -/
theorem migration_without_id_refused :
    PackageSigned samplePlatform (samplePayload "") packageKey ∧
      SignerTrusted (samplePayload "") "signer-1" ∧
      (∃ plaintext, plaintext ≠ [] ∧
        UnsealsTo samplePlatform (runningAt "code-1") (samplePayload "") plaintext) ∧
      (migrateBlob samplePlatform (runningAt "code-1") (samplePayload "") "signer-1" packageKey
        (momentFrom 16)).ok = false := by
  refine ⟨packageSigned_samplePayload (.inl rfl), ⟨rfl, rfl⟩,
    ⟨stateRoot, by decide, unsealsTo_samplePayload "code-1" ""⟩, Bool.eq_false_iff.2 fun hok => ?_⟩
  exact (ok_migrateBlob_iff.1 hok).hasId (by simp [samplePayload, JsValue.get])

end UniverEscrow.Infrastructure.EnclaveMigrationManager
