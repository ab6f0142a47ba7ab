import UniverEscrow.Infrastructure.MigrationPreserves
import UniverEscrow.Router.EscrowRouter

/-!
# Upgrading the enclave's state

The handler migrates a blob for the sealing context that is active and then moves the context to
the measurement the package names.  The blob is unsealed under the identity it names itself, so
the context it was active for does not matter.
-/

namespace UniverEscrow.Router

open UniverEscrow.Js UniverEscrow.Enclave UniverEscrow.Cryptography UniverEscrow.Infrastructure
open UniverEscrow.Lib

/-! ## POST /api/infrastructure/upgrade-state-enclave -/

/-- `process.env.CPU_MASTER_SECRET`, `CURRENT_MRSIGNER` and `CURRENT_MRENCLAVE`. -/
structure SealingEnv where
  cpuMasterSecret : Option String
  currentMrsigner : Option String
  currentMrenclave : Option String

/-- A request, the state of the boundary it meets, and what a new blob is sealed with. -/
structure UpgradeRequest where
  bridge : EnclaveBridge
  body : JsValue
  moment : SealingMoment

structure UpgradeParams where
  payload : JsValue
  trustedMRSIGNER : String
  trustedPackagePublicKeyPem : String

/-- `DatabaseService.getActiveSealingContext()`, or else the environment's. -/
def currentSealingContext (env : SealingEnv) (active : Option EnclaveSealingConfig) :
    EnclaveSealingConfig :=
  active.getD
    ⟨env.cpuMasterSecret.getD "", env.currentMrsigner.getD "", env.currentMrenclave.getD ""⟩

def upgradeGate (request : UpgradeRequest) (context : EnclaveSealingConfig) :
    Except Response UpgradeParams := do
  answerUnless request.bridge.isEnclaveReady (failed 503 "ENCLAVE_NOT_READY")
  let payload := request.body.get "payload"
  answerUnless payload.isObject (failed 400 "MIGRATION_PAYLOAD_REQUIRED")
  let trustedMRSIGNER ← orAnswer (failed 400 "TRUSTED_MRSIGNER_REQUIRED")
    (EnclaveMigrationManager.nonEmptyString? (request.body.get "trustedMRSIGNER"))
  let trustedPackagePublicKeyPem ← orAnswer (failed 400 "TRUSTED_PACKAGE_PUBLIC_KEY_REQUIRED")
    (EnclaveMigrationManager.nonEmptyString? (request.body.get "trustedPackagePublicKeyPem"))
  answerUnless (context.cpuMasterSecret ≠ "" && context.mrsigner ≠ "" && context.mrenclave ≠ "")
    (failed 500 "ACTIVE_SEALING_CONTEXT_UNAVAILABLE")
  return ⟨payload, trustedMRSIGNER, trustedPackagePublicKeyPem⟩

/-- `DatabaseService.setActiveSealingContext`: the context as it is stored. -/
def setActiveSealingContext (cpuMasterSecret mrsigner mrenclave : JsValue) :
    Except String EnclaveSealingConfig := do
  let cpuMasterSecret ← textOrThrow cpuMasterSecret
  let mrsigner ← textOrThrow mrsigner
  let mrenclave ← textOrThrow mrenclave
  return ⟨cpuMasterSecret, mrsigner, mrenclave⟩

/-- What the migration manager of a context makes of a request. -/
def UpgradeParams.migrate (params : UpgradeParams) (platform : MigrationPlatform)
    (context : EnclaveSealingConfig) (moment : SealingMoment) : MigrationResult :=
  EnclaveMigrationManager.migrateBlob platform context params.payload params.trustedMRSIGNER
    params.trustedPackagePublicKeyPem moment

/-- The active context after the request, and the response. -/
def upgradeStateEnclave (platform : MigrationPlatform) (env : SealingEnv)
    (active : Option EnclaveSealingConfig) (request : UpgradeRequest) :
    Option EnclaveSealingConfig × Response :=
  let context := currentSealingContext env active
  match upgradeGate request context with
  | .error response => (active, response)
  | .ok params =>
      match params.migrate platform context request.moment with
      | .refused error => (active, failed 403 error)
      | .migrated newBlob =>
          match setActiveSealingContext context.cpuMasterSecret params.trustedMRSIGNER
            ((params.payload.get "metadata").get "targetMrenclave") with
          | .error error => (active, failed 500 error)
          | .ok newContext =>
              (some newContext, ⟨200, .obj [("status", "SUCCESS"), ("newBlob", newBlob.toJs)]⟩)

/-! ## Whose blobs are migrated -/

open EnclaveMigrationManager

/-- The blob names the identity of the sealing context. -/
def OwnBlob (context : EnclaveSealingConfig) (payload : JsValue) : Prop :=
  ((payload.get "blob").get "platform").get "mrsigner" = .str context.mrsigner ∧
    ((payload.get "blob").get "platform").get "mrenclave" = .str context.mrenclave

/-- The trusted authority is the context's, and the blob names its measurement. -/
def SealedForContext (context : EnclaveSealingConfig) (payload : JsValue)
    (trustedMRSIGNER : String) : Prop :=
  trustedMRSIGNER = context.mrsigner ∧
    ((payload.get "blob").get "platform").get "mrenclave" = .str context.mrenclave

variable {platform : MigrationPlatform} {env : SealingEnv} {active : Option EnclaveSealingConfig}
  {request : UpgradeRequest} {context : EnclaveSealingConfig} {payload : JsValue}
  {trustedMRSIGNER trustedPackagePublicKeyPem : String}

theorem ownBlob_iff (h : SignerTrusted payload trustedMRSIGNER) :
    OwnBlob context payload ↔ SealedForContext context payload trustedMRSIGNER := by
  rw [OwnBlob, SealedForContext, h.2]
  simp

/-- A migration by the manager of a context. -/
theorem migrates_own_iff (moment : SealingMoment) :
    ((migrateBlob platform context payload trustedMRSIGNER trustedPackagePublicKeyPem
        moment).ok = true → OwnBlob context payload) ↔
      (Migratable platform context payload trustedMRSIGNER trustedPackagePublicKeyPem →
        SealedForContext context payload trustedMRSIGNER) := by
  rw [ok_migrateBlob_iff]
  constructor
  · intro h hmigratable
    exact (ownBlob_iff hmigratable.trusted).1 (h hmigratable)
  · intro h hmigratable
    exact (ownBlob_iff hmigratable.trusted).2 (h hmigratable)

/-- The request passes the checks of the handler, and its package those of the manager. -/
def Upgrades (platform : MigrationPlatform) (env : SealingEnv)
    (active : Option EnclaveSealingConfig) (request : UpgradeRequest) (params : UpgradeParams) :
    Prop :=
  upgradeGate request (currentSealingContext env active) = .ok params ∧
    Migratable platform (currentSealingContext env active) params.payload params.trustedMRSIGNER
      params.trustedPackagePublicKeyPem

theorem upgradeGate_eq_ok_iff {params : UpgradeParams} :
    upgradeGate request context = .ok params ↔
      request.bridge.isEnclaveReady = true ∧ (request.body.get "payload").isObject = true ∧
        nonEmptyString? (request.body.get "trustedMRSIGNER") = some params.trustedMRSIGNER ∧
        nonEmptyString? (request.body.get "trustedPackagePublicKeyPem") =
          some params.trustedPackagePublicKeyPem ∧
        (context.cpuMasterSecret ≠ "" && context.mrsigner ≠ "" && context.mrenclave ≠ "") = true ∧
        request.body.get "payload" = params.payload := by
  simp only [upgradeGate, bind_eq_ok, answerUnless_eq_ok, orAnswer_eq_ok, pure, Except.pure,
    Except.ok.injEq]
  constructor
  · rintro ⟨-, hready, -, hpayload, signer, hsigner, key, hkey, -, hcontext, rfl⟩
    exact ⟨hready, hpayload, hsigner, hkey, hcontext, rfl⟩
  · rintro ⟨hready, hpayload, hsigner, hkey, hcontext, heq⟩
    exact ⟨(), hready, (), hpayload, _, hsigner, _, hkey, (), hcontext, by rw [heq]⟩

theorem payload_of_upgradeGate {params : UpgradeParams}
    (h : upgradeGate request context = .ok params) :
    request.body.get "payload" = params.payload := by
  obtain ⟨-, -, -, -, -, hpayload⟩ := upgradeGate_eq_ok_iff.1 h
  exact hpayload

theorem code_of_upgradeGate {response : Response}
    (h : upgradeGate request context = .error response) : response.code ≠ 200 := by
  simp only [upgradeGate, bind_eq_error, answerUnless_eq_error, answerUnless_eq_ok,
    orAnswer_eq_error, orAnswer_eq_ok, exists_const] at h
  rcases h with ⟨-, rfl⟩ | ⟨-, ⟨-, rfl⟩ | ⟨-, ⟨-, rfl⟩ | ⟨_, -, ⟨-, rfl⟩ | ⟨_, -, h⟩⟩⟩⟩
  · decide
  · decide
  · decide
  · decide
  · rcases h with ⟨-, rfl⟩ | ⟨-, h⟩
    · decide
    · cases h

/-- A stored context is what its three values read as. -/
theorem setActiveSealingContext_eq (cpuMasterSecret mrsigner : String) {mrenclave : JsValue}
    {target : String} (h : mrenclave.toText = some target) :
    setActiveSealingContext cpuMasterSecret mrsigner mrenclave =
      .ok ⟨cpuMasterSecret, mrsigner, target⟩ := by
  rw [setActiveSealingContext, textOrThrow_eq_ok.2 h]
  rfl

/-- A request that upgrades moves the active context to its target measurement. -/
theorem upgradeStateEnclave_of_upgrades {params : UpgradeParams}
    (h : Upgrades platform env active request params) :
    (upgradeStateEnclave platform env active request).2.code = 200 ∧
      ∃ target, ((params.payload.get "metadata").get "targetMrenclave").toText = some target ∧
        (upgradeStateEnclave platform env active request).1 =
          some ⟨(currentSealingContext env active).cpuMasterSecret, params.trustedMRSIGNER,
            target⟩ := by
  obtain ⟨hgate, hmigratable⟩ := h
  obtain ⟨target, htarget⟩ := exists_target_of_packageSigned hmigratable.signed
  have hok : (params.migrate platform (currentSealingContext env active) request.moment).ok =
      true := ok_migrateBlob_iff.2 hmigratable
  rw [upgradeStateEnclave, hgate]
  dsimp only
  cases hresult : params.migrate platform (currentSealingContext env active) request.moment with
  | refused error =>
      rw [hresult] at hok
      cases hok
  | migrated newBlob =>
      dsimp only
      rw [setActiveSealingContext_eq _ _ htarget]
      exact ⟨rfl, target, htarget, rfl⟩

/-- Any other request leaves the active context. -/
theorem upgradeStateEnclave_of_not_upgrades
    (h : ∀ params, ¬Upgrades platform env active request params) :
    (upgradeStateEnclave platform env active request).2.code ≠ 200 ∧
      (upgradeStateEnclave platform env active request).1 = active := by
  rw [upgradeStateEnclave]
  cases hgate : upgradeGate request (currentSealingContext env active) with
  | error response => exact ⟨code_of_upgradeGate hgate, rfl⟩
  | ok params =>
      dsimp only
      cases hresult : params.migrate platform (currentSealingContext env active)
          request.moment with
      | refused error => exact ⟨by simp [failed], rfl⟩
      | migrated newBlob =>
          have hok : (params.migrate platform (currentSealingContext env active)
              request.moment).ok = true := by
            rw [hresult]
            rfl
          exact absurd ⟨hgate, ok_migrateBlob_iff.1 hok⟩ (h params)

theorem code_upgradeStateEnclave_iff :
    (upgradeStateEnclave platform env active request).2.code = 200 ↔
      ∃ params, Upgrades platform env active request params := by
  constructor
  · intro hcode
    by_contra hnone
    exact (upgradeStateEnclave_of_not_upgrades (not_exists.1 hnone)).1 hcode
  · rintro ⟨params, h⟩
    exact (upgradeStateEnclave_of_upgrades h).1

/-! ## Runs of upgrades -/

/-- The active context after a request. -/
def upgradeStep (platform : MigrationPlatform) (env : SealingEnv)
    (active : Option EnclaveSealingConfig) (request : UpgradeRequest) :
    Option EnclaveSealingConfig :=
  (upgradeStateEnclave platform env active request).1

/-- What is migrated was sealed for the context active before. -/
def MigratesOwn (platform : MigrationPlatform) (env : SealingEnv)
    (active : Option EnclaveSealingConfig) (request : UpgradeRequest) : Prop :=
  (upgradeStateEnclave platform env active request).2.code = 200 →
    OwnBlob (currentSealingContext env active) (request.body.get "payload")

/-- A request that upgrades brings a blob sealed for the context it meets. -/
def BringsOwn (platform : MigrationPlatform) (env : SealingEnv)
    (active : Option EnclaveSealingConfig) (request : UpgradeRequest) : Prop :=
  ∀ params, Upgrades platform env active request params →
    SealedForContext (currentSealingContext env active) params.payload params.trustedMRSIGNER

theorem migratesOwn_iff (active : Option EnclaveSealingConfig) (request : UpgradeRequest) :
    MigratesOwn platform env active request ↔ BringsOwn platform env active request := by
  rw [MigratesOwn, BringsOwn, code_upgradeStateEnclave_iff, forall_exists_index]
  apply forall_congr'
  intro params
  apply imp_congr_right
  intro h
  rw [payload_of_upgradeGate h.1]
  exact ownBlob_iff h.2.trusted

/-- A manager migrates the blobs of its own context alone exactly where no package that is
signed, trusted and unseals by itself brings another's, and so does a node whose active context
follows its upgrades. -/
theorem own_blobs_migrated_iff (platform : MigrationPlatform) (env : SealingEnv) :
    (∀ context payload trustedMRSIGNER trustedPackagePublicKeyPem moment,
      ((migrateBlob platform context payload trustedMRSIGNER trustedPackagePublicKeyPem
          moment).ok = true → OwnBlob context payload) ↔
        (Migratable platform context payload trustedMRSIGNER trustedPackagePublicKeyPem →
          SealedForContext context payload trustedMRSIGNER)) ∧
      (∀ active request params, Upgrades platform env active request params →
        ∃ target, ((params.payload.get "metadata").get "targetMrenclave").toText = some target ∧
          upgradeStep platform env active request =
            some ⟨(currentSealingContext env active).cpuMasterSecret, params.trustedMRSIGNER,
              target⟩) ∧
      ∀ active requests,
        Run.EachStep (upgradeStep platform env) (MigratesOwn platform env) active requests ↔
          Run.EachStep (upgradeStep platform env) (BringsOwn platform env) active requests := by
  refine ⟨?_, ?_, ?_⟩
  · intro context payload trustedMRSIGNER trustedPackagePublicKeyPem moment
    exact migrates_own_iff moment
  · intro active request params h
    exact (upgradeStateEnclave_of_upgrades h).2
  · intro active requests
    exact Run.eachStep_congr migratesOwn_iff

/-! ### A sample -/

def unsetEnv : SealingEnv := ⟨none, none, none⟩

/-- The sample package as a request. -/
def sampleUpgrade (moment : SealingMoment) : UpgradeRequest where
  bridge := ⟨true, false⟩
  body := .obj [("payload", samplePayload "mig-1"), ("trustedMRSIGNER", "signer-1"),
    ("trustedPackagePublicKeyPem", packageKey)]
  moment := moment

theorem upgrades_sampleUpgrade (mrenclave : String) (moment : SealingMoment)
    (h : mrenclave = "code-1" ∨ mrenclave = "code-2") :
    Upgrades samplePlatform unsetEnv (some (runningAt mrenclave)) (sampleUpgrade moment)
      ⟨samplePayload "mig-1", "signer-1", packageKey⟩ := by
  refine ⟨upgradeGate_eq_ok_iff.2 ⟨rfl, rfl, rfl, ?_, ?_, rfl⟩, migratable_samplePayload mrenclave⟩
  · exact nonEmptyString?_eq_some.2 ⟨rfl, by simp [sampleUpgrade, JsValue.get, packageKey]⟩
  · rcases h with rfl | rfl <;> decide

/-- The upgrade moves the node to the second measurement, and the same request, whose blob is
sealed to the first one, is answered with a migration again. -/
theorem superseded_blob_migrated :
    (migrateBlob samplePlatform (runningAt "code-2") (samplePayload "mig-1") "signer-1" packageKey
        (momentFrom 16)).ok = true ∧
      upgradeStep samplePlatform unsetEnv (some (runningAt "code-1"))
        (sampleUpgrade (momentFrom 16)) = some (runningAt "code-2") ∧
      (((samplePayload "mig-1").get "blob").get "platform").get "mrenclave" = .str "code-1" ∧
      (upgradeStateEnclave samplePlatform unsetEnv (some (runningAt "code-2"))
        (sampleUpgrade (momentFrom 32))).2.code = 200 := by
  have hfirst := upgrades_sampleUpgrade "code-1" (momentFrom 16) (.inl rfl)
  have hagain := upgrades_sampleUpgrade "code-2" (momentFrom 32) (.inr rfl)
  refine ⟨ok_migrateBlob_iff.2 (migratable_samplePayload "code-2"), ?_, rfl,
    (upgradeStateEnclave_of_upgrades hagain).1⟩
  obtain ⟨-, target, htarget, hstep⟩ := upgradeStateEnclave_of_upgrades hfirst
  cases htarget
  rw [upgradeStep, hstep]
  rfl

end UniverEscrow.Router
