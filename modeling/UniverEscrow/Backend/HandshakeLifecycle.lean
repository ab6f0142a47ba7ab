import UniverEscrow.Backend.PayoutProofController
import UniverEscrow.Lib.Run

/-!
# The status of a handshake

Four entry points move the status.  The router and the proof controller start from a locked
handshake; a one-time password also releases a failed one, and the verdict about an asset
overwrites any status.
-/

namespace UniverEscrow.Backend

open UniverEscrow.Js UniverEscrow.Merkle UniverEscrow.Lib

/-- Hashing and the JSON parser. -/
structure HandshakePlatform where
  sha256 : Sha256
  jsonParse : JsonParse

inductive HandshakeCall where
  | verifyAndRelease (nowMs : ℤ) (input : VerifyAndReleaseInput)
  | processUniversalHandshake (handshakeId : String) (call : ProcessCall)
  | verifyAndProcess (request : VerifyProofRequest)
  | verifyAsset (request : VerifyAssetRequest)

/-- The table after a call. -/
def afterHandshakeCall (platform : HandshakePlatform) (handshakes : Handshakes) :
    HandshakeCall → Handshakes
  | .verifyAndRelease nowMs input =>
      match verifyAndRelease platform.sha256 nowMs input handshakes with
      | .ok (after, _) => after
      | .error _ => handshakes
  | .processUniversalHandshake handshakeId call =>
      (processUniversalHandshake handshakeId call handshakes).1
  | .verifyAndProcess request => (verifyAndProcess request handshakes).1
  | .verifyAsset request => (verifyAsset platform.jsonParse request handshakes).1

/-- A status stays, or leaves `LOCKED`. -/
def Advances (source target : PayoutHandshakeStatus) : Prop := target = source ∨ source = .locked

instance (source target : PayoutHandshakeStatus) : Decidable (Advances source target) :=
  inferInstanceAs (Decidable (_ ∨ _))

/-- Every handshake is still there, and its status has at most left `LOCKED`. -/
def FinalStatuses (before after : Handshakes) : Prop :=
  ∀ id row, before.get? id = some row →
    ∃ row', after.get? id = some row' ∧ Advances row.status row'.status

/-- A one-time password that releases a handshake finds it locked, and the verdict about an
asset finds it locked or as the verdict leaves it. -/
def StaysFinal (platform : HandshakePlatform) (handshakes : Handshakes) : HandshakeCall → Prop
  | .verifyAndRelease _ input =>
      ∀ request handshake, otpReleaseRequest platform.sha256 input = .ok request →
        Releasable request handshakes handshake → handshake.status ≠ .failed
  | .processUniversalHandshake _ _ => True
  | .verifyAndProcess _ => True
  | .verifyAsset request =>
      ∀ handshake verification,
        assetVerification platform.jsonParse request handshakes = .ok (handshake, verification) →
          handshake.status = .locked ∨ handshake.status = verification.nextStatus

theorem advances_self (status : PayoutHandshakeStatus) : Advances status status := .inl rfl

theorem Advances.trans {a b c : PayoutHandshakeStatus} (hab : Advances a b) (hbc : Advances b c) :
    Advances a c := by
  obtain rfl | ha := hab
  · exact hbc
  · exact .inr ha

theorem finalStatuses_self (handshakes : Handshakes) : FinalStatuses handshakes handshakes :=
  fun _ row hrow => ⟨row, hrow, advances_self row.status⟩

theorem FinalStatuses.trans {a b c : Handshakes} (hab : FinalStatuses a b)
    (hbc : FinalStatuses b c) : FinalStatuses a c := by
  intro id row hrow
  obtain ⟨row', hrow', hadvances⟩ := hab id row hrow
  obtain ⟨row'', hrow'', hadvances'⟩ := hbc id row' hrow'
  exact ⟨row'', hrow'', hadvances.trans hadvances'⟩

theorem finalStatuses_set_iff {handshakes : Handshakes} {id : String} {row row' : PayoutHandshake}
    (hrow : handshakes.get? id = some row) :
    FinalStatuses handshakes (handshakes.set id row') ↔ Advances row.status row'.status :=
  OrderedMap.rel_set_iff (fun handshake => advances_self handshake.status) hrow

/-! ## One call -/

section
variable {platform : HandshakePlatform} {handshakes : Handshakes}

theorem finalStatuses_process (handshakeId : String) (call : ProcessCall)
    (handshakes : Handshakes) :
    FinalStatuses handshakes (processUniversalHandshake handshakeId call handshakes).1 := by
  have hprocesses := processes handshakeId call handshakes
  generalize processUniversalHandshake handshakeId call handshakes = result at hprocesses ⊢
  cases hprocesses with
  | refused _ => exact finalStatuses_self handshakes
  | released payable _ _ => exact (finalStatuses_set_iff payable.found).2 (.inr payable.locked)
  | failed payable => exact (finalStatuses_set_iff payable.found).2 (.inr payable.locked)

theorem finalStatuses_verifyAndProcess (request : VerifyProofRequest) (handshakes : Handshakes) :
    FinalStatuses handshakes (verifyAndProcess request handshakes).1 := by
  rw [verifyAndProcess]
  cases hproof : proofVerification request handshakes with
  | error e => exact finalStatuses_self handshakes
  | ok found =>
      obtain ⟨handshake, verification⟩ := found
      obtain ⟨hfound, -⟩ := proofVerification_eq_ok hproof
      have hstored : FinalStatuses handshakes
          (handshakes.set request.handshakeId (verifiedProof verification handshake)) :=
        (finalStatuses_set_iff hfound).2 (advances_self handshake.status)
      cases hproves : verification.proves with
      | false => simpa [hproves] using hstored
      | true =>
          simp only [hproves, ↓reduceIte]
          exact hstored.trans (finalStatuses_process _ _ _)

theorem finalStatuses_verifyAndRelease_iff {nowMs : ℤ} {input : VerifyAndReleaseInput} :
    FinalStatuses handshakes (afterHandshakeCall platform handshakes
        (.verifyAndRelease nowMs input)) ↔
      StaysFinal platform handshakes (.verifyAndRelease nowMs input) := by
  rw [afterHandshakeCall, StaysFinal]
  cases hrelease : verifyAndRelease platform.sha256 nowMs input handshakes with
  | error message =>
      refine iff_of_true (finalStatuses_self handshakes) fun request handshake hrequest h => ?_
      have hok : verifyAndRelease platform.sha256 nowMs input handshakes = .ok _ :=
        verifyAndRelease_eq_ok.2 ⟨request, handshake, hrequest, h, rfl, rfl⟩
      rw [hrelease] at hok
      cases hok
  | ok result =>
      obtain ⟨after, row⟩ := result
      obtain ⟨request, before, hrequest, hreleasable, hrow, hafter⟩ :=
        verifyAndRelease_eq_ok.1 hrelease
      have hiff : FinalStatuses handshakes after ↔ before.status ≠ .failed := by
        rw [← hafter, finalStatuses_set_iff hreleasable.found, ← hrow]
        have hopen := hreleasable.notReleased
        revert hopen
        simp only [releasedByOtp]
        cases before.status <;> decide
      rw [hiff]
      constructor
      · intro h request' before' hrequest' hreleasable'
        rw [hrequest] at hrequest'
        cases hrequest'
        have hsame := hreleasable.found.symm.trans hreleasable'.found
        exact Option.some.inj hsame ▸ h
      · intro h
        exact h request before hrequest hreleasable

theorem finalStatuses_verifyAsset_iff {request : VerifyAssetRequest} :
    FinalStatuses handshakes (afterHandshakeCall platform handshakes (.verifyAsset request)) ↔
      StaysFinal platform handshakes (.verifyAsset request) := by
  rw [afterHandshakeCall, StaysFinal, verifyAsset]
  cases hasset : assetVerification platform.jsonParse request handshakes with
  | error e =>
      exact iff_of_true (finalStatuses_self handshakes) fun handshake verification h => by cases h
  | ok found =>
      obtain ⟨handshake, verification⟩ := found
      have hiff : FinalStatuses handshakes
          (handshakes.set request.id (verifiedAsset verification handshake)) ↔
          handshake.status = .locked ∨ handshake.status = verification.nextStatus := by
        rw [finalStatuses_set_iff (assetVerification_eq_ok hasset).1, Advances, or_comm]
        exact or_congr Iff.rfl eq_comm
      simp only [hiff, Except.ok.injEq, Prod.mk.injEq]
      constructor
      · rintro h _ _ ⟨rfl, rfl⟩
        exact h
      · intro h
        exact h handshake verification ⟨rfl, rfl⟩

theorem finalStatuses_iff (platform : HandshakePlatform) (handshakes : Handshakes)
    (call : HandshakeCall) :
    FinalStatuses handshakes (afterHandshakeCall platform handshakes call) ↔
      StaysFinal platform handshakes call := by
  cases call with
  | verifyAndRelease nowMs input => exact finalStatuses_verifyAndRelease_iff
  | processUniversalHandshake handshakeId call =>
      exact iff_of_true (finalStatuses_process handshakeId call handshakes) trivial
  | verifyAndProcess request =>
      exact iff_of_true (finalStatuses_verifyAndProcess request handshakes) trivial
  | verifyAsset request => exact finalStatuses_verifyAsset_iff

end

/-- In a run of the four entry points every status leaves `LOCKED` at most, exactly where no
password releases a failed handshake and no verdict overturns a status. -/
theorem handshake_statuses_final_iff (platform : HandshakePlatform) (handshakes : Handshakes)
    (calls : List HandshakeCall) :
    Run.EachStep (afterHandshakeCall platform)
        (fun handshakes call => FinalStatuses handshakes
          (afterHandshakeCall platform handshakes call)) handshakes calls ↔
      Run.EachStep (afterHandshakeCall platform) (StaysFinal platform) handshakes calls :=
  Run.eachStep_congr (finalStatuses_iff platform)

/-! ### A sample -/

/-- SHA-256 on the one-time passwords of the sample; other texts get the digest of `000000`. -/
def passwordSha256 : Sha256 := fun data =>
  if data = "123456" then
    ⟨"8d969eef6ecad3c29a3a629280e686cf0c3f5d5a86aff3ca12020c923adc6c92", by decide +kernel⟩
  else if data = "000001" then
    ⟨"a7fda0b61e2047f0f1057d1f5f064c272fd5d490961c531f4df64b0dd354683a", by decide +kernel⟩
  else ⟨"91b4d142823f7d20c5f08df69122de43f35f057a988d9619f6d3138485c9a203", by decide +kernel⟩

def samplePlatform : HandshakePlatform where
  sha256 := passwordSha256
  jsonParse _ := none

def sampleErrors : CreateErrors where
  invalidValue field _ := "Invalid value for argument `" ++ field ++ "`."
  integerOutOfRange _ := "Unable to fit integer value into an INT8 (64-bit signed integer)."
  tenantNotFound := "Foreign key constraint violated: `PayoutHandshake_tenantId_fkey (index)`"

def sampleInput : CreateHandshakeInput where
  tenantId := "tenant-a"
  amountKES := .ofRat (2501 / 2)
  recipientPhone := "254700000001"
  route := "MPESA"

/-- What the random generator gives for the password `123456`. -/
def samplePassword : Fin 1000000 := 123456

/-- The table with one handshake, just created, with this password. -/
def sampleHandshakes : Handshakes :=
  match createHandshake passwordSha256 sampleErrors (fun _ => true) 1 "u-1" samplePassword
    sampleInput OrderedMap.empty with
  | .ok (handshakes, _) => handshakes
  | .error _ => OrderedMap.empty

def otpInput (otp idempotencyKey : String) : VerifyAndReleaseInput where
  handshakeId := "hs_u-1"
  userProvidedOtp := otp
  safetyNetImageUrl := "https://proof.example/1.jpg"
  gpsMetadata := .null
  idempotencyKey := idempotencyKey

def otpCall (otp idempotencyKey : String) : HandshakeCall :=
  .verifyAndRelease 1767225600000 (otpInput otp idempotencyKey)

def sampleProcess : ProcessCall where
  txMs := 1767225660000
  releasedMs := 1767225660001
  rail := .ok ()

/-- The model answers with a verdict and a confidence. -/
def assetCall (isMatch : Bool) (confidence : ℚ) : HandshakeCall :=
  .verifyAsset {
    id := "hs_u-1"
    hasImage := true
    tenantId := some "tenant-a"
    model := fun _ => .text (some (.obj [("isMatch", .bool isMatch),
      ("confidence", .num (.ofRat confidence)), ("extractedDetails", .str "no part number"),
      ("issueDetected", .bool false)])) }

/-- The status of the sample's handshake after calls. -/
def handshakeStatusAfter (calls : List HandshakeCall) : Option PayoutHandshakeStatus :=
  ((Run.run (afterHandshakeCall samplePlatform) sampleHandshakes calls).get? "hs_u-1").map
    PayoutHandshake.status

/-- A verdict fails a released handshake, and its password releases it again. -/
theorem released_handshake_fails :
    handshakeStatusAfter [] = some .locked ∧
      handshakeStatusAfter [otpCall "123456" "key-1"] = some .released ∧
      handshakeStatusAfter [otpCall "123456" "key-1", assetCall false (2 / 5)] = some .failed ∧
      handshakeStatusAfter [otpCall "123456" "key-1", assetCall false (2 / 5),
        otpCall "123456" "key-2"] = some .released ∧
      ¬ Run.EachStep (afterHandshakeCall samplePlatform)
        (fun handshakes call => FinalStatuses handshakes
          (afterHandshakeCall samplePlatform handshakes call))
        sampleHandshakes [otpCall "123456" "key-1", assetCall false (2 / 5)] := by
  have hstatus : handshakeStatusAfter [] = some .locked ∧
      handshakeStatusAfter [otpCall "123456" "key-1"] = some .released ∧
      handshakeStatusAfter [otpCall "123456" "key-1", assetCall false (2 / 5)] = some .failed ∧
      handshakeStatusAfter [otpCall "123456" "key-1", assetCall false (2 / 5),
        otpCall "123456" "key-2"] = some .released := by
    decide +kernel
  obtain ⟨hlocked, hreleased, hfailed, hagain⟩ := hstatus
  refine ⟨hlocked, hreleased, hfailed, hagain, fun h => ?_⟩
  obtain ⟨-, hverdict, -⟩ := h
  obtain ⟨before, hbefore, hsource⟩ := Option.map_eq_some_iff.1 hreleased
  obtain ⟨after, hafter, hadvances⟩ := hverdict "hs_u-1" before hbefore
  have htarget : some after.status = some .failed :=
    (congrArg (Option.map PayoutHandshake.status) hafter).symm.trans hfailed
  rw [hsource, Option.some.inj htarget] at hadvances
  exact absurd hadvances (by decide)

end UniverEscrow.Backend
