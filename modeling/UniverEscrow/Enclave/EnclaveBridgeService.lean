import UniverEscrow.Enclave.ZkProofEngine

/-!
# The enclave boundary

The readiness flag, the attestation that sets it, and the operations that refuse to run
without it.  A refusal of these operations is a thrown error, given here by its message.
-/

namespace UniverEscrow.Enclave

open UniverEscrow.Js UniverEscrow.Merkle

structure EnclaveBridge where
  enclaveReady : Bool
  testReadyOverride : Bool

namespace EnclaveBridge

def isEnclaveReady (bridge : EnclaveBridge) : Bool :=
  bridge.enclaveReady || bridge.testReadyOverride

def boundaryError : String :=
  "SECURITY_VIOLATION: Enclave boundary uninitialized or attestation failed."

def trustedHsmPublicKeyPem : String :=
  "-----BEGIN PUBLIC KEY-----\n" ++
  "MIIBIjANBgkqhkiG9w0BAQEFAAOCAQ8AMIIBCgKCAQEA0...\n" ++
  "-----END PUBLIC KEY-----"

def expectedPcr0 : String :=
  "8f3c1b2a4e5d6f7g8h9i0j1k2l3m4n5o6p7q8r9s0t1u2v3w4x5y6z7a8b9c0d1e"

/-- `none` where coercion, trimming or verification throws. -/
def signatureAccepted? (rsa : RsaVerify) (doc : JsValue) (signature : String) : Option Bool := do
  let pcr0 ← (doc.get "pcr0").toText
  let pcr1 ← (doc.get "pcr1").toText
  let trustedKey ←
    if (doc.get "hsmPublicKey").truthy then do
      let key ← (doc.get "hsmPublicKey").asString?
      pure (if (jsTrim key).toList.length > 0 then key else trustedHsmPublicKeyPem)
    else pure trustedHsmPublicKeyPem
  rsa trustedKey (pcr0 ++ ":" ++ pcr1) signature

/-- A document without the required members leaves the flag alone; any other one sets it. -/
def verifyEnclaveAttestation (rsa : RsaVerify) (doc : JsValue) (bridge : EnclaveBridge) :
    Bool × EnclaveBridge :=
  if !doc.isObject then (false, bridge)
  else if !(doc.get "pcr0").truthy || !(doc.get "pcr1").truthy then (false, bridge)
  else
    match doc.get "signature" with
    | .str signature =>
        if signature = "" then (false, bridge)
        else
          let accepted := (signatureAccepted? rsa doc signature).getD false &&
            (doc.get "pcr0").isStr expectedPcr0
          (accepted, { bridge with enclaveReady := accepted })
    | _ => (false, bridge)

/-- The setter of the regression harness. -/
def setEnclaveReadyForTest (ready : Bool) (bridge : EnclaveBridge) : EnclaveBridge :=
  { bridge with enclaveReady := ready }

def verifyZkProofInEnclave (sha256 : Sha256) (bridge : EnclaveBridge) (proof : JsValue)
    (publicCommitment allowedTenantHash : String) : Except String Bool :=
  if !bridge.enclaveReady then .error boundaryError
  else .ok (ZkProofEngine.verifyProofMock sha256 proof publicCommitment allowedTenantHash)

/-- The time lock admits exactly the anchors inside its window. -/
def verifyTimeLocksInEnclave (bridge : EnclaveBridge)
    (validAfterMs validUntilMs quorumMedianAnchorMs : JsNumber) : Except String Bool :=
  if !bridge.enclaveReady then .error boundaryError
  else if !validAfterMs.isFinite || !validUntilMs.isFinite || !quorumMedianAnchorMs.isFinite then
    .ok false
  else if quorumMedianAnchorMs.lt validAfterMs then .ok false
  else if validUntilMs.lt quorumMedianAnchorMs then .ok false
  else .ok true

def verifySignatureInEnclave (rsa : RsaVerify) (bridge : EnclaveBridge)
    (payload signature publicKey : String) : Except String Bool :=
  if !bridge.enclaveReady then .error boundaryError
  else .ok (verifySignature rsa payload (.str signature) publicKey)

/-! ## What verifying a document does to the flag -/

/-- The document reaches the signature check. -/
def completeDocument (doc : JsValue) : Bool :=
  doc.isObject && (doc.get "pcr0").truthy && (doc.get "pcr1").truthy &&
    ((doc.get "signature").asString?.any fun signature => signature ≠ "")

/-- What `verifyEnclaveAttestation` answers, on any state of the flag. -/
def acceptsDocument (rsa : RsaVerify) (doc : JsValue) : Bool :=
  (verifyEnclaveAttestation rsa doc ⟨false, false⟩).1

theorem verifyEnclaveAttestation_of_incomplete {rsa : RsaVerify} {doc : JsValue}
    {bridge : EnclaveBridge} (h : completeDocument doc = false) :
    verifyEnclaveAttestation rsa doc bridge = (false, bridge) := by
  unfold verifyEnclaveAttestation
  by_cases hobject : doc.isObject = true
  · by_cases hpcrs : (doc.get "pcr0").truthy = true ∧ (doc.get "pcr1").truthy = true
    · cases hsignature : doc.get "signature" with
      | str signature =>
          have hempty : signature = "" := by
            simpa [completeDocument, hobject, hpcrs, hsignature] using h
          simp [hobject, hpcrs, hempty]
      | _ => simp [hobject, hpcrs]
    · have hmissing : (!(doc.get "pcr0").truthy || !(doc.get "pcr1").truthy) = true := by
        rcases not_and_or.1 hpcrs with hpcr | hpcr <;> simp [hpcr]
      simp only [hobject, Bool.not_true, Bool.false_eq_true, if_false, hmissing, if_true]
  · simp [hobject]

theorem verifyEnclaveAttestation_of_complete {rsa : RsaVerify} {doc : JsValue}
    {bridge : EnclaveBridge} (h : completeDocument doc = true) :
    verifyEnclaveAttestation rsa doc bridge =
      (acceptsDocument rsa doc, { bridge with enclaveReady := acceptsDocument rsa doc }) := by
  simp only [completeDocument, Bool.and_eq_true, Option.any_eq_true, JsValue.asString?_eq_some,
    decide_eq_true_eq] at h
  obtain ⟨⟨⟨hobject, hpcr0⟩, hpcr1⟩, signature, hsignature, hempty⟩ := h
  simp [acceptsDocument, verifyEnclaveAttestation, hobject, hpcr0, hpcr1, hsignature, hempty]

theorem acceptsDocument_of_incomplete {rsa : RsaVerify} {doc : JsValue}
    (h : completeDocument doc = false) : acceptsDocument rsa doc = false := by
  rw [acceptsDocument, verifyEnclaveAttestation_of_incomplete h]

/-- An incomplete document is rejected and leaves the flag as it is; a complete one sets it to
the verdict. -/
theorem verifyEnclaveAttestation_eq (rsa : RsaVerify) (doc : JsValue) (bridge : EnclaveBridge) :
    verifyEnclaveAttestation rsa doc bridge =
      (acceptsDocument rsa doc,
        if completeDocument doc then { bridge with enclaveReady := acceptsDocument rsa doc }
        else bridge) := by
  cases h : completeDocument doc with
  | true => exact verifyEnclaveAttestation_of_complete h
  | false =>
      rw [verifyEnclaveAttestation_of_incomplete h, acceptsDocument_of_incomplete h]
      rfl

end EnclaveBridge

end UniverEscrow.Enclave
