import UniverEscrow.Router.EscrowRouter

/-!
# The handlers around the enclave boundary

The handlers that verify attestation documents, and the proof verifier behind the boundary.
-/

namespace UniverEscrow.Router

open UniverEscrow.Js UniverEscrow.Enclave UniverEscrow.Consensus

/-- A refusal that names its reason twice. -/
def failedWithCode (code : ℕ) (error tag : String) : Response :=
  ⟨code, .obj [("status", "FAILED"), ("error", error), ("code", tag)]⟩

def succeeded (message : String) : Response :=
  ⟨200, .obj [("status", "SUCCESS"), ("message", message)]⟩

/-! ## POST /enclave/attest -/

def enclaveAttest (platform : Platform) (doc : JsValue) (node : Node) : Node × Response :=
  let (ok, bridge) := node.bridge.verifyEnclaveAttestation platform.rsa doc
  let node := { node with bridge := bridge }
  if !ok then (node, failed 403 "Hardware attestation document validation mismatch.")
  else (node, succeeded "Enclave boundary attested and secured.")

/-! ## POST /api/infrastructure/join-cluster -/

def expectedPcr1 : String := "boot-runtime-param"

/-- The measurements are those of the baseline template. -/
def matchesBaseline (doc : JsValue) : Bool :=
  (doc.get "pcr0").isStr EnclaveBridge.expectedPcr0 && (doc.get "pcr1").isStr expectedPcr1

def joinGate (body : JsValue) : Except Response (NodeId × JsValue) := do
  answerUnless (body.get "nodeId").truthy (failed 400 "Missing/invalid nodeId.")
  let nodeId ← orAnswer (failed 400 "Missing/invalid nodeId.") (body.get "nodeId").asString?
  answerUnless (body.get "attestationDocument").truthy
    (failed 400 "Missing attestationDocument.")
  return (nodeId, body.get "attestationDocument")

/-- The admission of a document that has passed the structural check. -/
def admitPeer (platform : Platform) (nodeId : NodeId) (doc : JsValue) (node : Node) :
    Node × Response :=
  let (ok, cluster, bridge) := EnclaveClusterService.registerPeer platform.rsa nodeId
    ("vsock://internal/" ++ nodeId) doc node.cluster node.bridge
  let node := { node with cluster := cluster, bridge := bridge }
  if !ok then (node, failedWithCode 403 "Hardware measurement mismatch." "JOIN_REJECTED")
  else (node, succeeded "Node admitted to BFT sync plane.")

/-- The handler raises the flag before it looks at the request. -/
def joinCluster (platform : Platform) (body : JsValue) (node : Node) : Node × Response :=
  let node := { node with bridge := node.bridge.setEnclaveReadyForTest true }
  match joinGate body with
  | .error response => (node, response)
  | .ok (nodeId, doc) =>
      let (ok, bridge) := node.bridge.verifyEnclaveAttestation platform.rsa doc
      let node := { node with bridge := bridge }
      if !ok then
        (node, failedWithCode 403 "ATTestation structural verification failed."
          "ATTN_STRUCT_FAIL")
      else if !matchesBaseline doc then
        (node, failedWithCode 403 "MEASUREMENT_MISMATCH" "MEASUREMENT_MISMATCH")
      else admitPeer platform nodeId doc node

/-! ## POST /consensus/register-peer -/

def registerGate (body : JsValue) : Except Response (NodeId × String × JsValue) := do
  answerUnless ((body.get "nodeId").truthy && (body.get "endpoint").truthy &&
      (body.get "attestation").truthy) (failed 400 "Missing registration matrices.")
  let nodeId ← orAnswer (failed 500 coercionError) (body.get "nodeId").toText
  let endpoint ← orAnswer (failed 500 coercionError) (body.get "endpoint").toText
  return (nodeId, endpoint, body.get "attestation")

def registerPeer (platform : Platform) (body : JsValue) (node : Node) : Node × Response :=
  match registerGate body with
  | .error response => (node, response)
  | .ok (nodeId, endpoint, attestation) =>
      let (ok, cluster, bridge) := EnclaveClusterService.registerPeer platform.rsa nodeId endpoint
        attestation node.cluster node.bridge
      let node := { node with cluster := cluster, bridge := bridge }
      if !ok then (node, failed 403 "Hardware measurement mismatch.")
      else (node, succeeded "Peer added to consensus group.")

/-! ## POST /verify-zk-proof -/

def zkProofChecked (platform : Platform) (body : JsValue) (node : Node) :
    Except Response Response := do
  let missing := failed 400 "Missing zkProof or publicCommitment."
  answerUnless (body.get "zkProof").truthy missing
  let publicCommitment ← orAnswer missing (body.get "publicCommitment").asString?
  let _ ← orAnswer (failed 400 "Missing publicKey.") (body.get "publicKey").asString?
  let allowedTenantHash ← orAnswer (failed 400 "Missing allowedTenantHash.")
    (body.get "allowedTenantHash").asString?
  let ok ← (node.bridge.verifyZkProofInEnclave platform.sha256 (body.get "zkProof")
    publicCommitment allowedTenantHash).mapError (failed 500)
  answerUnless ok (failed 403 "ZK_PROOF_VERIFICATION_FAILED")
  return ⟨200, .obj [("status", "SUCCESS"), ("verified", .bool true)]⟩

def verifyZkProof (platform : Platform) (body : JsValue) (node : Node) : Node × Response :=
  match zkProofChecked platform body node with
  | .error response => (node, response)
  | .ok response => (node, response)

/-! ## What the handlers do to the boundary -/

variable {platform : Platform} {node : Node}

theorem bridge_enclaveAttest (doc : JsValue) :
    (enclaveAttest platform doc node).1.bridge =
      (node.bridge.verifyEnclaveAttestation platform.rsa doc).2 := by
  unfold enclaveAttest
  dsimp only
  split_ifs <;> rfl

theorem bridge_registerPeer (body : JsValue) :
    (registerPeer platform body node).1.bridge =
      match registerGate body with
      | .error _ => node.bridge
      | .ok (_, _, attestation) =>
          (node.bridge.verifyEnclaveAttestation platform.rsa attestation).2 := by
  unfold registerPeer
  cases registerGate body with
  | error response => rfl
  | ok checked =>
      dsimp only
      rw [← EnclaveClusterService.bridge_registerPeer platform.rsa checked.1 checked.2.1 checked.2.2
        node.cluster]
      split_ifs <;> rfl

/-- Verifying a document twice is verifying it once. -/
theorem verifyEnclaveAttestation_idem (rsa : RsaVerify) (doc : JsValue) (bridge : EnclaveBridge) :
    ((bridge.verifyEnclaveAttestation rsa doc).2.verifyEnclaveAttestation rsa doc).2 =
      (bridge.verifyEnclaveAttestation rsa doc).2 := by
  rw [EnclaveBridge.verifyEnclaveAttestation_eq, EnclaveBridge.verifyEnclaveAttestation_eq]
  cases EnclaveBridge.completeDocument doc <;> rfl

theorem bridge_admitPeer (nodeId : NodeId) (doc : JsValue) :
    (admitPeer platform nodeId doc node).1.bridge =
      (node.bridge.verifyEnclaveAttestation platform.rsa doc).2 := by
  rw [← EnclaveClusterService.bridge_registerPeer platform.rsa nodeId
    ("vsock://internal/" ++ nodeId) doc node.cluster]
  unfold admitPeer
  dsimp only
  split_ifs <;> rfl

theorem bridge_joinCluster (body : JsValue) :
    (joinCluster platform body node).1.bridge =
      match joinGate body with
      | .error _ => node.bridge.setEnclaveReadyForTest true
      | .ok (_, doc) =>
          ((node.bridge.setEnclaveReadyForTest true).verifyEnclaveAttestation platform.rsa
            doc).2 := by
  unfold joinCluster
  cases joinGate body with
  | error response => rfl
  | ok checked =>
      dsimp only
      split_ifs
      · rfl
      · rfl
      · rw [bridge_admitPeer, verifyEnclaveAttestation_idem]

theorem bridge_verifyZkProof (body : JsValue) :
    (verifyZkProof platform body node).1.bridge = node.bridge := by
  unfold verifyZkProof
  split <;> rfl

theorem bridge_lock (clock : RequestClock) (body : JsValue) :
    (lock platform clock body node).1.bridge = node.bridge := by
  unfold lock
  split
  · rfl
  · rfl
  · rename_i record receipt _ _
    have hsave : (node.saveRecord platform clock record).1.bridge = node.bridge := rfl
    split
    · rename_i saved hsaved
      rw [← hsave, hsaved]
    · rename_i saved failure hsaved
      rw [← hsave, hsaved]

end UniverEscrow.Router
