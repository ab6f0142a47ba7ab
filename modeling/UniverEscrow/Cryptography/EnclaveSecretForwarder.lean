import UniverEscrow.Cryptography.SecretShares
import UniverEscrow.Enclave.CanonicalEncodings
import UniverEscrow.Lib.Run

/-!
# Forwarding a master secret

The leader checks the attestation document of a joining node and encrypts every share of the
secret for it.  The check sets the readiness flag, so one document can stop all later forwards;
and since all shares go to each node, one opened envelope is enough to recover the secret.
-/

namespace UniverEscrow.Cryptography

open UniverEscrow.Js UniverEscrow.Merkle UniverEscrow.Enclave UniverEscrow.Lib

structure NodeProvisioning where
  nodeId : JsValue
  endpoint : JsValue
  attestationDocument : JsValue
  nodePublicKeyPem : JsValue

/-- The threshold and the bytes of the secret are parameters that the body never reads. -/
structure ForwardParams where
  node : NodeProvisioning
  epoch : JsNumber
  masterSecretId : JsValue
  totalShares : JsNumber

structure EncryptedForwardingEnvelope where
  epoch : JsNumber
  masterSecretId : String
  recipientNodeId : String
  encryptedShareBlobs : List String
  shareIndices : List ℕ
  envelopeHash : String
deriving DecidableEq

structure SecretShareForwardReceipt where
  nodeId : String
  epoch : JsNumber
  forwarded : Bool
  envelope : EncryptedForwardingEnvelope
deriving DecidableEq

/-- What the leader calls during one forward.  The padding of each share is drawn anew, so the
ciphertext depends on the draw as well. -/
structure ForwardPlatform where
  sha256 : Sha256
  rsa : RsaVerify
  publicEncrypt : ℕ → (publicKeyPem plaintextHex : String) → Except String String

namespace EnclaveSecretForwarder

def assertNonEmptyString (x : JsValue) (name : String) : Except String String :=
  match x with
  | .str s => if s = "" then .error ("INVALID_" ++ name) else .ok s
  | _ => .error ("INVALID_" ++ name)

/-- The strings that the body goes on with. -/
structure CheckedNames where
  nodeId : String
  nodePublicKeyPem : String
  masterSecretId : String

def checkedNames (params : ForwardParams) : Except String CheckedNames := do
  let nodeId ← assertNonEmptyString params.node.nodeId "NODE_ID"
  let _ ← assertNonEmptyString params.node.endpoint "ENDPOINT"
  let nodePublicKeyPem ← assertNonEmptyString params.node.nodePublicKeyPem "NODE_PUBLIC_KEY_PEM"
  let masterSecretId ← assertNonEmptyString params.masterSecretId "MASTER_SECRET_ID"
  return ⟨nodeId, nodePublicKeyPem, masterSecretId⟩

/-- The first loop. -/
def shares (sha256 : Sha256) (masterSecretId : String) (epoch totalShares : JsNumber) :
    List SecretSplitShare :=
  (List.finRange (shareCount totalShares)).map fun i : Fin (shareCount totalShares) =>
    ⟨i.val + 1, sha256Hex sha256 (masterSecretId ++ "|" ++ epoch.toText ++ "|SHARE_" ++
      toString (i.val + 1)), isShareIndex_succ i⟩

/-- The second loop, from its `i`-th round on. -/
def encryptShares (publicEncrypt : ℕ → String → String → Except String String)
    (publicKeyPem : String) : ℕ → List SecretSplitShare → Except String (List String)
  | _, [] => .ok []
  | i, share :: rest => do
      let blob ← publicEncrypt i publicKeyPem share.shareBytesHex
      let blobs ← encryptShares publicEncrypt publicKeyPem (i + 1) rest
      return blob :: blobs

def envelopeText (masterSecretId : String) (epoch : JsNumber) (nodeId : String)
    (shareIndices : List ℕ) (encryptedShareBlobs : List String) : String :=
  "ENCRYPTED_FORWARD_V1|" ++ masterSecretId ++ "|" ++ epoch.toText ++ "|" ++ nodeId ++ "|" ++
    String.intercalate "," (shareIndices.map toString) ++ "|" ++
    String.intercalate "|" encryptedShareBlobs

def receiptFor (sha256 : Sha256) (params : ForwardParams) (names : CheckedNames)
    (shareIndices : List ℕ) (encryptedShareBlobs : List String) : SecretShareForwardReceipt where
  nodeId := names.nodeId
  epoch := params.epoch
  forwarded := true
  envelope := {
    epoch := params.epoch
    masterSecretId := names.masterSecretId
    recipientNodeId := names.nodeId
    encryptedShareBlobs := encryptedShareBlobs
    shareIndices := shareIndices
    envelopeHash := sha256Hex sha256 (envelopeText names.masterSecretId params.epoch names.nodeId
      shareIndices encryptedShareBlobs) }

/-- What follows the attestation gate. -/
def forwardShares (platform : ForwardPlatform) (params : ForwardParams) (names : CheckedNames) :
    Except String SecretShareForwardReceipt := do
  let split := shares platform.sha256 names.masterSecretId params.epoch params.totalShares
  let encryptedShareBlobs ←
    encryptShares platform.publicEncrypt names.nodePublicKeyPem 0 split
  return receiptFor platform.sha256 params names (split.map SecretSplitShare.shareIndex)
    encryptedShareBlobs

/-- An error is the text thrown.  The attestation check may set the readiness flag. -/
def forwardSplitSharesToNewNode (platform : ForwardPlatform) (params : ForwardParams)
    (bridge : EnclaveBridge) : Except String SecretShareForwardReceipt × EnclaveBridge :=
  if !bridge.isEnclaveReady then
    (.error "SECURITY_VIOLATION: enclave not ready for secret forwarding", bridge)
  else
    match checkedNames params with
    | .error message => (.error message, bridge)
    | .ok names =>
        match bridge.verifyEnclaveAttestation platform.rsa params.node.attestationDocument with
        | (false, bridge) => (.error "ATTESTATION_GATE_REJECTED", bridge)
        | (true, bridge) => (forwardShares platform params names, bridge)

/-! ## Which calls forward, and which close the enclave -/

/-- A call whose document closes a ready enclave: it gets past the names and is complete. -/
def Closes (platform : ForwardPlatform) (params : ForwardParams) : Prop :=
  (∃ names, checkedNames params = .ok names) ∧
    EnclaveBridge.completeDocument params.node.attestationDocument = true ∧
    EnclaveBridge.acceptsDocument platform.rsa params.node.attestationDocument = false

/-- What a call forwards behind an open gate. -/
def Forwards (platform : ForwardPlatform) (params : ForwardParams)
    (receipt : SecretShareForwardReceipt) : Prop :=
  ∃ names, checkedNames params = .ok names ∧
    EnclaveBridge.acceptsDocument platform.rsa params.node.attestationDocument = true ∧
    forwardShares platform params names = .ok receipt

theorem forward_of_not_ready {platform : ForwardPlatform} {params : ForwardParams}
    {bridge : EnclaveBridge} (h : bridge.isEnclaveReady = false) :
    forwardSplitSharesToNewNode platform params bridge =
      (.error "SECURITY_VIOLATION: enclave not ready for secret forwarding", bridge) := by
  rw [forwardSplitSharesToNewNode, h]
  rfl

/-- A ready call, by what its names and its document are. -/
theorem forward_of_ready {platform : ForwardPlatform} {params : ForwardParams}
    {bridge : EnclaveBridge} (h : bridge.isEnclaveReady = true) :
    forwardSplitSharesToNewNode platform params bridge =
      match checkedNames params with
      | .error message => (.error message, bridge)
      | .ok names =>
          (if EnclaveBridge.acceptsDocument platform.rsa params.node.attestationDocument then
            forwardShares platform params names else .error "ATTESTATION_GATE_REJECTED",
          if EnclaveBridge.completeDocument params.node.attestationDocument then
            { bridge with enclaveReady :=
              EnclaveBridge.acceptsDocument platform.rsa params.node.attestationDocument }
          else bridge) := by
  rw [forwardSplitSharesToNewNode, h]
  cases hnames : checkedNames params with
  | error message => rfl
  | ok names =>
      simp only [Bool.not_true, Bool.false_eq_true, if_false]
      rw [EnclaveBridge.verifyEnclaveAttestation_eq]
      cases EnclaveBridge.acceptsDocument platform.rsa params.node.attestationDocument <;> rfl

theorem forward_eq_ok_iff {platform : ForwardPlatform} {params : ForwardParams}
    {bridge : EnclaveBridge} {receipt : SecretShareForwardReceipt} :
    (forwardSplitSharesToNewNode platform params bridge).1 = .ok receipt ↔
      bridge.isEnclaveReady = true ∧ Forwards platform params receipt := by
  cases hready : bridge.isEnclaveReady with
  | false =>
      rw [forward_of_not_ready hready]
      simp
  | true =>
      rw [forward_of_ready hready, Forwards]
      cases hnames : checkedNames params with
      | error message => simp
      | ok names =>
          cases EnclaveBridge.acceptsDocument platform.rsa params.node.attestationDocument with
          | false => simp
          | true => simp

/-! ### Runs of forwards -/

abbrev ForwardCall := ForwardPlatform × ForwardParams

def forwardStep (bridge : EnclaveBridge) (call : ForwardCall) : EnclaveBridge :=
  (forwardSplitSharesToNewNode call.1 call.2 bridge).2

@[simp] theorem testReadyOverride_forwardStep (bridge : EnclaveBridge) (call : ForwardCall) :
    (forwardStep bridge call).testReadyOverride = bridge.testReadyOverride := by
  rw [forwardStep]
  cases hready : bridge.isEnclaveReady with
  | false => rw [forward_of_not_ready hready]
  | true =>
      rw [forward_of_ready hready]
      split
      · rfl
      · dsimp only
        split <;> rfl

/-- A call leaves the flag up exactly if it was up and the call does not close the enclave. -/
theorem enclaveReady_forwardStep {bridge : EnclaveBridge} (call : ForwardCall)
    (h : bridge.testReadyOverride = false) :
    (forwardStep bridge call).enclaveReady = true ↔
      bridge.enclaveReady = true ∧ ¬Closes call.1 call.2 := by
  have hflag : bridge.isEnclaveReady = bridge.enclaveReady := by
    rw [EnclaveBridge.isEnclaveReady, h, Bool.or_false]
  rw [forwardStep]
  cases hready : bridge.isEnclaveReady with
  | false =>
      rw [forward_of_not_ready hready, ← hflag, hready]
      simp
  | true =>
      rw [forward_of_ready hready, ← hflag, hready, Closes]
      cases hnames : checkedNames call.2 with
      | error message => simp [← hflag, hready]
      | ok names =>
          cases hcomplete :
              EnclaveBridge.completeDocument call.2.node.attestationDocument with
          | false => simp [← hflag, hready]
          | true => simp

theorem isEnclaveReady_forwardStep (bridge : EnclaveBridge) (call : ForwardCall) :
    (forwardStep bridge call).isEnclaveReady = true ↔
      bridge.testReadyOverride = true ∨ bridge.enclaveReady = true ∧ ¬Closes call.1 call.2 := by
  rw [EnclaveBridge.isEnclaveReady, testReadyOverride_forwardStep, Bool.or_eq_true, or_comm]
  cases h : bridge.testReadyOverride with
  | true => simp
  | false => rw [enclaveReady_forwardStep call h]

theorem isEnclaveReady_run (bridge : EnclaveBridge) (calls : List ForwardCall) :
    (Run.run forwardStep bridge calls).isEnclaveReady = true ↔
      bridge.testReadyOverride = true ∨
        bridge.enclaveReady = true ∧ ∀ call ∈ calls, ¬Closes call.1 call.2 := by
  induction calls generalizing bridge with
  | nil => simp [EnclaveBridge.isEnclaveReady, or_comm]
  | cons call calls ih =>
      rw [Run.run_cons, ih, testReadyOverride_forwardStep]
      cases h : bridge.testReadyOverride with
      | true => simp
      | false => rw [enclaveReady_forwardStep call h, List.forall_mem_cons, and_assoc]

/-- After any run of forwards a call hands out a receipt exactly if the leader was ready, no call of
the run closed the enclave, and the call's own document is accepted.  The document decides nothing
else: the receipt is that of the recipient's names and key. -/
theorem forward_after_run_iff (bridge : EnclaveBridge) (calls : List ForwardCall)
    (platform : ForwardPlatform) (params : ForwardParams) (receipt : SecretShareForwardReceipt) :
    (forwardSplitSharesToNewNode platform params (Run.run forwardStep bridge calls)).1 =
        .ok receipt ↔
      (bridge.testReadyOverride = true ∨
        bridge.enclaveReady = true ∧ ∀ call ∈ calls, ¬Closes call.1 call.2) ∧
      Forwards platform params receipt := by
  rw [forward_eq_ok_iff, isEnclaveReady_run]

end EnclaveSecretForwarder

end UniverEscrow.Cryptography
