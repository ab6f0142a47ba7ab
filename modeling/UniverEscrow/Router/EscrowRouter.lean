import UniverEscrow.Admin.LedgerHeal
import UniverEscrow.Consensus.EnclaveRaftEngine

/-!
# The handlers that reach the ledger

Each handler takes a parsed body and the state of the node, and gives the state after it and
the response.  A handler is one step: it runs with nothing else in between.
-/

namespace UniverEscrow.Router

open UniverEscrow.Js UniverEscrow.Enclave UniverEscrow.Ledger UniverEscrow.Merkle
open UniverEscrow.Consensus UniverEscrow.Admin

structure Node where
  auditor : Auditor
  bridge : EnclaveBridge
  cluster : EnclaveClusterService
  raft : EnclaveRaftEngine
  recovery : RecoveryFiles

structure Response where
  code : ℕ
  body : JsValue

/-- The clock readings of one request: the `n`-th `Date.now()`, the timestamp of its record and
that of a checkpoint it writes. -/
structure RequestClock where
  nowMs : ℕ → ℤ
  timestamp : IsoTime
  updatedAt : IsoTime

/-- What a platform error was thrown by; the texts of these errors are the platform's. -/
inductive PlatformThrow where
  | verification
  | heal
  | save (failure : SaveFailure)

/-- The platform the node runs on and its configuration. -/
structure Platform extends RecoveryPlatform where
  recoveryEnv : RecoveryEnv
  bftQuorumThreshold : ℕ
  errorText : PlatformThrow → String

def coercionError : String := "Cannot convert object to primitive value"

def saveErrorText (platform : Platform) : SaveFailure → String
  | .notAnObject => recordTypeError
  | failure => platform.errorText (.save failure)

def failed (code : ℕ) (error : String) : Response :=
  ⟨code, .obj [("status", "FAILED"), ("error", error)]⟩

/-- `{ state: 'FAILED', error }`, the answer of a handler whose `catch` names it so. -/
def stateFailed (error : String) : Response :=
  ⟨500, .obj [("state", "FAILED"), ("error", error)]⟩

def answerUnless (holds : Bool) (response : Response) : Except Response Unit :=
  if holds then .ok () else .error response

def orAnswer {α : Type} (response : Response) (x : Option α) : Except Response α :=
  match x with
  | some a => .ok a
  | none => .error response

@[simp] theorem answerUnless_eq_ok {holds : Bool} {response : Response} {u : Unit} :
    answerUnless holds response = .ok u ↔ holds = true := by
  cases holds <;> simp [answerUnless]

@[simp] theorem answerUnless_eq_error {holds : Bool} {response r : Response} :
    answerUnless holds response = .error r ↔ holds = false ∧ response = r := by
  cases holds <;> simp [answerUnless]

@[simp] theorem orAnswer_eq_ok {α : Type} {response : Response} {x : Option α} {a : α} :
    orAnswer response x = .ok a ↔ x = some a := by
  cases x <;> simp [orAnswer]

@[simp] theorem orAnswer_eq_error {α : Type} {response r : Response} {x : Option α} :
    orAnswer response x = .error r ↔ x = none ∧ response = r := by
  cases x <;> simp [orAnswer]

def Node.saveRecord (platform : Platform) (clock : RequestClock) (record : JsValue)
    (node : Node) : Node × Option SaveFailure :=
  let (store, failure?) :=
    Ledger.saveRecord platform.sha256 clock.updatedAt record node.auditor.store
  ({ node with auditor := { node.auditor with store := store } }, failure?)

/-! ## POST /lock -/

def hexByte (b : UInt8) : List Char :=
  [Nat.digitChar (b.toNat / 16), Nat.digitChar (b.toNat % 16)]

/-- `Buffer.from(s).toString('hex')`. -/
def utf8Hex (s : String) : String :=
  String.ofList ((s.toList.flatMap String.utf8EncodeChar).flatMap hexByte)

/-- `slice(0, n)` of a text without surrogate pairs. -/
def sliceTo (n : ℕ) (s : String) : String := String.ofList (s.toList.take n)

def lockTransactionId (canonical : String) : String := "tx_" ++ sliceTo 32 (utf8Hex canonical)

def lockFreezeError : String :=
  "EMERGENCY_SYSTEM_FREEZE: Ledger tampering detected. System write paths suspended."

def lockBoundaryError : String :=
  "CONFIDENTIAL_COMPUTE_ERROR: Hardware isolation enclave is uncredentialed or unverified."

def lockGate (node : Node) : Except Response Unit := do
  answerUnless (!node.auditor.isFrozen) (failed 503 lockFreezeError)
  answerUnless node.bridge.isEnclaveReady (failed 503 lockBoundaryError)

def finiteNumbers (a b : JsValue) : Except Response (Binary64 × Binary64) :=
  match finiteNumber? a, finiteNumber? b with
  | some x, some y => .ok (x, y)
  | _, _ => .error (failed 400 "validAfterMs/validUntilMs must be numbers.")

/-- The record the handler saves and the receipt it answers with. -/
def lockRecord (platform : Platform) (clock : RequestClock) (body : JsValue) (node : Node) :
    Except Response (JsValue × Response) := do
  let tenantId := body.get "tenantId"
  let account := body.get "account"
  let amount := body.get "amount"
  let signature := body.get "signature"
  let publicKey := body.get "publicKey"
  answerUnless (tenantId.truthy && account.truthy && !amount.isNullish && signature.truthy &&
      publicKey.truthy && !(body.get "validAfterMs").isUndefined &&
      !(body.get "validUntilMs").isUndefined)
    (failed 400 "Missing required parameters for lock challenge.")
  let (validAfterMs, validUntilMs) ←
    finiteNumbers (body.get "validAfterMs") (body.get "validUntilMs")
  answerUnless (validAfterMs.val < validUntilMs.val) (failed 400 "Invalid time-lock window.")
  let coercionFailed := stateFailed coercionError
  let tenantText ← orAnswer coercionFailed tenantId.toText
  let accountText ← orAnswer coercionFailed account.toText
  let amountText ← orAnswer coercionFailed amount.toText
  let validationString := tenantText ++ ":" ++ accountText ++ ":" ++ amountText
  let signatureText ← orAnswer coercionFailed signature.toText
  let publicKeyText ← orAnswer coercionFailed publicKey.toText
  let verified ← (node.bridge.verifySignatureInEnclave platform.rsa validationString
    signatureText publicKeyText).mapError stateFailed
  answerUnless verified (failed 401 "Invalid Cryptographic Signature Profile")
  let transactionId := lockTransactionId validationString
  return (.obj [("transactionId", transactionId),
      ("escrowRecordLeafHash", "PENDING"),
      ("signature", signatureText),
      ("status", "LOCKED"),
      ("validAfterMs", .num (.fin validAfterMs)),
      ("validUntilMs", .num (.fin validUntilMs)),
      ("timestamp", clock.timestamp.text)],
    ⟨201, .obj [("status", "SUCCESS"),
      ("receipt", .obj [("transactionId", transactionId), ("tenantId", tenantId),
        ("account", account), ("amount", amount)])]⟩)

def lock (platform : Platform) (clock : RequestClock) (body : JsValue) (node : Node) :
    Node × Response :=
  match lockGate node, lockRecord platform clock body node with
  | .error response, _ => (node, response)
  | .ok (), .error response => (node, response)
  | .ok (), .ok (record, receipt) =>
      match node.saveRecord platform clock record with
      | (node, none) => (node, receipt)
      | (node, some failure) => (node, stateFailed (saveErrorText platform failure))

/-! ## POST /consensus/append-entry -/

/-- `push` on the log throws at the length limit of arrays. -/
def logFull (engine : EnclaveRaftEngine) : Bool := maxArrayLength ≤ engine.log.length

/-- The checks in front of the append; they give the term and the entry. -/
def appendEntryGate (body : JsValue) (node : Node) : Except Response (JsNumber × JsValue) := do
  let term ← orAnswer (failed 400 "Missing/invalid term.") (body.get "term").asNumber?
  answerUnless (!node.auditor.isFrozen)
    (failed 503 "EMERGENCY_SYSTEM_FREEZE: Active ledger anomalies.")
  answerUnless node.bridge.isEnclaveReady
    (failed 503 "CONFIDENTIAL_COMPUTE_ERROR: Attestation missing.")
  answerUnless (!term.lt node.raft.currentTerm)
    ⟨400, .obj [("status", "FAILED"), ("term", .num node.raft.currentTerm),
      ("error", "Stale term validation parameters.")]⟩
  answerUnless (body.get "entry").truthy (failed 400 "Missing entry.")
  return (term, body.get "entry")

/-- The arguments of the commit, from the request's `bft` and the appended entry. -/
def bftCommitParams (term : JsNumber) (appended : RaftLogEntry) (bft : JsValue) :
    Except CommitStop BftCommitParams := do
  let clusterSize ← coerceOrThrow ((bft.get "clusterSize").orElse (.num (.ofInt 0))).toNumber
  let payload := bft.get "payload"
  refuseUnless (clusterSize.truthy && payload.truthy) "BFT_PAYLOAD_REQUIRED"
  let commitment ← coerceOrThrow (appended.record.get "escrowRecordLeafHash").toText
  return {
    entryIndex := .ofInt appended.index
    clusterSize := clusterSize
    proposalCommitment := commitment
    consensusTerm := term
    index := .ofInt appended.index
    payload := payload }

/-- The entry that is saved, once `entry` has been appended. -/
def appendDecision (term : JsNumber) (entry bft : JsValue) (engine : EnclaveRaftEngine) :
    Except CommitStop RaftLogEntry := do
  let params ← bftCommitParams term (engine.newEntry entry) bft
  (engine.appendLocalLog entry).bftDecision params

def stopResponse : CommitStop → Response
  | .refused reason => failed 409 reason
  | .thrown message => failed 500 message

def commitResponse (engine : EnclaveRaftEngine) : Response :=
  ⟨200, .obj [("status", "SUCCESS"), ("term", .num engine.currentTerm),
    ("commitIndex", .num (.ofInt engine.commitIndex))]⟩

def appendAndCommit (platform : Platform) (clock : RequestClock) (term : JsNumber)
    (entry bft : JsValue) (node : Node) : Node × Response :=
  if logFull node.raft then (node, failed 500 (platform.errorText (.save .platformError)))
  else
    let appended := { node with raft := node.raft.appendLocalLog entry }
    match appendDecision term entry bft node.raft with
    | .error stop => (appended, stopResponse stop)
    | .ok saved =>
        match appended.saveRecord platform clock saved.record with
        | (node, some failure) => (node, failed 500 (saveErrorText platform failure))
        | (node, none) =>
            let raft := { node.raft with commitIndex := saved.index }
            ({ node with raft := raft }, commitResponse raft)

def appendEntry (platform : Platform) (clock : RequestClock) (body : JsValue) (node : Node) :
    Node × Response :=
  match appendEntryGate body node with
  | .error response => (node, response)
  | .ok (term, entry) => appendAndCommit platform clock term entry (body.get "bft") node

/-! ## POST /admin/unfreeze -/

/-- What the network answers during the ritual and during the audit after it. -/
structure RitualReplies where
  heal : ℕ → NotaryReply
  audit : ℕ → NotaryReply

def healErrorText (platform : Platform) : HealFailure → String
  | .notaryUnreachable => notaryUnreachable
  | .platformError => platform.errorText .heal

/-- Members that are `undefined` do not reach the response text. -/
def optionalText (s : Option String) : JsValue := (s.map JsValue.str).getD .undefined

def unfreezeGate (platform : Platform) (clock : RequestClock) (payload : JsValue) :
    Except Response Unit := do
  answerUnless (payload.truthy && (payload.get "requestId").truthy &&
      (payload.get "action").truthy && (payload.get "expiresAt").truthy &&
      (payload.get "signatures").isArray)
    (failed 400 "Invalid payload: requestId, action, expiresAt, signatures are required.")
  let verified ← orAnswer (failed 500 (platform.errorText .verification))
    (verifyMultiSig platform.toRecoveryPlatform platform.recoveryEnv (.ofInt (clock.nowMs 0))
      payload)
  answerUnless verified (failed 403 "MULTISIG_THRESHOLD_VERIFICATION_FAILED")

def healFailedResponse (outcome : AdminRecoveryOutcome) : Response :=
  ⟨409, .obj [("status", "FAILED"), ("error", outcome.error.getD "LEDGER_HEAL_FAILED"),
    ("authoritativeState",
      (outcome.authoritativeState.map authoritativeStateToJs).getD .undefined)]⟩

def healedResponse (outcome : AdminRecoveryOutcome) : Response :=
  ⟨200, .obj [("status", "SUCCESS"), ("healedRoot", optionalText outcome.healedRoot),
    ("healedLeafCount",
      (outcome.healedLeafCount.map fun n => JsValue.num (.ofInt n)).getD .undefined)]⟩

def Node.heal (platform : Platform) (clock : RequestClock) (replies : RitualReplies)
    (payload : JsValue) (node : Node) : Node × Except HealFailure AdminRecoveryOutcome :=
  let (store, recovery, outcome) := attemptHealAndReturnOutcome platform.toRecoveryPlatform
    platform.recoveryEnv ⟨.ofInt (clock.nowMs 1), .ofInt (clock.nowMs 2), clock.updatedAt⟩
    replies.heal payload node.auditor.store node.recovery
  ({ node with auditor := { node.auditor with store := store }, recovery := recovery }, outcome)

/-- The re-audit after the heal lifts the freeze or keeps it. -/
def Node.reaudit (platform : Platform) (clock : RequestClock) (replies : RitualReplies)
    (node : Node) : Node × Bool :=
  let (auditor, ok) :=
    unfreezeIfClean platform.sha256 clock.updatedAt replies.audit node.auditor
  ({ node with auditor := auditor }, ok)

/-- The handler after the heal: what failed is answered, what healed is audited again. -/
def answerHeal (platform : Platform) (clock : RequestClock) (replies : RitualReplies)
    (payload : JsValue) (node : Node) : Except HealFailure AdminRecoveryOutcome → Node × Response
  | .error failure => (node, failed 500 (healErrorText platform failure))
  | .ok outcome =>
      if !outcome.ok then (node, healFailedResponse outcome)
      else
        match (payload.get "requestId").toText with
        | none => (node, failed 500 coercionError)
        | some _ =>
            let (node, clean) := node.reaudit platform clock replies
            (node, if clean then healedResponse outcome
              else failed 409 "LEDGER_REVERIFY_FAILED_AFTER_HEAL")

def adminUnfreeze (platform : Platform) (clock : RequestClock) (replies : RitualReplies)
    (payload : JsValue) (node : Node) : Node × Response :=
  match unfreezeGate platform clock payload with
  | .error response => (node, response)
  | .ok () =>
      let (node, result) := node.heal platform clock replies payload
      answerHeal platform clock replies payload node result

end UniverEscrow.Router
