import UniverEscrow.Router.EscrowRouter

/-!
# POST /api/escrow/submit

The handler of the bootstrapped application.  It shares the ledger store with the router; the
proposal it makes is never verified, the outcome of the vote is fixed.
-/

namespace UniverEscrow.Bootstrap

open UniverEscrow.Js UniverEscrow.Ledger UniverEscrow.Merkle UniverEscrow.Router

structure QuorumResult where
  success : Bool
  quorum : ℕ
  required : ℕ

def dayMs : ℤ := 86400000

/-- `catch` answers an error that carries no tracking id. -/
def submitFailed : Response := ⟨500, .obj [("status", "FAILED")]⟩

/-- SHA-256 of `JSON.stringify(data)`. -/
def bodyDigest (sha256 : Sha256) (data : JsValue) : String :=
  sha256Hex sha256 (JsValue.stringify data)

def createConsensusProposal (platform : Platform) (clock : RequestClock) (data : JsValue) :
    Except Response JsValue := do
  let transactionId ← orAnswer submitFailed (data.get "transactionId").toText
  return .obj [("transactionId", transactionId),
    ("commitment", bodyDigest platform.sha256 data),
    ("consensusTerm", .num (.ofInt (clock.nowMs 0))),
    ("index", .num (.ofInt 0)),
    ("zkPublicCommitment", .obj [("commitment", "")]),
    ("hybridSignature", .obj [("classicalSignature", ""), ("pqcSignature", "")]),
    ("timeLocks", .obj [("validAfterMs", .num (.ofInt (clock.nowMs 1))),
      ("validUntilMs", .num (.ofInt (clock.nowMs 2 + dayMs))),
      ("quorumMedianAnchor", .obj [("anchorMs", .num (.ofInt (clock.nowMs 3))),
        ("anchorFingerprint", "mock"), ("includedNodeIds", .arr []),
        ("outlierNodeIds", .arr [])])]),
    ("record", .obj [])]

def executeBftVerification (platform : Platform) : QuorumResult :=
  { success := true, quorum := platform.bftQuorumThreshold, required := platform.bftQuorumThreshold }

def hasRequiredFields (body : JsValue) : Bool :=
  (body.get "transactionId").truthy && (body.get "amount").truthy &&
    (body.get "recipient").truthy

def submitRecord (platform : Platform) (clock : RequestClock) (body : JsValue) : JsValue :=
  .obj [("transactionId", body.get "transactionId"),
    ("escrowRecordLeafHash", bodyDigest platform.sha256 body),
    ("signature", ""),
    ("status", "LOCKED"),
    ("validAfterMs", .num (.ofInt (clock.nowMs 4))),
    ("validUntilMs", .num (.ofInt (clock.nowMs 5 + dayMs))),
    ("timestamp", clock.timestamp.text)]

/-- The record the handler saves and the answer to a save that succeeds. -/
def submitDecision (platform : Platform) (clock : RequestClock) (body : JsValue) :
    Except Response (JsValue × Response) := do
  answerUnless (!body.isNullish) submitFailed
  answerUnless (hasRequiredFields body) (failed 400 "MISSING_REQUIRED_FIELDS")
  let proposal ← createConsensusProposal platform clock body
  answerUnless (executeBftVerification platform).success (failed 400 "BFT_CONSENSUS_NOT_REACHED")
  return (submitRecord platform clock body,
    ⟨200, .obj [("status", "COMMITTED"), ("transactionId", body.get "transactionId"),
      ("consensusTerm", proposal.get "consensusTerm")]⟩)

def handleEscrowSubmit (platform : Platform) (clock : RequestClock) (body : JsValue)
    (node : Node) : Node × Response :=
  match submitDecision platform clock body with
  | .error response => (node, response)
  | .ok (record, answer) =>
      match node.saveRecord platform clock record with
      | (node, none) => (node, answer)
      | (node, some _) => (node, submitFailed)

end UniverEscrow.Bootstrap
