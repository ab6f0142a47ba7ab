import UniverEscrow.Admin.AdminRecoveryService
import UniverEscrow.Consensus.EnclaveBftVerifyEngine

/-!
# The median time anchor

Nodes assert their clocks; the service keeps a window of assertions, one for each node, and
derives an anchor from those close to their median.  The anchor carries a fingerprint, which
the verification engine recomputes from a text of its own.
-/

namespace UniverEscrow.Consensus

open UniverEscrow.Js UniverEscrow.Merkle UniverEscrow.Admin

/-- The service's own copy of the recovery service's canonical text. -/
def stableStringify (value : JsValue) : String := canonicalizeJsonStable value

/-- An assertion past the structural checks. -/
structure SignedTimeAssertion where
  nodeId : NodeId
  assertedAtMs : Binary64
  signature : String
  pcr0Hash : String
  validUntilMs : Option Binary64
  expires : ∀ x ∈ validUntilMs, assertedAtMs.val < x.val

structure MedianTimeAnchor where
  anchorMs : JsNumber
  anchorFingerprint : String
  includedNodeIds : List NodeId
  outlierNodeIds : List NodeId

def nodeIdsToJs (nodeIds : List NodeId) : JsValue := .arr (nodeIds.map JsValue.str)

def MedianTimeAnchor.toJs (anchor : MedianTimeAnchor) : JsValue :=
  .obj [("anchorMs", .num anchor.anchorMs),
    ("anchorFingerprint", anchor.anchorFingerprint),
    ("includedNodeIds", nodeIdsToJs anchor.includedNodeIds),
    ("outlierNodeIds", nodeIdsToJs anchor.outlierNodeIds)]

structure EnclaveTimeAnchorService where
  assertions : OrderedMap NodeId SignedTimeAssertion
  windowMaxSize : ℕ
  driftThresholdMs : Binary64

/-- Why there is no anchor: a reason, or a thrown error. -/
inductive AnchorFailure where
  | refused (reason : String)
  | thrown (message : String)

/-- `Array.prototype.sort` on node ids. -/
def sortNodeIds (nodeIds : List NodeId) : List NodeId :=
  nodeIds.insertionSort fun a b => JsValue.keyLe a b

namespace EnclaveTimeAnchorService

def getInstance : EnclaveTimeAnchorService where
  assertions := .empty
  windowMaxSize := 32
  driftThresholdMs := .ofInt 5000

variable (sha256 : Sha256)

/-! ## Ingesting assertions -/

def checkValidUntil (assertedAtMs : Binary64) (v : JsValue) :
    Except String { validUntilMs : Option Binary64 //
      ∀ x ∈ validUntilMs, assertedAtMs.val < x.val } :=
  if v.isUndefined then .ok ⟨none, by simp⟩
  else
    match Ledger.finiteNumber? v with
    | none => .error "INVALID_VALID_UNTIL_MS"
    | some x =>
        if h : assertedAtMs.val < x.val then .ok ⟨some x, by simpa using h⟩
        else .error "ASSERTION_EXPIRED_OR_INVALID"

def checkAssertion (assertion : JsValue) : Except String SignedTimeAssertion := do
  require assertion.isObject "INVALID_ASSERTION"
  let nodeId ← nonEmptyString (assertion.get "nodeId") "INVALID_NODE_ID"
  let assertedAtMs ← finiteNumber (assertion.get "assertedAtMs") "INVALID_ASSERTED_AT_MS"
  let pcr0Hash ← nonEmptyString (assertion.get "pcr0Hash") "INVALID_PCR0_HASH"
  let signature ← nonEmptyString (assertion.get "signature") "INVALID_SIGNATURE"
  let ⟨validUntilMs, expires⟩ ← checkValidUntil assertedAtMs (assertion.get "validUntilMs")
  return { nodeId, assertedAtMs, signature, pcr0Hash, validUntilMs, expires }

/-- The signature has to be the digest of the assertion's canonical text. -/
def verifySignatureMock (assertion : SignedTimeAssertion) : Bool :=
  assertion.signature = sha256Hex sha256 (stableStringify
    (.obj [("nodeId", assertion.nodeId),
      ("assertedAtMs", .num (.fin assertion.assertedAtMs)),
      ("pcr0Hash", assertion.pcr0Hash),
      ("validUntilMs", (assertion.validUntilMs.map fun x => JsValue.num (.fin x)).getD .null)]))

/-- A full window first loses the smallest node id. -/
def recordAssertion (service : EnclaveTimeAnchorService) (assertion : SignedTimeAssertion) :
    EnclaveTimeAnchorService :=
  let kept :=
    if service.windowMaxSize ≤ service.assertions.size then
      match (sortNodeIds service.assertions.keys).head? with
      | some toDelete => service.assertions.erase toDelete
      | none => service.assertions
    else service.assertions
  { service with assertions := kept.set assertion.nodeId assertion }

def ingestAssertion (service : EnclaveTimeAnchorService) (assertion : JsValue) :
    Except String EnclaveTimeAnchorService := do
  let checked ← checkAssertion assertion
  require (verifySignatureMock sha256 checked) "SIGNATURE_REJECTED"
  return service.recordAssertion checked

/-! ## The anchor -/

def medianOfSorted (sorted : List Binary64) : Except AnchorFailure JsNumber :=
  let n := sorted.length
  let mid := n / 2
  let at? (i : ℕ) : JsNumber := (sorted[i]?.map JsNumber.fin).getD .nan
  if n = 0 then .error (.thrown "medianOfSorted: empty")
  else if n % 2 = 0 then .ok (((at? (mid - 1)).add (at? mid)).div (.ofInt 2))
  else .ok (at? mid)

def sortedTimes (assertions : List SignedTimeAssertion) : List Binary64 :=
  (assertions.map SignedTimeAssertion.assertedAtMs).insertionSort fun a b => a.val ≤ b.val

/-- `Math.abs`. -/
def mathAbs (n : JsNumber) : JsNumber := if n.lt (.ofInt 0) then n.neg else n

def isOutlier (service : EnclaveTimeAnchorService) (median : JsNumber)
    (assertion : SignedTimeAssertion) : Bool :=
  (JsNumber.fin service.driftThresholdMs).lt
    (mathAbs ((JsNumber.fin assertion.assertedAtMs).sub median))

/-- The text an anchor's fingerprint is the digest of. -/
def fingerprintText (anchorMs : JsNumber) (includedNodeIds outlierNodeIds : List NodeId) :
    String :=
  stableStringify (.obj [("domain", "ENCLAVE_MEDIAN_TIME_ANCHOR"),
    ("anchorMs", .num anchorMs),
    ("includedNodeIds", nodeIdsToJs includedNodeIds),
    ("outlierNodeIds", nodeIdsToJs outlierNodeIds)])

def refuseWhen (fails : Bool) (reason : String) : Except AnchorFailure Unit :=
  if fails then .error (.refused reason) else .ok ()

def computeMedianAnchor (service : EnclaveTimeAnchorService)
    (requiredMinAssertions : Option JsNumber) : Except AnchorFailure MedianTimeAnchor := do
  let values := service.assertions.values
  refuseWhen (values.length = 0) "NO_ASSERTIONS"
  let median ← medianOfSorted (sortedTimes values)
  let outliers := values.filter (service.isOutlier median)
  let included := values.filter fun a => !service.isOutlier median a
  let requiredMin := requiredMinAssertions.getD (.ofInt 3)
  refuseWhen ((JsNumber.ofInt included.length).lt requiredMin)
    "INSUFFICIENT_QUORUM_AFTER_FILTERING"
  let anchorMs ← medianOfSorted (sortedTimes included)
  let includedNodeIds := sortNodeIds (included.map SignedTimeAssertion.nodeId)
  let outlierNodeIds := sortNodeIds (outliers.map SignedTimeAssertion.nodeId)
  return {
    anchorMs := anchorMs
    anchorFingerprint := sha256Hex sha256
      (fingerprintText anchorMs includedNodeIds outlierNodeIds)
    includedNodeIds := includedNodeIds
    outlierNodeIds := outlierNodeIds }

end EnclaveTimeAnchorService

end UniverEscrow.Consensus
