import UniverEscrow.Consensus.EnclaveClusterService
import UniverEscrow.Ledger.EscrowRecord
import UniverEscrow.Lib.Except
import UniverEscrow.Merkle.Sha256

/-!
# Proposal verification and share aggregation

A node verifies a proposal and answers with a share; the aggregator counts the shares of
distinct attested nodes.  Requests that fail are given by the reason the engine reports.
-/

namespace UniverEscrow.Consensus

open UniverEscrow.Js UniverEscrow.Enclave UniverEscrow.Ledger UniverEscrow.Merkle

def require (holds : Bool) (reason : String) : Except String Unit :=
  if holds then .ok () else .error reason

def nonEmptyString (v : JsValue) (reason : String) : Except String String :=
  match v with
  | .str s => if s = "" then .error reason else .ok s
  | _ => .error reason

def finiteNumber (v : JsValue) (reason : String) : Except String Binary64 :=
  match finiteNumber? v with
  | some x => .ok x
  | none => .error reason

/-- `String(v)`, with the message of the TypeError it can throw. -/
def coerceToString (v : JsValue) : Except String String :=
  match v.toText with
  | some text => .ok text
  | none => .error "Cannot convert object to primitive value"

structure CheckedProposal where
  transactionId : String
  commitment : String
  consensusTerm : Binary64
  index : Binary64
  validAfterMs : Binary64
  validUntilMs : Binary64
  anchorMs : Binary64
  record : JsValue

structure VerificationShare where
  nodeId : NodeId
  nodePcr0Hash : String
  consensusTerm : Binary64
  index : Binary64
  approvalHash : String
  nodeSignature : String
deriving DecidableEq

def VerificationShare.toJs (share : VerificationShare) : JsValue :=
  .obj [("nodeId", share.nodeId),
    ("nodePcr0Hash", share.nodePcr0Hash),
    ("consensusTerm", .num (.fin share.consensusTerm)),
    ("index", .num (.fin share.index)),
    ("approvalHash", share.approvalHash),
    ("nodeSignature", share.nodeSignature)]

structure ThresholdMultiSigPayload where
  clusterSize : ℕ
  f : ℤ
  threshold : ℤ
  uniqueNodeIds : List NodeId
  shares : List JsValue

variable (sha256 : Sha256)

/-- The fingerprint leaves itself out of the hashed text. -/
def anchorFingerprint (anchor : JsValue) : String :=
  sha256Hex sha256 (JsValue.stringify (.obj [("anchorMs", anchor.get "anchorMs"),
    ("includedNodeIds", anchor.get "includedNodeIds"),
    ("outlierNodeIds", anchor.get "outlierNodeIds")]))

def computeNodeSignature (nodeSecret transactionId commitment : String)
    (consensusTerm : JsNumber) : String :=
  sha256Hex sha256 ("ENCLAVE_NODE_SIGNATURE_V1|" ++ transactionId ++ "|" ++ commitment ++ "|" ++
    consensusTerm.toText ++ "|" ++ nodeSecret)

def approvalHash (transactionId commitment : String) (consensusTerm index : JsNumber)
    (nodeId : NodeId) : String :=
  sha256Hex sha256 ("ENCLAVE_BFT_APPROVAL_V1|" ++ transactionId ++ "|" ++ commitment ++ "|" ++
    consensusTerm.toText ++ "|" ++ index.toText ++ "|" ++ nodeId)

def verifyProposalStructurally (proposal : JsValue) : Except String CheckedProposal := do
  require proposal.truthy "MISSING_PROPOSAL"
  let transactionId ← nonEmptyString (proposal.get "transactionId") "INVALID_TRANSACTION_ID"
  let commitment ← nonEmptyString (proposal.get "commitment") "INVALID_COMMITMENT"
  let consensusTerm ← finiteNumber (proposal.get "consensusTerm") "INVALID_CONSENSUS_TERM"
  let index ← finiteNumber (proposal.get "index") "INVALID_INDEX"
  let zk := proposal.get "zkPublicCommitment"
  require zk.isObject "MISSING_ZK_PUBLIC_COMMITMENT"
  let _ ← nonEmptyString (zk.get "commitment") "INVALID_ZK_PUBLIC_COMMITMENT"
  let hs := proposal.get "hybridSignature"
  require hs.isObject "MISSING_HYBRID_SIGNATURE"
  let _ ← nonEmptyString (hs.get "classicalSignature") "INVALID_CLASSICAL_SIGNATURE_COMPONENT"
  let _ ← nonEmptyString (hs.get "pqcSignature") "INVALID_PQC_SIGNATURE_COMPONENT"
  let tl := proposal.get "timeLocks"
  require tl.isObject "MISSING_TIME_LOCKS"
  let validAfterMs ← finiteNumber (tl.get "validAfterMs") "INVALID_TIMELOCK_WINDOW"
  let validUntilMs ← finiteNumber (tl.get "validUntilMs") "INVALID_TIMELOCK_WINDOW"
  let anchor := tl.get "quorumMedianAnchor"
  require anchor.truthy "MISSING_QUORUM_MEDIAN_ANCHOR"
  let anchorMs ← finiteNumber (anchor.get "anchorMs") "INVALID_ANCHOR_MS"
  let fingerprint ← nonEmptyString (anchor.get "anchorFingerprint") "INVALID_ANCHOR_FINGERPRINT"
  require (anchorFingerprint sha256 anchor = fingerprint) "ANCHOR_FINGERPRINT_MISMATCH"
  let record := proposal.get "record"
  require record.truthy "MISSING_RECORD"
  return { transactionId, commitment, consensusTerm, index, validAfterMs, validUntilMs, anchorMs,
           record }

def verifyProposalAndBuildShare (bridge : EnclaveBridge) (nodeSecret : String)
    (proposal : JsValue) (nodeId : NodeId) (nodePcr0Hash : String) :
    Except String VerificationShare := do
  require bridge.isEnclaveReady "ENCLAVE_NOT_READY"
  let checked ← verifyProposalStructurally sha256 proposal
  let leafHash ← coerceToString (checked.record.get "escrowRecordLeafHash")
  require (leafHash = checked.commitment) "COMMITMENT_RECORD_MISMATCH"
  let okTimes ← bridge.verifyTimeLocksInEnclave (.fin checked.validAfterMs)
    (.fin checked.validUntilMs) (.fin checked.anchorMs)
  require okTimes "TIME_LOCKS_REJECTED"
  return {
    nodeId := nodeId
    nodePcr0Hash := nodePcr0Hash
    consensusTerm := checked.consensusTerm
    index := checked.index
    approvalHash := approvalHash sha256 checked.transactionId checked.commitment
      (.fin checked.consensusTerm) (.fin checked.index) nodeId
    nodeSignature := computeNodeSignature sha256 nodeSecret checked.transactionId
      checked.commitment (.fin checked.consensusTerm) }

/-! ## What a share certifies -/

@[simp] theorem require_eq_ok {holds : Bool} {reason : String} {u : Unit} :
    require holds reason = .ok u ↔ holds = true := by
  cases holds <;> simp [require]

theorem nonEmptyString_eq_ok {v : JsValue} {reason s : String} :
    nonEmptyString v reason = .ok s ↔ v = .str s ∧ s ≠ "" := by
  cases v with
  | str t =>
      by_cases ht : t = ""
      · simp only [nonEmptyString, ht, if_true, JsValue.str.injEq]
        constructor
        · intro h
          cases h
        · rintro ⟨rfl, hs⟩
          exact absurd rfl hs
      · simp only [nonEmptyString, ht, if_false, Except.ok.injEq, JsValue.str.injEq]
        exact ⟨fun h => ⟨h, h ▸ ht⟩, And.left⟩
  | _ => simp [nonEmptyString]

theorem finiteNumber_eq_ok {v : JsValue} {reason : String} {x : Binary64} :
    finiteNumber v reason = .ok x ↔ v = .num (.fin x) := by
  unfold finiteNumber finiteNumber?
  split
  · rename_i y hy
    split at hy <;> simp_all
  · rename_i hy
    split at hy <;> simp_all

theorem verifyProposalStructurally_ok {sha256 : Sha256} {proposal : JsValue}
    {checked : CheckedProposal} (h : verifyProposalStructurally sha256 proposal = .ok checked) :
    (proposal.get "transactionId" = .str checked.transactionId ∧ checked.transactionId ≠ "") ∧
      (proposal.get "commitment" = .str checked.commitment ∧ checked.commitment ≠ "") ∧
      proposal.get "consensusTerm" = .num (.fin checked.consensusTerm) ∧
      proposal.get "index" = .num (.fin checked.index) := by
  simp only [verifyProposalStructurally, bind_eq_ok, require_eq_ok, exists_const,
    nonEmptyString_eq_ok, finiteNumber_eq_ok] at h
  obtain ⟨-, tx, htx, commitment, hcommitment, term, hterm, index, hindex, -, _, -, -,
    _, -, _, -, -, _, -, _, -, -, _, -, _, -, -, -, hreturn⟩ := h
  cases hreturn
  exact ⟨htx, hcommitment, hterm, hindex⟩

theorem verifyProposalAndBuildShare_ok {sha256 : Sha256} {bridge : EnclaveBridge}
    {nodeSecret nodeId nodePcr0Hash : String} {proposal : JsValue} {share : VerificationShare}
    (h : verifyProposalAndBuildShare sha256 bridge nodeSecret proposal nodeId nodePcr0Hash =
      .ok share) :
    ∃ transactionId commitment,
      (proposal.get "transactionId" = .str transactionId ∧ transactionId ≠ "") ∧
      (proposal.get "commitment" = .str commitment ∧ commitment ≠ "") ∧
      proposal.get "consensusTerm" = .num (.fin share.consensusTerm) ∧
      proposal.get "index" = .num (.fin share.index) ∧
      share.approvalHash = approvalHash sha256 transactionId commitment
        (.fin share.consensusTerm) (.fin share.index) nodeId ∧
      share.nodeSignature = computeNodeSignature sha256 nodeSecret transactionId commitment
        (.fin share.consensusTerm) := by
  simp only [verifyProposalAndBuildShare, bind_eq_ok, require_eq_ok, exists_const] at h
  obtain ⟨-, checked, hchecked, _, -, -, _, -, -, hreturn⟩ := h
  obtain ⟨htx, hcommitment, hterm, hindex⟩ := verifyProposalStructurally_ok hchecked
  cases hreturn
  exact ⟨_, _, htx, hcommitment, hterm, hindex, rfl, rfl⟩

/-- The share was built for the proposal by some engine of some node. -/
def BuiltFor (proposal : JsValue) (share : VerificationShare) : Prop :=
  ∃ bridge nodeSecret nodeId nodePcr0Hash,
    verifyProposalAndBuildShare sha256 bridge nodeSecret proposal nodeId nodePcr0Hash = .ok share

/-- A share names the term and the index of its proposal; the commitment enters the two
hashes only. -/
theorem BuiltFor.term_index {sha256 : Sha256} {proposal : JsValue} {share : VerificationShare}
    (h : BuiltFor sha256 proposal share) :
    proposal.get "consensusTerm" = .num (.fin share.consensusTerm) ∧
      proposal.get "index" = .num (.fin share.index) := by
  obtain ⟨bridge, nodeSecret, nodeId, nodePcr0Hash, hbuild⟩ := h
  obtain ⟨_, _, -, -, hterm, hindex, -⟩ := verifyProposalAndBuildShare_ok hbuild
  exact ⟨hterm, hindex⟩

def plainAnchor : List (String × JsValue) :=
  [("anchorMs", .num (.fin (.ofInt 1000))),
    ("includedNodeIds", .arr ["n1", "n2", "n3"]),
    ("outlierNodeIds", .arr [])]

/-- A proposal that passes verification, for any transaction, commitment, term and index. -/
def proposalFor (transactionId commitment : String) (consensusTerm index : Binary64) : JsValue :=
  .obj [("transactionId", transactionId),
    ("commitment", commitment),
    ("consensusTerm", .num (.fin consensusTerm)),
    ("index", .num (.fin index)),
    ("zkPublicCommitment", .obj [("commitment", "zk_commit")]),
    ("hybridSignature",
      .obj [("classicalSignature", "classical_sig"), ("pqcSignature", "pqc_sig")]),
    ("timeLocks", .obj [("validAfterMs", .num (.fin (.ofInt 0))),
      ("validUntilMs", .num (.fin (.ofInt 9999999999))),
      ("quorumMedianAnchor", .obj (("anchorFingerprint",
        .str (sha256Hex sha256 (JsValue.stringify (.obj plainAnchor)))) :: plainAnchor))]),
    ("record", .obj [("escrowRecordLeafHash", commitment)])]

def shareFor (nodeSecret transactionId commitment : String) (consensusTerm index : Binary64)
    (nodeId : NodeId) (nodePcr0Hash : String) : VerificationShare where
  nodeId := nodeId
  nodePcr0Hash := nodePcr0Hash
  consensusTerm := consensusTerm
  index := index
  approvalHash :=
    approvalHash sha256 transactionId commitment (.fin consensusTerm) (.fin index) nodeId
  nodeSignature :=
    computeNodeSignature sha256 nodeSecret transactionId commitment (.fin consensusTerm)

def checkedFor (transactionId commitment : String) (consensusTerm index : Binary64) :
    CheckedProposal where
  transactionId := transactionId
  commitment := commitment
  consensusTerm := consensusTerm
  index := index
  validAfterMs := .ofInt 0
  validUntilMs := .ofInt 9999999999
  anchorMs := .ofInt 1000
  record := .obj [("escrowRecordLeafHash", commitment)]

theorem verifyProposalStructurally_proposalFor {transactionId commitment : String}
    (htx : transactionId ≠ "") (hne : commitment ≠ "") (consensusTerm index : Binary64) :
    verifyProposalStructurally sha256
        (proposalFor sha256 transactionId commitment consensusTerm index) =
      .ok (checkedFor transactionId commitment consensusTerm index) := by
  have hfp : sha256Hex sha256 (JsValue.stringify (.obj plainAnchor)) ≠ "" :=
    (sha256 _).text_ne_empty
  have hfingerprint (v : JsValue) :
      anchorFingerprint sha256 (.obj (("anchorFingerprint", v) :: plainAnchor)) =
        sha256Hex sha256 (JsValue.stringify (.obj plainAnchor)) := rfl
  simp [verifyProposalStructurally, proposalFor, JsValue.get, require, nonEmptyString,
    finiteNumber, finiteNumber?, htx, hne, hfp, JsValue.isObject, JsValue.truthy, hfingerprint,
    bind, Except.bind]
  simp [plainAnchor]
  rfl

theorem verifyProposalAndBuildShare_proposalFor {transactionId commitment : String}
    (htx : transactionId ≠ "") (hne : commitment ≠ "") (consensusTerm index : Binary64)
    (nodeSecret : String) (nodeId : NodeId) (nodePcr0Hash : String) :
    verifyProposalAndBuildShare sha256 ⟨true, false⟩ nodeSecret
        (proposalFor sha256 transactionId commitment consensusTerm index) nodeId nodePcr0Hash =
      .ok (shareFor sha256 nodeSecret transactionId commitment consensusTerm index nodeId
        nodePcr0Hash) := by
  have hlocks : EnclaveBridge.verifyTimeLocksInEnclave ⟨true, false⟩ (.fin (.ofInt 0))
      (.fin (.ofInt 9999999999)) (.fin (.ofInt 1000)) = .ok true := by
    simp only [EnclaveBridge.verifyTimeLocksInEnclave, JsNumber.isFinite, JsNumber.lt,
      Binary64.ofInt]
    norm_num
  simp only [verifyProposalAndBuildShare,
    verifyProposalStructurally_proposalFor sha256 htx hne consensusTerm index, checkedFor, bind,
    Except.bind, hlocks]
  simp [coerceToString, JsValue.get, JsValue.toText, require, EnclaveBridge.isEnclaveReady]
  rfl

/-! ## Aggregation -/

abbrev AttestationMap := OrderedMap NodeId String

def countedNodeId? (proposal : JsValue) (attested : AttestationMap) (share : JsValue) :
    Option NodeId := do
  let nodeId ← (share.get "nodeId").asString?
  guard ((share.get "consensusTerm").strictEq (proposal.get "consensusTerm"))
  guard ((share.get "index").strictEq (proposal.get "index"))
  let expectedPcr0 ← attested.get? nodeId
  guard (expectedPcr0 ≠ "")
  guard ((share.get "nodePcr0Hash").isStr expectedPcr0)
  return nodeId

/-- A later share of a node replaces an earlier one. -/
def uniqueShares (proposal : JsValue) (attested : AttestationMap) (shares : List JsValue) :
    OrderedMap NodeId JsValue :=
  .ofPairs (shares.filterMap fun share =>
    (countedNodeId? proposal attested share).map fun nodeId => (nodeId, share))

/-- `localeCompare` is the platform's; it decides the order of the shares only. -/
def aggregateShares (localeCompare : String → String → ℤ) (cluster : EnclaveClusterService)
    (proposal : JsValue) (shares : List JsValue) (attested : AttestationMap) :
    Except String ThresholdMultiSigPayload :=
  let clusterSize := cluster.getClusterSize
  let quorum := quorumThreshold clusterSize
  let sharesArr := (uniqueShares proposal attested shares).entries.mergeSort
    fun a b => localeCompare a.1 b.1 ≤ 0
  if sharesArr.length < quorum.threshold then .error "THRESHOLD_NOT_REACHED"
  else .ok {
    clusterSize := clusterSize
    f := quorum.f
    threshold := quorum.threshold
    uniqueNodeIds := sharesArr.map Prod.fst
    shares := sharesArr.map Prod.snd }

/-! ## Which share sets are accepted -/

variable {sha256} {localeCompare : String → String → ℤ} {cluster : EnclaveClusterService}
  {attested : AttestationMap}

theorem size_uniqueShares (proposal : JsValue) (shares : List JsValue) :
    (uniqueShares proposal attested shares).size =
      (shares.filterMap (countedNodeId? proposal attested)).dedup.length := by
  rw [uniqueShares, OrderedMap.size_ofPairs, List.map_filterMap]
  congr 3
  funext share
  simp [Function.comp_def]

theorem aggregateShares_accepts_iff (localeCompare : String → String → ℤ)
    {proposal : JsValue} {shares : List JsValue} :
    (∃ payload, aggregateShares localeCompare cluster proposal shares attested = .ok payload) ↔
      (quorumThreshold cluster.getClusterSize).threshold ≤
        (shares.filterMap (countedNodeId? proposal attested)).dedup.length := by
  have hsize : ((uniqueShares proposal attested shares).entries.mergeSort
      fun a b => localeCompare a.1 b.1 ≤ 0).length =
      (shares.filterMap (countedNodeId? proposal attested)).dedup.length := by
    rw [List.length_mergeSort, ← size_uniqueShares]
    rfl
  unfold aggregateShares
  simp only [hsize]
  split_ifs with h
  · simp only [exists_false, false_iff]
    omega
  · simp only [Except.ok.injEq, exists_eq', true_iff]
    omega

def IsAttested (attested : AttestationMap) (share : VerificationShare) : Prop :=
  attested.get? share.nodeId = some share.nodePcr0Hash ∧ share.nodePcr0Hash ≠ ""

instance (share : VerificationShare) : Decidable (IsAttested attested share) :=
  inferInstanceAs (Decidable (_ ∧ _))

def attestedNodes (attested : AttestationMap) (shares : List VerificationShare) : List NodeId :=
  ((shares.filter fun s => IsAttested attested s).map VerificationShare.nodeId).dedup

theorem countedNodeId?_toJs (attested : AttestationMap) {proposal : JsValue}
    {share : VerificationShare}
    (hterm : proposal.get "consensusTerm" = .num (.fin share.consensusTerm))
    (hindex : proposal.get "index" = .num (.fin share.index)) :
    countedNodeId? proposal attested share.toJs =
      if IsAttested attested share then some share.nodeId else none := by
  have hself : ∀ x : Binary64, (JsValue.num (.fin x)).strictEq (.num (.fin x)) = true := by
    simp [JsValue.strictEq, JsNumber.strictEq]
  have hnode : share.toJs.get "nodeId" = .str share.nodeId := rfl
  have hpcr : share.toJs.get "nodePcr0Hash" = .str share.nodePcr0Hash := rfl
  have hshareTerm : share.toJs.get "consensusTerm" = .num (.fin share.consensusTerm) := rfl
  have hshareIndex : share.toJs.get "index" = .num (.fin share.index) := rfl
  simp only [countedNodeId?, hnode, hpcr, hshareTerm, hshareIndex, hterm, hindex, hself,
    JsValue.asString?_str, Option.bind_eq_bind, Option.bind_some, guard_true, JsValue.isStr]
  by_cases h : IsAttested attested share
  · obtain ⟨hget, hne⟩ := h
    simp [IsAttested, hget, hne]
  · rw [if_neg h]
    cases hget : attested.get? share.nodeId with
    | none => simp
    | some pcr0 =>
        by_cases hpcr0 : share.nodePcr0Hash = pcr0
        · have hempty : pcr0 = "" := by
            by_contra hne
            exact h ⟨hpcr0 ▸ hget, hpcr0 ▸ hne⟩
          simp [hempty]
        · simp [hpcr0]

/-- Of the shares built for one proposal, those of attested nodes count for every proposal of
the same term and index. -/
theorem filterMap_countedNodeId? {P Q : JsValue} {shares : List VerificationShare}
    (hterm : Q.get "consensusTerm" = P.get "consensusTerm")
    (hindex : Q.get "index" = P.get "index") (hbuilt : ∀ s ∈ shares, BuiltFor sha256 P s) :
    (((shares.map VerificationShare.toJs).filterMap (countedNodeId? Q attested)).dedup) =
      attestedNodes attested shares := by
  have hlist : (shares.map VerificationShare.toJs).filterMap (countedNodeId? Q attested) =
      (shares.filter fun s => IsAttested attested s).map VerificationShare.nodeId := by
    induction shares with
    | nil => rfl
    | cons share shares ih =>
        obtain ⟨hPterm, hPindex⟩ := (hbuilt share List.mem_cons_self).term_index
        have hcounted := countedNodeId?_toJs attested (hterm.trans hPterm)
          (hindex.trans hPindex)
        have htail := ih fun s hs => hbuilt s (List.mem_cons_of_mem _ hs)
        rw [List.map_cons, List.filterMap_cons, hcounted, List.filter_cons]
        by_cases h : IsAttested attested share
        · simp [h, htail]
        · simp [h, htail]
  rw [hlist, attestedNodes]

/-- Shares built for `P` are refused for a proposal `Q` of the same term and index exactly
when fewer distinct attested nodes than the threshold sent them. -/
theorem aggregateShares_refuses_iff (sha256 : Sha256) (localeCompare : String → String → ℤ)
    (cluster : EnclaveClusterService) (attested : AttestationMap) (P Q : JsValue)
    (shares : List VerificationShare)
    (hterm : Q.get "consensusTerm" = P.get "consensusTerm")
    (hindex : Q.get "index" = P.get "index") (hbuilt : ∀ s ∈ shares, BuiltFor sha256 P s) :
    (∀ payload, aggregateShares localeCompare cluster Q (shares.map VerificationShare.toJs)
        attested ≠ .ok payload) ↔
      (attestedNodes attested shares).length <
        (quorumThreshold cluster.getClusterSize).threshold := by
  rw [← not_iff_not, not_lt, ← filterMap_countedNodeId? hterm hindex hbuilt,
    ← aggregateShares_accepts_iff localeCompare]
  simp

/-! ## A share set for two proposals -/

def sampleProposal (sha256 : Sha256) (commitment : String) : JsValue :=
  proposalFor sha256 "tx_9c41" commitment (.ofInt 7) (.ofInt 10)

def sampleShare (sha256 : Sha256) (commitment : String) (nodeId : NodeId) : VerificationShare :=
  shareFor sha256 "inrepo-node-secret" "tx_9c41" commitment (.ofInt 7) (.ofInt 10) nodeId "8f3c1b2a"

theorem sampleShare_built (sha256 : Sha256) {commitment : String} (hne : commitment ≠ "")
    (nodeId : NodeId) :
    BuiltFor sha256 (sampleProposal sha256 commitment) (sampleShare sha256 commitment nodeId) :=
  ⟨⟨true, false⟩, "inrepo-node-secret", nodeId, "8f3c1b2a",
    verifyProposalAndBuildShare_proposalFor sha256 (by decide) hne _ _ _ _ _⟩

def sampleCluster : EnclaveClusterService where
  peers := .ofPairs (["node_2", "node_3", "node_4"].map fun nodeId =>
    (nodeId, { nodeId := nodeId, endpoint := "http://10.0.0.2:8080", isAttested := true }))

def sampleAttested : AttestationMap :=
  .ofPairs (["node_1", "node_2", "node_3", "node_4"].map fun nodeId => (nodeId, "8f3c1b2a"))

/-- SHA-256 on the texts hashed for the share of `node_1`. -/
def sampleShareSha256 : Sha256 := fun text =>
  if text = JsValue.stringify (.obj plainAnchor) then
    ⟨"7d7f1c51c08b07edf090267ebfaa14c4451db54be47508ec70050a306e590421", by decide⟩
  else if text = "ENCLAVE_NODE_SIGNATURE_V1|tx_9c41|commitment_valid|7|inrepo-node-secret" then
    ⟨"26b8823f2209cc6b8f69417ec1b1fe20a21ed887bb164c1fd64b9774f35e8a3a", by decide⟩
  else ⟨"ed49917c93b113bef0ee86373bc9e87e1e66a1bc05c6161e149564441bcc0af8", by decide⟩

theorem aggregateShares_refuses_iff_one :
    (∀ payload, aggregateShares (fun _ _ => 0) sampleCluster
        (sampleProposal sampleShareSha256 "commitment_rogue")
        ([sampleShare sampleShareSha256 "commitment_valid" "node_1"].map VerificationShare.toJs)
        sampleAttested ≠ .ok payload) ↔
      (attestedNodes sampleAttested
          [sampleShare sampleShareSha256 "commitment_valid" "node_1"]).length <
        (quorumThreshold sampleCluster.getClusterSize).threshold :=
  aggregateShares_refuses_iff sampleShareSha256 (fun _ _ => 0) sampleCluster sampleAttested
    (sampleProposal sampleShareSha256 "commitment_valid")
    (sampleProposal sampleShareSha256 "commitment_rogue")
    [sampleShare sampleShareSha256 "commitment_valid" "node_1"] rfl rfl
    (by simpa using sampleShare_built sampleShareSha256 (by decide) "node_1")

/-- Under any hash, three shares approving one commitment make a payload for another. -/
theorem shares_counted_for_rogue_commitment :
    sampleCluster.getClusterSize = 4 ∧
      ∀ (sha256 : Sha256) (localeCompare : String → String → ℤ),
        let P := sampleProposal sha256 "commitment_valid"
        let Q := sampleProposal sha256 "commitment_rogue"
        let shares := ["node_1", "node_2", "node_3"].map (sampleShare sha256 "commitment_valid")
        Q.get "consensusTerm" = P.get "consensusTerm" ∧ Q.get "index" = P.get "index" ∧
          Q.get "commitment" ≠ P.get "commitment" ∧ (∀ s ∈ shares, BuiltFor sha256 P s) ∧
          ∃ payload, aggregateShares localeCompare sampleCluster Q
            (shares.map VerificationShare.toJs) sampleAttested = .ok payload := by
  refine ⟨rfl, fun sha256 localeCompare => ?_⟩
  intro P Q shares
  have hbuilt : ∀ s ∈ shares, BuiltFor sha256 P s := by
    intro s hs
    obtain ⟨nodeId, -, rfl⟩ := List.mem_map.1 hs
    exact sampleShare_built sha256 (by decide) nodeId
  refine ⟨rfl, rfl, by simp [P, Q, sampleProposal, proposalFor, JsValue.get], hbuilt, ?_⟩
  rw [aggregateShares_accepts_iff, filterMap_countedNodeId? (P := P) (Q := Q) rfl rfl hbuilt]
  have hnodes : attestedNodes sampleAttested shares = ["node_1", "node_2", "node_3"] := rfl
  rw [hnodes]
  decide

end UniverEscrow.Consensus
