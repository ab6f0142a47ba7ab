import UniverEscrow.Consensus.CommitCalls
import UniverEscrow.Js.Rounding
import UniverEscrow.Router.AppendEntry

/-!
# Votes of followers and the certificates they make

A follower verifies the proposal it is sent and answers with its share.  The leader aggregates
the shares it holds and appends the entry under the payload that comes out.
-/

namespace UniverEscrow.Router

open UniverEscrow.Js UniverEscrow.Enclave UniverEscrow.Ledger UniverEscrow.Merkle
open UniverEscrow.Consensus

/-! ## POST /consensus/verify-state-transition -/

/-- The secret every handler gives its engine. -/
def handlerSecret : String := "inrepo-node-secret"

def transitionGate (body : JsValue) (node : Node) :
    Except Response (NodeId × String × JsValue) := do
  answerUnless node.bridge.isEnclaveReady (failed 503 "ENCLAVE_NOT_READY")
  let missing := failed 400 "Missing nodeId/nodePcr0Hash."
  let nodeId ← orAnswer missing (body.get "nodeId").asString?
  let nodePcr0Hash ← orAnswer missing (body.get "nodePcr0Hash").asString?
  answerUnless (nodeId ≠ "" ∧ nodePcr0Hash ≠ "") missing
  answerUnless (body.get "proposal").truthy (failed 400 "Missing proposal.")
  return (nodeId, nodePcr0Hash, body.get "proposal")

def shareResponse (share : VerificationShare) : Response :=
  ⟨200, .obj [("status", "SUCCESS"), ("share", share.toJs)]⟩

/-- The handler reads nothing of the node but its readiness, and changes nothing. -/
def verifyStateTransition (platform : Platform) (body : JsValue) (node : Node) : Response :=
  match transitionGate body node with
  | .error response => response
  | .ok (nodeId, nodePcr0Hash, proposal) =>
      match verifyProposalAndBuildShare platform.sha256 node.bridge handlerSecret proposal nodeId
          nodePcr0Hash with
      | .error reason => failed 403 reason
      | .ok share => shareResponse share

theorem transitionGate_eq_ok {body : JsValue} {node : Node} {nodeId nodePcr0Hash : String}
    {proposal : JsValue} :
    transitionGate body node = .ok (nodeId, nodePcr0Hash, proposal) ↔
      node.bridge.isEnclaveReady = true ∧ body.get "nodeId" = .str nodeId ∧
        body.get "nodePcr0Hash" = .str nodePcr0Hash ∧ (nodeId ≠ "" ∧ nodePcr0Hash ≠ "") ∧
        proposal.truthy = true ∧ body.get "proposal" = proposal := by
  simp only [transitionGate, bind_eq_ok, orAnswer_eq_ok, answerUnless_eq_ok, exists_const,
    JsValue.asString?_eq_some, decide_eq_true_eq]
  constructor
  · rintro ⟨hready, _, hnode, _, hpcr0, hne, hproposal, hreturn⟩
    cases hreturn
    exact ⟨hready, hnode, hpcr0, hne, hproposal, rfl⟩
  · rintro ⟨hready, hnode, hpcr0, hne, hproposal, rfl⟩
    exact ⟨hready, nodeId, hnode, nodePcr0Hash, hpcr0, hne, hproposal, rfl⟩

theorem code_of_transitionGate {body : JsValue} {node : Node} {response : Response}
    (h : transitionGate body node = .error response) : response.code ≠ 200 := by
  simp only [transitionGate, bind_eq_error, orAnswer_eq_error, orAnswer_eq_ok,
    answerUnless_eq_error, answerUnless_eq_ok, exists_const] at h
  obtain ⟨-, rfl⟩ | ⟨-, ⟨-, rfl⟩ | ⟨nodeId, -, ⟨-, rfl⟩ | ⟨nodePcr0Hash, -, ⟨-, rfl⟩ |
    ⟨-, ⟨-, rfl⟩ | ⟨-, h⟩⟩⟩⟩⟩ := h
  · decide
  · decide
  · decide
  · decide
  · decide
  · cases h

/-- A share is in the name of the node it was asked of. -/
theorem identity_of_built {sha256 : Sha256} {bridge : EnclaveBridge}
    {nodeSecret nodeId nodePcr0Hash : String} {proposal : JsValue} {share : VerificationShare}
    (h : verifyProposalAndBuildShare sha256 bridge nodeSecret proposal nodeId nodePcr0Hash =
      .ok share) : share.nodeId = nodeId ∧ share.nodePcr0Hash = nodePcr0Hash := by
  simp only [verifyProposalAndBuildShare, bind_eq_ok, require_eq_ok, exists_const] at h
  obtain ⟨-, _, -, _, -, -, _, -, -, hreturn⟩ := h
  cases hreturn
  exact ⟨rfl, rfl⟩

theorem verifyStateTransition_ok {platform : Platform} {body : JsValue} {node : Node}
    (h : (verifyStateTransition platform body node).code = 200) :
    ∃ nodeId nodePcr0Hash share, body.get "nodeId" = .str nodeId ∧
      body.get "nodePcr0Hash" = .str nodePcr0Hash ∧ nodePcr0Hash ≠ "" ∧
      verifyProposalAndBuildShare platform.sha256 node.bridge handlerSecret (body.get "proposal")
        nodeId nodePcr0Hash = .ok share ∧
      verifyStateTransition platform body node = shareResponse share := by
  unfold verifyStateTransition at h ⊢
  cases hgate : transitionGate body node with
  | error response =>
      rw [hgate] at h
      exact absurd h (code_of_transitionGate hgate)
  | ok gated =>
      obtain ⟨nodeId, nodePcr0Hash, proposal⟩ := gated
      obtain ⟨-, hnode, hpcr0, ⟨-, hne⟩, -, rfl⟩ := transitionGate_eq_ok.1 hgate
      rw [hgate] at h
      dsimp only at h ⊢
      cases hbuilt : verifyProposalAndBuildShare platform.sha256 node.bridge handlerSecret
          (body.get "proposal") nodeId nodePcr0Hash with
      | error reason =>
          rw [hbuilt] at h
          exact absurd h (by decide : (403 : ℕ) ≠ 200)
      | ok share => exact ⟨nodeId, nodePcr0Hash, share, hnode, hpcr0, hne, hbuilt, rfl⟩

/-- A node that is asked for its vote under an id and the measurement attested for it. -/
structure Follower where
  node : Node
  nodeId : NodeId
  nodePcr0Hash : String

namespace Follower

def answer (platform : Platform) (proposal : JsValue) (follower : Follower) : Response :=
  verifyStateTransition platform (.obj [("nodeId", follower.nodeId),
    ("nodePcr0Hash", follower.nodePcr0Hash), ("proposal", proposal)]) follower.node

/-- The share in the answer of a follower that approves. -/
def vote? (platform : Platform) (proposal : JsValue) (follower : Follower) : Option JsValue :=
  if (follower.answer platform proposal).code = 200 then
    some ((follower.answer platform proposal).body.get "share")
  else none

/-- A vote is a share that names the follower, its measurement and the slot of the proposal. -/
theorem vote?_eq_some {platform : Platform} {proposal vote : JsValue} {follower : Follower}
    (h : follower.vote? platform proposal = some vote) :
    ∃ share : VerificationShare, vote = share.toJs ∧ share.nodeId = follower.nodeId ∧
      share.nodePcr0Hash = follower.nodePcr0Hash ∧ follower.nodePcr0Hash ≠ "" ∧
      proposal.get "consensusTerm" = .num (.fin share.consensusTerm) ∧
      proposal.get "index" = .num (.fin share.index) := by
  unfold vote? at h
  split_ifs at h with hcode
  obtain ⟨nodeId, nodePcr0Hash, share, hnode, hpcr0, hne, hbuilt, hanswer⟩ :=
    verifyStateTransition_ok hcode
  cases hnode
  cases hpcr0
  have hvote : share.toJs = vote := by
    rw [← Option.some.inj h, answer, hanswer]
    rfl
  obtain ⟨hid, hmeasured⟩ := identity_of_built hbuilt
  obtain ⟨_, _, -, -, hterm, hindex, -⟩ := verifyProposalAndBuildShare_ok hbuilt
  exact ⟨share, hvote.symm, hid, hmeasured, hne, hterm, hindex⟩

end Follower

/-! ## Certificates -/

def certificateToJs (payload : ThresholdMultiSigPayload) : JsValue :=
  .obj [("clusterSize", .num (.ofInt payload.clusterSize)),
    ("f", .num (.ofInt payload.f)),
    ("threshold", .num (.ofInt payload.threshold)),
    ("uniqueNodeIds", .arr (payload.uniqueNodeIds.map JsValue.str)),
    ("shares", .arr payload.shares)]

/-- The request that appends the entry under a payload. -/
def appendBody (term : JsNumber) (leaderId entry : JsValue) (payload : ThresholdMultiSigPayload) :
    JsValue :=
  .obj [("term", .num term), ("leaderId", leaderId), ("entry", entry),
    ("bft", .obj [("clusterSize", .num (.ofInt payload.clusterSize)),
      ("payload", certificateToJs payload)])]

section Certificates

variable {localeCompare : String → String → ℤ} {cluster : EnclaveClusterService}
  {proposal : JsValue} {shares : List JsValue} {attested : AttestationMap}
  {payload : ThresholdMultiSigPayload} {term index : JsNumber}

/-- A share counts for its node if it names the slot of the proposal and the measurement that is
attested for the node. -/
theorem countedNodeId?_eq_some (hterm : proposal.get "consensusTerm" = .num term)
    (hindex : proposal.get "index" = .num index) {share : JsValue} {nodeId : NodeId} :
    countedNodeId? proposal attested share = some nodeId ↔
      share.get "nodeId" = .str nodeId ∧ (share.get "consensusTerm").isNum term = true ∧
        (share.get "index").isNum index = true ∧
        ∃ pcr0, attested.get? nodeId = some pcr0 ∧ pcr0 ≠ "" ∧
          share.get "nodePcr0Hash" = .str pcr0 := by
  have hnum (v : JsValue) (n : JsNumber) : v.strictEq (.num n) = v.isNum n := by
    cases v <;> rfl
  simp only [countedNodeId?, hterm, hindex, hnum, Option.bind_eq_bind, Option.bind_eq_some_iff,
    JsValue.asString?_eq_some, Option.guard_eq_some', JsValue.isStr_iff, exists_const,
    Option.pure_def, Option.some.injEq]
  constructor
  · rintro ⟨node, hnode, hshareTerm, hshareIndex, pcr0, hattested, hne, hpcr0, rfl⟩
    exact ⟨hnode, hshareTerm, hshareIndex, pcr0, hattested, hne, hpcr0⟩
  · rintro ⟨hnode, hshareTerm, hshareIndex, pcr0, hattested, hne, hpcr0⟩
    exact ⟨nodeId, hnode, hshareTerm, hshareIndex, pcr0, hattested, hne, hpcr0, rfl⟩

/-- The shares of a certificate, each with the node it counts for. -/
theorem aggregateShares_eq_ok
    (h : aggregateShares localeCompare cluster proposal shares attested = .ok payload) :
    ∃ counted : List (NodeId × JsValue),
      (∀ entry ∈ counted, countedNodeId? proposal attested entry.2 = some entry.1) ∧
      (counted.map Prod.fst).Nodup ∧
      (quorumThreshold cluster.getClusterSize).threshold ≤ counted.length ∧
      payload = {
        clusterSize := cluster.getClusterSize
        f := (quorumThreshold cluster.getClusterSize).f
        threshold := (quorumThreshold cluster.getClusterSize).threshold
        uniqueNodeIds := counted.map Prod.fst
        shares := counted.map Prod.snd } := by
  unfold aggregateShares at h
  dsimp only at h
  split_ifs at h with hfew
  cases h
  have hperm := List.mergeSort_perm (uniqueShares proposal attested shares).entries
    fun a b => decide (localeCompare a.1 b.1 ≤ 0)
  refine ⟨_, ?_, ?_, not_lt.1 hfew, rfl⟩
  · rintro ⟨nodeId, share⟩ hmem
    have hpair := OrderedMap.mem_of_get?_ofPairs
      (OrderedMap.mem_entries_iff.1 (hperm.mem_iff.1 hmem))
    obtain ⟨counted, -, hcounted⟩ := List.mem_filterMap.1 hpair
    obtain ⟨node, hnode, heq⟩ := Option.map_eq_some_iff.1 hcounted
    cases heq
    exact hnode
  · exact (hperm.map Prod.fst).nodup_iff.2 (OrderedMap.keys_nodup _)

/-- What the aggregator accepts the commit gate finds complete. -/
theorem certificate_complete
    (h : aggregateShares localeCompare cluster proposal shares attested = .ok payload)
    (hterm : proposal.get "consensusTerm" = .num term) (hindex : proposal.get "index" = .num index)
    (hsize : cluster.getClusterSize ≤ 2 ^ 53) :
    payload.clusterSize = cluster.getClusterSize ∧
      EnclaveRaftEngine.CompletePayload (certificateToJs payload) (.ofInt payload.clusterSize) term
        index payload.shares := by
  obtain ⟨counted, hcounted, hnodup, hcount, rfl⟩ := aggregateShares_eq_ok h
  have hpos : 1 ≤ (cluster.getClusterSize : ℤ) := by
    simp only [EnclaveClusterService.getClusterSize]
    omega
  have hle : (cluster.getClusterSize : ℤ) ≤ 2 ^ 53 := by exact_mod_cast hsize
  have hthreshold := thresholdExpected_ofInt hpos hle
  have hbounds : 0 ≤ (quorumThreshold cluster.getClusterSize).f ∧
      (quorumThreshold cluster.getClusterSize).threshold ≤ 2 ^ 53 ∧
      1 ≤ (quorumThreshold cluster.getClusterSize).threshold ∧
      (quorumThreshold cluster.getClusterSize).f ≤ 2 ^ 53 := by
    simp only [quorumThreshold]
    omega
  have hself {n : ℤ} (hn : |n| ≤ 2 ^ 53) : (JsValue.num (.ofInt n)).isNum (.ofInt n) = true :=
    EnclaveRaftEngine.isNum_iff.2 ⟨rfl, JsNumber.ofInt_ne_nan hn⟩
  have henough {n : ℕ} (hn : counted.length = n) :
      (JsNumber.ofInt n).lt (thresholdExpected (.ofInt cluster.getClusterSize)) = false := by
    rw [hthreshold]
    refine JsNumber.ofInt_lt_ofInt_of_le ?_ (hn ▸ hcount)
    rw [abs_le]
    omega
  have hshare (share : JsValue) (hmem : share ∈ counted.map Prod.snd) :
      ∃ nodeId, share.get "nodeId" = .str nodeId ∧
        (share.get "consensusTerm").isNum term = true ∧
        (share.get "index").isNum index = true := by
    obtain ⟨entry, hentry, rfl⟩ := List.mem_map.1 hmem
    obtain ⟨hnode, hshareTerm, hshareIndex, -⟩ :=
      (countedNodeId?_eq_some hterm hindex).1 (hcounted entry hentry)
    exact ⟨_, hnode, hshareTerm, hshareIndex⟩
  have hnodeIds : EnclaveRaftEngine.sharedNodeIds (counted.map Prod.snd) =
      counted.map Prod.fst := by
    rw [EnclaveRaftEngine.sharedNodeIds, List.filterMap_map, ← List.filterMap_eq_map]
    apply List.filterMap_congr
    intro entry hentry
    exact JsValue.asString?_eq_some.2
      ((countedNodeId?_eq_some hterm hindex).1 (hcounted entry hentry)).1
  refine ⟨rfl, ⟨hself ?_, ?_, ?_, ?_, rfl, ?_, ?_, ?_, ?_⟩⟩
  · dsimp only
    rw [abs_le]
    omega
  · dsimp only
    rw [fExpected_ofInt hpos hle]
    exact hself (by rw [abs_le]; dsimp only; omega)
  · dsimp only
    rw [hthreshold]
    exact hself (by rw [abs_le]; dsimp only; omega)
  · exact congrArg Except.ok (henough (by simp))
  · apply List.ne_nil_of_length_pos
    rw [List.length_map]
    omega
  · exact henough (by simp)
  · intro share hmem
    obtain ⟨nodeId, hnode, hslot⟩ := hshare share hmem
    exact ⟨⟨nodeId, hnode⟩, hslot⟩
  · rw [hnodeIds, hnodup.dedup]
    exact henough (by simp)

end Certificates

/-! ## Committing under a certificate -/

/-- The leader takes writes and can store the entry under the term. -/
structure OpenFor (leader : Node) (term : JsNumber) (entry : JsValue) : Prop where
  unfrozen : leader.auditor.isFrozen = false
  ready : leader.bridge.isEnclaveReady = true
  current : term.lt leader.raft.currentTerm = false
  logSpace : logFull leader.raft = false
  storable : Storable entry leader.auditor.store
  clusterSize_le : leader.cluster.getClusterSize ≤ 2 ^ 53

/-- An open leader commits an entry under a certificate of its own cluster exactly if the
certificate is for the next slot of the log. -/
theorem persistsEntry_appendBody_iff (platform : Platform) (clock : RequestClock)
    {localeCompare : String → String → ℤ} {leader : Node} {proposal entry : JsValue}
    (leaderId : JsValue) {shares : List JsValue} {attested : AttestationMap}
    {payload : ThresholdMultiSigPayload} {term index : JsNumber}
    (hraft : leader.raft.WellFormed) (hopen : OpenFor leader term entry)
    (hterm : proposal.get "consensusTerm" = .num term) (hindex : proposal.get "index" = .num index)
    (h : aggregateShares localeCompare leader.cluster proposal shares attested = .ok payload) :
    PersistsEntry platform clock (appendBody term leaderId entry payload) leader ↔
      index = leader.nextIndex := by
  obtain ⟨hsize, hcomplete⟩ := certificate_complete h hterm hindex hopen.clusterSize_le
  have hbody : ((appendBody term leaderId entry payload).get "bft").get "payload" =
      certificateToJs payload := rfl
  rw [persistsEntry_iff hraft]
  constructor
  · rintro ⟨term', clusterSize, shares', haccepted⟩
    obtain ⟨share, hmem⟩ := List.exists_mem_of_ne_nil _ haccepted.complete.shares_ne
    have hsame : payload.shares = shares' :=
      JsValue.arr.inj (hcomplete.shares_eq.symm.trans (hbody ▸ haccepted.complete.shares_eq))
    exact EnclaveRaftEngine.eq_of_isNum (hcomplete.share share (hsame ▸ hmem)).2.2
      (haccepted.complete.share share hmem).2.2
  · rintro rfl
    refine ⟨term, .ofInt payload.clusterSize, payload.shares, rfl, hopen.unfrozen, hopen.ready,
      hopen.current, hopen.logSpace, hopen.storable, rfl, ?_, rfl, hcomplete⟩
    have hpos : 1 ≤ payload.clusterSize := by
      rw [hsize]
      exact Nat.le_add_left 1 _
    have hle : payload.clusterSize ≤ 2 ^ 53 := hsize ▸ hopen.clusterSize_le
    have hne : ((payload.clusterSize : ℤ) : ℚ) ≠ 0 := by
      norm_cast
      omega
    rw [JsNumber.ofInt_eq_fin (by rw [abs_le]; omega)]
    simpa [JsNumber.truthy] using hne

end UniverEscrow.Router
