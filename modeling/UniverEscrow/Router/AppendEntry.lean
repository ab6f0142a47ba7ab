import UniverEscrow.Router.EscrowRouter

/-!
# What a persisted append-entry request proves

The handler saves the entry of a request whose payload is complete for the cluster size the
request states.  Neither the hashes of the shares nor the registered peers are looked at.
-/

namespace UniverEscrow.Router

open UniverEscrow.Js UniverEscrow.Enclave UniverEscrow.Ledger UniverEscrow.Merkle
open UniverEscrow.Consensus

/-! ## Genuine shares -/

section GenuineShares

variable (sha256 : Sha256) (nodeSecret : String) (record : JsValue) (term index : JsNumber)

/-- The share of the node carries the two hashes that `verifyProposalAndBuildShare` of an engine
with the secret computes for the record, the term and the index. -/
def GenuineShare (nodeId : NodeId) (share : JsValue) : Prop :=
  share.get "nodeId" = .str nodeId ∧
    ∃ bridge proposal nodePcr0Hash built,
      proposal.get "transactionId" = record.get "transactionId" ∧
      proposal.get "commitment" = record.get "escrowRecordLeafHash" ∧
      proposal.get "consensusTerm" = .num term ∧ proposal.get "index" = .num index ∧
      verifyProposalAndBuildShare sha256 bridge nodeSecret proposal nodeId nodePcr0Hash =
        .ok built ∧
      share.get "approvalHash" = .str built.approvalHash ∧
      share.get "nodeSignature" = .str built.nodeSignature

/-- The node of a share whose two hashes are the ones recomputed from the record. -/
def recomputedNodeId? (share : JsValue) : Option NodeId := do
  let transactionId ← (record.get "transactionId").asString?
  let commitment ← (record.get "escrowRecordLeafHash").asString?
  let nodeId ← (share.get "nodeId").asString?
  guard (transactionId ≠ "" ∧ commitment ≠ "")
  guard (term.isFinite = true ∧ index.isFinite = true)
  guard ((share.get "approvalHash").isStr
    (approvalHash sha256 transactionId commitment term index nodeId))
  guard ((share.get "nodeSignature").isStr
    (computeNodeSignature sha256 nodeSecret transactionId commitment term))
  return nodeId

variable {sha256 nodeSecret record term index}

theorem isFinite_iff {n : JsNumber} : n.isFinite = true ↔ ∃ x, n = .fin x := by
  cases n <;> simp [JsNumber.isFinite]

/-- Recomputing the hashes recognises exactly the genuine shares. -/
theorem recomputedNodeId?_eq_some {nodeId : NodeId} {share : JsValue} :
    recomputedNodeId? sha256 nodeSecret record term index share = some nodeId ↔
      GenuineShare sha256 nodeSecret record term index nodeId share := by
  simp only [recomputedNodeId?, Option.bind_eq_bind, Option.bind_eq_some_iff,
    JsValue.asString?_eq_some, Option.guard_eq_some', JsValue.isStr_iff, exists_const,
    Option.pure_def, Option.some.injEq]
  constructor
  · rintro ⟨transactionId, htx, commitment, hcommitment, node, hnode, ⟨htxne, hne⟩,
      ⟨hterm, hindex⟩, happroval, hsignature, rfl⟩
    obtain ⟨x, rfl⟩ := isFinite_iff.1 hterm
    obtain ⟨y, rfl⟩ := isFinite_iff.1 hindex
    exact ⟨hnode, _, proposalFor sha256 transactionId commitment x y, "", _, htx.symm,
      hcommitment.symm, rfl, rfl,
      verifyProposalAndBuildShare_proposalFor sha256 htxne hne x y nodeSecret node "",
      happroval, hsignature⟩
  · rintro ⟨hnode, bridge, proposal, nodePcr0Hash, built, htx, hcommitment, hterm, hindex, hbuilt,
      happroval, hsignature⟩
    obtain ⟨transactionId, commitment, ⟨htx', htxne⟩, ⟨hcommitment', hne⟩, hterm', hindex',
      happroval', hsignature'⟩ := verifyProposalAndBuildShare_ok hbuilt
    cases hterm.symm.trans hterm'
    cases hindex.symm.trans hindex'
    exact ⟨transactionId, htx.symm.trans htx', commitment, hcommitment.symm.trans hcommitment',
      nodeId, hnode, ⟨htxne, hne⟩, ⟨rfl, rfl⟩, happroval' ▸ happroval, hsignature' ▸ hsignature,
      rfl⟩

end GenuineShares

/-! ## Which requests persist their entry -/

variable (platform : Platform) (clock : RequestClock) (body : JsValue) (node : Node)

def Node.nextIndex (node : Node) : JsNumber := .ofInt ((node.raft.log.length + 1 : ℕ) : ℤ)

/-- The handler answers with success and the store has gone through a save of the entry. -/
def PersistsEntry : Prop :=
  (appendEntry platform clock body node).2.code = 200 ∧
    (appendEntry platform clock body node).1.auditor.store =
      (Ledger.saveRecord platform.sha256 clock.updatedAt (body.get "entry") node.auditor.store).1

/-- The node is open to writes, the entry can be stored, and the payload is complete for the
cluster size the request states. -/
structure AcceptedRequest (term clusterSize : JsNumber) (shares : List JsValue) : Prop where
  term_eq : body.get "term" = .num term
  unfrozen : node.auditor.isFrozen = false
  ready : node.bridge.isEnclaveReady = true
  current : term.lt node.raft.currentTerm = false
  logSpace : logFull node.raft = false
  storable : Storable (body.get "entry") node.auditor.store
  clusterSize_eq :
    (((body.get "bft").get "clusterSize").orElse (.num (.ofInt 0))).toNumber = some clusterSize
  clusterSize_ne : clusterSize.truthy = true
  payload : ((body.get "bft").get "payload").truthy = true
  complete : EnclaveRaftEngine.CompletePayload ((body.get "bft").get "payload") clusterSize term
    node.nextIndex shares

/-- The payload has genuine shares of at least `2 f + 1` different nodes, for `f` of the
registered cluster. -/
def AuthenticPayload (nodeSecret : String) : Prop :=
  ∃ term shares, body.get "term" = .num term ∧
    ((body.get "bft").get "payload").get "shares" = .arr shares ∧
    ∃ nodeIds : List NodeId, nodeIds.Nodup ∧
      2 * (quorumThreshold node.cluster.getClusterSize).f + 1 ≤ nodeIds.length ∧
      ∀ nodeId ∈ nodeIds, ∃ share ∈ shares,
        GenuineShare platform.sha256 nodeSecret (body.get "entry") term node.nextIndex nodeId share

def confirmedNodeIds (nodeSecret : String) (term : JsNumber) (shares : List JsValue) :
    List NodeId :=
  (shares.filterMap (recomputedNodeId? platform.sha256 nodeSecret (body.get "entry") term
    node.nextIndex)).dedup

variable {platform clock body node}

theorem appendEntryGate_eq_ok {term : JsNumber} {entry : JsValue} :
    appendEntryGate body node = .ok (term, entry) ↔
      body.get "term" = .num term ∧ node.auditor.isFrozen = false ∧
        node.bridge.isEnclaveReady = true ∧ term.lt node.raft.currentTerm = false ∧
        entry.truthy = true ∧ body.get "entry" = entry := by
  simp only [appendEntryGate, bind_eq_ok, orAnswer_eq_ok, answerUnless_eq_ok, exists_const,
    JsValue.asNumber?_eq_some, Bool.not_eq_true']
  constructor
  · rintro ⟨n, hterm, hfrozen, hready, hcurrent, hentry, hreturn⟩
    cases hreturn
    exact ⟨hterm, hfrozen, hready, hcurrent, hentry, rfl⟩
  · rintro ⟨hterm, hfrozen, hready, hcurrent, hentry, rfl⟩
    exact ⟨term, hterm, hfrozen, hready, hcurrent, hentry, rfl⟩

theorem code_of_appendEntryGate {response : Response}
    (h : appendEntryGate body node = .error response) : response.code ≠ 200 := by
  simp only [appendEntryGate, bind_eq_error, orAnswer_eq_error, orAnswer_eq_ok,
    answerUnless_eq_error, answerUnless_eq_ok, exists_const] at h
  obtain ⟨-, rfl⟩ | ⟨term, -, ⟨-, rfl⟩ | ⟨-, ⟨-, rfl⟩ | ⟨-, ⟨-, rfl⟩ | ⟨-, ⟨-, rfl⟩ | ⟨-, h⟩⟩⟩⟩⟩ := h
  · decide
  · decide
  · decide
  · exact show (400 : ℕ) ≠ 200 by decide
  · decide
  · cases h

theorem bftCommitParams_eq_ok {term : JsNumber} {appended : RaftLogEntry} {bft : JsValue}
    {params : BftCommitParams} :
    bftCommitParams term appended bft = .ok params ↔
      ∃ clusterSize commitment,
        ((bft.get "clusterSize").orElse (.num (.ofInt 0))).toNumber = some clusterSize ∧
        (clusterSize.truthy = true ∧ (bft.get "payload").truthy = true) ∧
        (appended.record.get "escrowRecordLeafHash").toText = some commitment ∧
        params = ⟨.ofInt appended.index, clusterSize, commitment, term, .ofInt appended.index,
          bft.get "payload"⟩ := by
  simp only [bftCommitParams, bind_eq_ok, EnclaveRaftEngine.coerceOrThrow_eq_ok,
    EnclaveRaftEngine.refuseUnless_eq_ok, exists_const, Bool.and_eq_true]
  constructor
  · rintro ⟨clusterSize, hsize, htruthy, commitment, hcommitment, hreturn⟩
    cases hreturn
    exact ⟨clusterSize, commitment, hsize, htruthy, hcommitment, rfl⟩
  · rintro ⟨clusterSize, commitment, hsize, htruthy, hcommitment, rfl⟩
    exact ⟨clusterSize, hsize, htruthy, commitment, hcommitment, rfl⟩

/-- The entry that may be committed is the appended one, for a complete payload. -/
theorem appendDecision_eq_ok {engine : EnclaveRaftEngine} (h : engine.WellFormed)
    (hspace : logFull engine = false) {term : JsNumber} {entry bft : JsValue}
    (hentry : entry.isNullish = false) {saved : RaftLogEntry} :
    appendDecision term entry bft engine = .ok saved ↔
      saved = engine.newEntry entry ∧
      (∃ commitment, (entry.get "escrowRecordLeafHash").toText = some commitment) ∧
      ∃ clusterSize shares,
        ((bft.get "clusterSize").orElse (.num (.ofInt 0))).toNumber = some clusterSize ∧
        (clusterSize.truthy = true ∧ (bft.get "payload").truthy = true) ∧
        EnclaveRaftEngine.CompletePayload (bft.get "payload") clusterSize term
          (.ofInt (engine.newEntry entry).index) shares := by
  have hlength : engine.log.length < 2 ^ 53 := by
    have hshort := of_decide_eq_false hspace
    simp only [maxArrayLength] at hshort
    omega
  have hfound := h.findEntry_newEntry hlength entry
  have hnew : (engine.appendLocalLog entry).commitIndex < (engine.newEntry entry).index :=
    Nat.lt_succ_of_le h.commitIndex_le
  simp only [appendDecision, bind_eq_ok, bftCommitParams_eq_ok, EnclaveRaftEngine.bftDecision_eq_ok,
    EnclaveRaftEngine.checkPayload_eq_ok]
  constructor
  · rintro ⟨_, ⟨clusterSize, commitment, hsize, htruthy, hcommitment, rfl⟩, hsaved, -, -, -,
      shares, hcomplete⟩
    cases hfound.symm.trans hsaved
    exact ⟨rfl, ⟨commitment, hcommitment⟩, clusterSize, shares, hsize, htruthy, hcomplete⟩
  · rintro ⟨rfl, ⟨commitment, hcommitment⟩, clusterSize, shares, hsize, htruthy, hcomplete⟩
    exact ⟨_, ⟨clusterSize, commitment, hsize, htruthy, hcommitment, rfl⟩, hfound, hnew,
      htruthy.2, ⟨hentry, hcommitment⟩, shares, hcomplete⟩

theorem truthy_of_isObject {v : JsValue} (h : v.isObject = true) :
    v.truthy = true ∧ v.isNullish = false := by
  cases v <;> simp_all [JsValue.isObject, JsValue.truthy, JsValue.isNullish]

theorem stopResponse_code (stop : CommitStop) : (stopResponse stop).code ≠ 200 := by
  cases stop <;> simp [stopResponse, failed]

theorem leafText_of_storable {record : JsValue} {store : Store} (h : Storable record store) :
    ∃ commitment, (record.get "escrowRecordLeafHash").toText = some commitment := by
  obtain ⟨-, existing, normalized, entries, -, hnormalized, -⟩ := h
  simp only [normalizeRecord, Option.bind_eq_bind, Option.bind_eq_some_iff] at hnormalized
  obtain ⟨_, -, commitment, hcommitment, -⟩ := hnormalized
  exact ⟨commitment, hcommitment⟩

/-- Past its checks the handler saves the entry and answers with the outcome of the save. -/
theorem appendAndCommit_saves (platform : Platform) (clock : RequestClock) {term : JsNumber}
    {entry bft : JsValue} {saved : RaftLogEntry}
    (hspace : logFull node.raft = false)
    (hdecision : appendDecision term entry bft node.raft = .ok saved) :
    (appendAndCommit platform clock term entry bft node).1.auditor.store =
        (Ledger.saveRecord platform.sha256 clock.updatedAt saved.record node.auditor.store).1 ∧
      ((appendAndCommit platform clock term entry bft node).2.code = 200 ↔
        (Ledger.saveRecord platform.sha256 clock.updatedAt saved.record
          node.auditor.store).2 = none) := by
  simp only [appendAndCommit, hspace, Bool.false_eq_true, if_false, hdecision, Node.saveRecord]
  cases (Ledger.saveRecord platform.sha256 clock.updatedAt saved.record node.auditor.store).2 with
  | none => exact ⟨rfl, iff_of_true rfl rfl⟩
  | some failure => exact ⟨rfl, iff_of_false (by simp [failed]) (by simp)⟩

theorem appendAndCommit_ok {term : JsNumber} {entry bft : JsValue}
    (hcode : (appendAndCommit platform clock term entry bft node).2.code = 200) :
    logFull node.raft = false ∧ ∃ saved, appendDecision term entry bft node.raft = .ok saved := by
  unfold appendAndCommit at hcode
  split_ifs at hcode with hspace
  · simp [failed] at hcode
  · refine ⟨Bool.eq_false_iff.2 hspace, ?_⟩
    cases hdecision : appendDecision term entry bft node.raft with
    | error stop =>
        rw [hdecision] at hcode
        exact absurd hcode (stopResponse_code stop)
    | ok saved => exact ⟨saved, rfl⟩

/-- The handler persists the entry of exactly the accepted requests. -/
theorem persistsEntry_iff (hraft : node.raft.WellFormed) :
    PersistsEntry platform clock body node ↔
      ∃ term clusterSize shares, AcceptedRequest body node term clusterSize shares := by
  constructor
  · rintro ⟨hcode, -⟩
    unfold appendEntry at hcode
    cases hgate : appendEntryGate body node with
    | error response =>
        rw [hgate] at hcode
        exact absurd hcode (code_of_appendEntryGate hgate)
    | ok gated =>
        obtain ⟨term, entry⟩ := gated
        rw [hgate] at hcode
        obtain ⟨hterm, hfrozen, hready, hcurrent, htruthy, rfl⟩ := appendEntryGate_eq_ok.1 hgate
        obtain ⟨hspace, saved, hdecision⟩ := appendAndCommit_ok hcode
        have hsaved := (appendAndCommit_saves platform clock hspace hdecision).2.1 hcode
        have hnullish : (body.get "entry").isNullish = false := by
          cases hentry : body.get "entry" <;> simp_all [JsValue.truthy, JsValue.isNullish]
        obtain ⟨rfl, -, clusterSize, shares, hsize, htruthies, hcomplete⟩ :=
          (appendDecision_eq_ok hraft hspace hnullish).1 hdecision
        exact ⟨term, clusterSize, shares, hterm, hfrozen, hready, hcurrent, hspace,
          saveRecord_succeeds_iff.1 hsaved, hsize, htruthies.1, htruthies.2, hcomplete⟩
  · rintro ⟨term, clusterSize, shares, h⟩
    obtain ⟨htruthy, hnullish⟩ := truthy_of_isObject h.storable.1
    have hgate : appendEntryGate body node = .ok (term, body.get "entry") :=
      appendEntryGate_eq_ok.2 ⟨h.term_eq, h.unfrozen, h.ready, h.current, htruthy, rfl⟩
    have hdecision := (appendDecision_eq_ok hraft h.logSpace hnullish).2 ⟨rfl,
      leafText_of_storable h.storable, clusterSize, shares, h.clusterSize_eq,
      ⟨h.clusterSize_ne, h.payload⟩, h.complete⟩
    obtain ⟨hstore, hcode⟩ := appendAndCommit_saves platform clock h.logSpace hdecision
    simp only [PersistsEntry, appendEntry, hgate]
    exact ⟨hcode.2 (saveRecord_succeeds_iff.2 h.storable), hstore⟩

theorem mem_confirmedNodeIds {nodeSecret : String} {term : JsNumber} {shares : List JsValue}
    {nodeId : NodeId} :
    nodeId ∈ confirmedNodeIds platform body node nodeSecret term shares ↔
      ∃ share ∈ shares, GenuineShare platform.sha256 nodeSecret (body.get "entry") term
        node.nextIndex nodeId share := by
  simp only [confirmedNodeIds, List.mem_dedup, List.mem_filterMap, recomputedNodeId?_eq_some]

theorem authenticPayload_iff {nodeSecret : String} {term : JsNumber} {shares : List JsValue}
    (hterm : body.get "term" = .num term)
    (hshares : ((body.get "bft").get "payload").get "shares" = .arr shares) :
    AuthenticPayload platform body node nodeSecret ↔
      2 * (quorumThreshold node.cluster.getClusterSize).f + 1 ≤
        (confirmedNodeIds platform body node nodeSecret term shares).length := by
  constructor
  · rintro ⟨term', shares', hterm', hshares', nodeIds, hnodup, hcount, hgenuine⟩
    cases hterm.symm.trans hterm'
    cases hshares.symm.trans hshares'
    have hsub : nodeIds ⊆ confirmedNodeIds platform body node nodeSecret term shares :=
      fun nodeId hmem => mem_confirmedNodeIds.2 (hgenuine nodeId hmem)
    have hlength := (List.subperm_of_subset hnodup hsub).length_le
    omega
  · intro hcount
    exact ⟨term, shares, hterm, hshares, _, List.nodup_dedup _, hcount,
      fun nodeId hmem => mem_confirmedNodeIds.1 hmem⟩

/-- A persisted entry has an authentic payload exactly if the request is not accepted in the
first place or recomputing the hashes of its shares confirms `2 f + 1` different nodes. -/
theorem append_entry_authentic_iff (platform : Platform) (clock : RequestClock) (body : JsValue)
    (node : Node) (nodeSecret : String) (hraft : node.raft.Reachable) :
    (PersistsEntry platform clock body node → AuthenticPayload platform body node nodeSecret) ↔
      ∀ term clusterSize shares, AcceptedRequest body node term clusterSize shares →
        2 * (quorumThreshold node.cluster.getClusterSize).f + 1 ≤
          (confirmedNodeIds platform body node nodeSecret term shares).length := by
  rw [persistsEntry_iff hraft.wellFormed]
  constructor
  · intro hauthentic term clusterSize shares haccepted
    exact (authenticPayload_iff haccepted.term_eq haccepted.complete.shares_eq).1
      (hauthentic ⟨term, clusterSize, shares, haccepted⟩)
  · rintro hconfirmed ⟨term, clusterSize, shares, haccepted⟩
    exact (authenticPayload_iff haccepted.term_eq haccepted.complete.shares_eq).2
      (hconfirmed term clusterSize shares haccepted)

/-! ## A forged payload -/

def openNode : Node where
  auditor :=
    { store := { ledger := some (.json (.arr [])), checkpoint := none, storeInitialized := true }
      frozen := false
      marker := none }
  bridge := ⟨true, false⟩
  cluster := sampleCluster
  raft := { currentTerm := .ofInt 0, log := [], commitIndex := 0, failClosed := true }
  recovery := ⟨none, []⟩

theorem openNode_reachable : openNode.raft.Reachable := ⟨openNode.raft, [], rfl⟩

/-- One share of a node nobody registered, without hashes. -/
def forgedShare : JsValue :=
  .obj [("nodeId", "node_x"), ("nodePcr0Hash", ""), ("consensusTerm", .num (.ofInt 1)),
    ("index", .num (.ofInt 1)), ("approvalHash", ""), ("nodeSignature", "")]

/-- The request declares a cluster of one node. -/
def forgedBody : JsValue :=
  .obj [("term", .num (.ofInt 1)),
    ("entry", .obj [("transactionId", "tx_1"), ("escrowRecordLeafHash", "PENDING"),
      ("signature", "sig"), ("status", "LOCKED"), ("validAfterMs", .num (.ofInt 0)),
      ("validUntilMs", .num (.ofInt 1)), ("timestamp", "2026-01-01T00:00:00.000Z")]),
    ("bft", .obj [("clusterSize", .num (.ofInt 1)),
      ("payload", .obj [("clusterSize", .num (.ofInt 1)), ("f", .num (.ofInt 0)),
        ("threshold", .num (.ofInt 1)), ("uniqueNodeIds", .arr ["node_x"]),
        ("shares", .arr [forgedShare])])])]

theorem forgedBody_accepted :
    AcceptedRequest forgedBody openNode (.ofInt 1) (.ofInt 1) [forgedShare] where
  term_eq := rfl
  unfrozen := rfl
  ready := rfl
  current := by decide +kernel
  logSpace := by decide +kernel
  storable := ⟨rfl, [], _, _, rfl, rfl, rfl⟩
  clusterSize_eq := rfl
  clusterSize_ne := by decide +kernel
  payload := rfl
  complete := by
    refine ⟨by decide +kernel, by decide +kernel, by decide +kernel, by decide +kernel, rfl,
      by simp, by decide +kernel, ?_, by decide +kernel⟩
    intro s hs
    rw [List.mem_singleton.1 hs]
    exact ⟨⟨"node_x", rfl⟩, by decide +kernel, by decide +kernel⟩

/-- SHA-256 on the texts hashed for the request. -/
def appendSha256 : Sha256 := fun text =>
  if text = "ENCLAVE_BFT_APPROVAL_V1|tx_1|PENDING|1|1|node_x" then
    ⟨"dd4dae7575b4e084eb4ec819c1cca71651bd0825633c9e573b115f3511e610fa", by decide⟩
  else if text = "ENCLAVE_NODE_SIGNATURE_V1|tx_1|PENDING|1|inrepo-node-secret" then
    ⟨"c09646fd91eb9c90c74002f7ecdc55e0a5bc2cbf6558e4deaa2581983ebbf60b", by decide⟩
  else ⟨"5e1df64332351c0f2222d5dc9412f0a94425dc68363fd96ac05a2500b650825b", by decide⟩

def appendPlatform : Platform where
  sha256 := appendSha256
  rsa _ _ _ := some false
  dateParse _ := .nan
  recoveryEnv := ⟨none, none⟩
  bftQuorumThreshold := 3
  errorText _ := "Unexpected end of JSON input"

def appendClock : RequestClock where
  nowMs _ := 1767225600000
  timestamp := sampleTime
  updatedAt := sampleTime

theorem append_entry_authentic_iff_forged :
    (PersistsEntry appendPlatform appendClock forgedBody openNode →
        AuthenticPayload appendPlatform forgedBody openNode "inrepo-node-secret") ↔
      ∀ term clusterSize shares, AcceptedRequest forgedBody openNode term clusterSize shares →
        2 * (quorumThreshold openNode.cluster.getClusterSize).f + 1 ≤
          (confirmedNodeIds appendPlatform forgedBody openNode "inrepo-node-secret" term
            shares).length :=
  append_entry_authentic_iff appendPlatform appendClock forgedBody openNode "inrepo-node-secret"
    ⟨openNode.raft, [], rfl⟩

/-- Whatever the platform and the secret, a node of a cluster of four persists the entry of a
request with one share that carries no hash. -/
theorem forged_payload_persists :
    openNode.cluster.getClusterSize = 4 ∧
      ∀ (platform : Platform) (clock : RequestClock) (nodeSecret : String),
        PersistsEntry platform clock forgedBody openNode ∧
          ¬ AuthenticPayload platform forgedBody openNode nodeSecret := by
  refine ⟨rfl, fun platform clock nodeSecret => ⟨?_, ?_⟩⟩
  · exact (persistsEntry_iff openNode_reachable.wellFormed).2 ⟨_, _, _, forgedBody_accepted⟩
  · rintro ⟨term, shares, -, hshares, nodeIds, -, hcount, hgenuine⟩
    cases hshares
    cases nodeIds with
    | nil => exact absurd hcount (by decide)
    | cons nodeId rest =>
        obtain ⟨share, hshare, -, _, _, _, built, -, -, -, -, hbuilt, happroval, -⟩ :=
          hgenuine nodeId List.mem_cons_self
        obtain ⟨_, _, -, -, -, -, hhash, -⟩ := verifyProposalAndBuildShare_ok hbuilt
        rw [List.mem_singleton.1 hshare, hhash] at happroval
        -- no digest is the empty text
        exact (platform.sha256 _).text_ne_empty (JsValue.str.inj happroval).symm

end UniverEscrow.Router
