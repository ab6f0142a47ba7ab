import UniverEscrow.Consensus.QuorumThreshold

/-!
# Cluster membership

The lifecycle of the cluster's nodes: who is registered, whose heartbeats are missing and who has
been voted out.  Votes are cast under the local node's id.
-/

namespace UniverEscrow.Consensus

open UniverEscrow.Js

structure ClusterMember extends ClusterNode where
  joinedAt : JsNumber
  lastHeartbeat : JsNumber
  failureCount : JsNumber
  attestationValid : Bool

/-- A vote carries `none` where no local node is set. -/
structure EvictionProposal where
  proposalId : String
  targetNodeId : NodeId
  proposerNodeId : NodeId
  reason : String
  timestamp : JsNumber
  approved : Bool
  approvalVotes : List (Option NodeId)
  rejectionVotes : List (Option NodeId)
deriving DecidableEq

/-- What the constructor is given; a missing setting takes its default. -/
structure MembershipConfig where
  maxFailureCount : Option JsNumber
  heartbeatTimeoutMs : Option JsNumber
  evictionApprovalThreshold : Option JsNumber
  enableAutoEviction : Option Bool

structure RequiredMembershipConfig where
  maxFailureCount : JsNumber
  heartbeatTimeoutMs : JsNumber
  evictionApprovalThreshold : JsNumber
  enableAutoEviction : Bool

/-- The whole manager; `ClusterMembershipManager` is what the threshold sees of it. -/
structure MembershipManager where
  config : RequiredMembershipConfig
  nodes : OrderedMap NodeId ClusterMember
  evictionProposals : OrderedMap String EvictionProposal
  currentTerm : ℕ
  leaderNodeId : Option NodeId
  localNodeId : Option NodeId

def MembershipConfig.required (config : MembershipConfig) : RequiredMembershipConfig where
  maxFailureCount := config.maxFailureCount.getD (.ofInt 3)
  heartbeatTimeoutMs := config.heartbeatTimeoutMs.getD (.ofInt 30000)
  evictionApprovalThreshold := config.evictionApprovalThreshold.getD (.ofRat (67 / 100))
  enableAutoEviction := config.enableAutoEviction.getD true

def createClusterMembershipManager (config : MembershipConfig) : MembershipManager where
  config := config.required
  nodes := .empty
  evictionProposals := .empty
  currentTerm := 0
  leaderNodeId := none
  localNodeId := none

def EvictionProposal.addVote (proposal : EvictionProposal) (approve : Bool)
    (voter : Option NodeId) : EvictionProposal :=
  if approve then { proposal with approvalVotes := proposal.approvalVotes ++ [voter] }
  else { proposal with rejectionVotes := proposal.rejectionVotes ++ [voter] }

/-- `approvalVotes.length / totalVoters >= evictionApprovalThreshold`. -/
def meetsThreshold (evictionApprovalThreshold : JsNumber) (votes totalVoters : ℕ) : Bool :=
  evictionApprovalThreshold.le ((JsNumber.ofInt votes).div (.ofInt totalVoters))

namespace MembershipManager

def view (manager : MembershipManager) : ClusterMembershipManager where
  nodes := manager.nodes.mapValues ClusterMember.toClusterNode

def getActiveNodeCount (manager : MembershipManager) : ℕ := manager.view.getActiveNodeCount

def calculateThreshold (manager : MembershipManager) : ThresholdReport :=
  manager.view.calculateThreshold

def statusOf (manager : MembershipManager) (nodeId : NodeId) : Option NodeStatus :=
  (manager.nodes.get? nodeId).map fun node => node.status

def isNodeActive (manager : MembershipManager) (nodeId : NodeId) : Bool :=
  manager.statusOf nodeId = some .ACTIVE

/-- `joinedAt` and `lastHeartbeat` are two readings of the clock. -/
def initializeLocalNode (manager : MembershipManager) (nodeId : NodeId)
    (joinedAt lastHeartbeat : JsNumber) : MembershipManager :=
  { manager with
    localNodeId := some nodeId
    nodes := manager.nodes.set nodeId {
      nodeId := nodeId
      status := .ACTIVE
      joinedAt := joinedAt
      lastHeartbeat := lastHeartbeat
      failureCount := .ofInt 0
      attestationValid := true } }

/-- A call without `attestationValid` takes it to be true. -/
def registerNode (manager : MembershipManager) (nodeId : NodeId) (attestationValid : Option Bool)
    (joinedAt lastHeartbeat : JsNumber) : MembershipManager :=
  if (manager.nodes.get? nodeId).isSome then manager
  else { manager with
    nodes := manager.nodes.set nodeId {
      nodeId := nodeId
      status := .JOINING
      joinedAt := joinedAt
      lastHeartbeat := lastHeartbeat
      failureCount := .ofInt 0
      attestationValid := attestationValid.getD true } }

/-- A registered node is changed in place, an unknown one is left alone. -/
def changeNode (manager : MembershipManager) (nodeId : NodeId)
    (change : ClusterMember → ClusterMember) : MembershipManager :=
  match manager.nodes.get? nodeId with
  | some node => { manager with nodes := manager.nodes.set nodeId (change node) }
  | none => manager

def updateHeartbeat (manager : MembershipManager) (nodeId : NodeId) (now : JsNumber) :
    MembershipManager :=
  manager.changeNode nodeId fun node => { node with
    lastHeartbeat := now
    failureCount := .ofInt 0
    status := if node.status = .SUSPECTED then .ACTIVE else node.status }

/-- One more failure reaches the limit. -/
def reachesLimit (manager : MembershipManager) (node : ClusterMember) : Bool :=
  manager.config.maxFailureCount.le (node.failureCount.add (.ofInt 1))

def recordFailure (manager : MembershipManager) (nodeId : NodeId) : MembershipManager :=
  manager.changeNode nodeId fun node => { node with
    failureCount := node.failureCount.add (.ofInt 1)
    status := if manager.reachesLimit node then .SUSPECTED else node.status }

def setProposal (manager : MembershipManager) (proposalId : String)
    (proposal : EvictionProposal) : MembershipManager :=
  { manager with evictionProposals := manager.evictionProposals.set proposalId proposal }

/-- `now` and `timestamp` are two readings of the clock. -/
def newProposal (localNodeId nodeId : NodeId) (reason : Option String)
    (now timestamp : JsNumber) : EvictionProposal where
  proposalId := "evict-" ++ nodeId ++ "-" ++ now.toText
  targetNodeId := nodeId
  proposerNodeId := localNodeId
  reason := reason.getD "attestation_failure"
  timestamp := timestamp
  approved := false
  approvalVotes := []
  rejectionVotes := []

/-- An error is the text thrown. -/
def proposeNodeEviction (manager : MembershipManager) (nodeId : NodeId) (reason : Option String)
    (now timestamp : JsNumber) : Except String (EvictionProposal × MembershipManager) :=
  match manager.localNodeId with
  | none => .error "Local node not initialized"
  | some localNodeId =>
      match manager.nodes.get? nodeId with
      | none => .error ("Node " ++ nodeId ++ " not found")
      | some target =>
          if target.status = .EVICTED then .error ("Node " ++ nodeId ++ " already evicted")
          else
            let proposal := newProposal localNodeId nodeId reason now timestamp
            .ok (proposal, manager.setProposal proposal.proposalId proposal)

def evictNode (manager : MembershipManager) (nodeId : NodeId) : MembershipManager :=
  manager.changeNode nodeId fun node => { node with status := .EVICTED }

def voteEviction (manager : MembershipManager) (proposalId : String) (approve : Bool) :
    Bool × MembershipManager :=
  match manager.evictionProposals.get? proposalId with
  | none => (false, manager)
  | some proposal =>
      let proposal := proposal.addVote approve manager.localNodeId
      if meetsThreshold manager.config.evictionApprovalThreshold proposal.approvalVotes.length
          manager.getActiveNodeCount then
        (true, (manager.setProposal proposalId { proposal with approved := true }).evictNode
          proposal.targetNodeId)
      else (proposal.approved, manager.setProposal proposalId proposal)

def finalizeEviction (manager : MembershipManager) (proposalId : String) :
    Bool × MembershipManager :=
  match manager.evictionProposals.get? proposalId with
  | some proposal =>
      if proposal.approved then (true, manager.evictNode proposal.targetNodeId)
      else (false, manager)
  | none => (false, manager)

def setLeader (manager : MembershipManager) (nodeId : NodeId) : MembershipManager :=
  { manager with leaderNodeId := some nodeId, currentTerm := manager.currentTerm + 1 }

/-! ## Operations -/

inductive Operation where
  | initializeLocalNode (nodeId : NodeId) (joinedAt lastHeartbeat : JsNumber)
  | registerNode (nodeId : NodeId) (attestationValid : Option Bool)
      (joinedAt lastHeartbeat : JsNumber)
  | updateHeartbeat (nodeId : NodeId) (now : JsNumber)
  | recordFailure (nodeId : NodeId)
  | proposeNodeEviction (nodeId : NodeId) (reason : Option String) (now timestamp : JsNumber)
  | voteEviction (proposalId : String) (approve : Bool)
  | finalizeEviction (proposalId : String)
  | setLeader (nodeId : NodeId)

def step (manager : MembershipManager) : Operation → MembershipManager
  | .initializeLocalNode nodeId joinedAt lastHeartbeat =>
      manager.initializeLocalNode nodeId joinedAt lastHeartbeat
  | .registerNode nodeId attestationValid joinedAt lastHeartbeat =>
      manager.registerNode nodeId attestationValid joinedAt lastHeartbeat
  | .updateHeartbeat nodeId now => manager.updateHeartbeat nodeId now
  | .recordFailure nodeId => manager.recordFailure nodeId
  | .proposeNodeEviction nodeId reason now timestamp =>
      match manager.proposeNodeEviction nodeId reason now timestamp with
      | .ok (_, manager') => manager'
      | .error _ => manager
  | .voteEviction proposalId approve => (manager.voteEviction proposalId approve).2
  | .finalizeEviction proposalId => (manager.finalizeEviction proposalId).2
  | .setLeader nodeId => manager.setLeader nodeId

/-! ## What an operation changes -/

section Changes

variable {manager : MembershipManager} {nodeId : NodeId}

theorem changeNode_of_some {node : ClusterMember} {change : ClusterMember → ClusterMember}
    (h : manager.nodes.get? nodeId = some node) :
    manager.changeNode nodeId change =
      { manager with nodes := manager.nodes.set nodeId (change node) } := by
  rw [changeNode, h]

theorem changeNode_of_none {change : ClusterMember → ClusterMember}
    (h : manager.nodes.get? nodeId = none) : manager.changeNode nodeId change = manager := by
  rw [changeNode, h]

theorem get?_changeNode (nodeId nodeId' : NodeId) (change : ClusterMember → ClusterMember) :
    (manager.changeNode nodeId change).nodes.get? nodeId' =
      if nodeId' = nodeId then (manager.nodes.get? nodeId).map change
      else manager.nodes.get? nodeId' := by
  cases hnode : manager.nodes.get? nodeId with
  | none =>
      rw [changeNode_of_none hnode]
      split_ifs with h
      · rw [h, hnode]
        rfl
      · rfl
  | some node => rw [changeNode_of_some hnode, OrderedMap.get?_set, Option.map_some]

theorem statusOf_changeNode (change : ClusterMember → ClusterMember) (nodeId' : NodeId) :
    (manager.changeNode nodeId change).statusOf nodeId' =
      if nodeId' = nodeId then (manager.nodes.get? nodeId).map fun node => (change node).status
      else manager.statusOf nodeId' := by
  rw [statusOf, get?_changeNode]
  split_ifs with h
  · exact Option.map_map ..
  · rfl

@[simp] theorem evictionProposals_changeNode (change : ClusterMember → ClusterMember) :
    (manager.changeNode nodeId change).evictionProposals = manager.evictionProposals := by
  unfold changeNode
  cases manager.nodes.get? nodeId <;> rfl

theorem config_changeNode (nodeId : NodeId) (change : ClusterMember → ClusterMember) :
    (manager.changeNode nodeId change).config = manager.config := by
  unfold changeNode
  cases manager.nodes.get? nodeId <;> rfl

@[simp] theorem statusOf_setProposal (proposalId : String) (proposal : EvictionProposal) :
    (manager.setProposal proposalId proposal).statusOf nodeId = manager.statusOf nodeId := rfl

theorem statusOf_evictNode (nodeId' : NodeId) :
    (manager.evictNode nodeId).statusOf nodeId' =
      if nodeId' = nodeId then (manager.statusOf nodeId).map fun _ => .EVICTED
      else manager.statusOf nodeId' := by
  have hmap : (manager.statusOf nodeId).map (fun _ => NodeStatus.EVICTED) =
      (manager.nodes.get? nodeId).map fun _ => NodeStatus.EVICTED := by
    rw [statusOf, Option.map_map]
    rfl
  rw [evictNode, statusOf_changeNode, hmap]

variable {status : NodeStatus}

theorem get?_of_statusOf (h : manager.statusOf nodeId = some status) :
    ∃ node, manager.nodes.get? nodeId = some node ∧ node.status = status :=
  Option.map_eq_some_iff.1 h

theorem statusOf_initializeLocalNode (nodeId' : NodeId) (joinedAt lastHeartbeat : JsNumber) :
    (manager.initializeLocalNode nodeId' joinedAt lastHeartbeat).statusOf nodeId =
      if nodeId = nodeId' then some .ACTIVE else manager.statusOf nodeId := by
  rw [initializeLocalNode, statusOf, OrderedMap.get?_set]
  split_ifs <;> rfl

theorem statusOf_registerNode (nodeId' : NodeId) (attestationValid : Option Bool)
    (joinedAt lastHeartbeat : JsNumber) :
    (manager.registerNode nodeId' attestationValid joinedAt lastHeartbeat).statusOf nodeId =
      if nodeId = nodeId' then some ((manager.statusOf nodeId).getD .JOINING)
      else manager.statusOf nodeId := by
  rw [registerNode]
  cases hnode : manager.nodes.get? nodeId' with
  | some node =>
      rw [if_pos Option.isSome_some]
      split_ifs with heq
      · rw [heq, statusOf, hnode]
        rfl
      · rfl
  | none =>
      rw [if_neg (by simp), statusOf, OrderedMap.get?_set]
      split_ifs with heq
      · rw [heq, statusOf, hnode]
        rfl
      · rfl

theorem statusOf_updateHeartbeat (nodeId' : NodeId) (now : JsNumber)
    (h : manager.statusOf nodeId = some status) :
    (manager.updateHeartbeat nodeId' now).statusOf nodeId =
      if nodeId = nodeId' ∧ status = .SUSPECTED then some .ACTIVE else some status := by
  obtain ⟨node, hnode, rfl⟩ := get?_of_statusOf h
  rw [updateHeartbeat, statusOf_changeNode, h]
  by_cases heq : nodeId = nodeId'
  · subst heq
    rw [if_pos rfl, hnode, Option.map_some]
    split_ifs <;> simp_all
  · rw [if_neg heq, if_neg fun h' => heq h'.1]

theorem statusOf_recordFailure_cases (nodeId' : NodeId)
    (h : manager.statusOf nodeId = some status) :
    (manager.recordFailure nodeId').statusOf nodeId = some status ∨
      (manager.recordFailure nodeId').statusOf nodeId = some .SUSPECTED := by
  obtain ⟨node, hnode, rfl⟩ := get?_of_statusOf h
  rw [recordFailure, statusOf_changeNode]
  by_cases heq : nodeId = nodeId'
  · subst heq
    rw [if_pos rfl, hnode, Option.map_some]
    split_ifs
    · exact .inr rfl
    · exact .inl rfl
  · rw [if_neg heq]
    exact .inl h

theorem statusOf_evictNode_cases (nodeId' : NodeId) (h : manager.statusOf nodeId = some status) :
    (manager.evictNode nodeId').statusOf nodeId = some status ∨
      (manager.evictNode nodeId').statusOf nodeId = some .EVICTED := by
  rw [statusOf_evictNode]
  split_ifs with heq
  · rw [← heq, h]
    exact .inr rfl
  · exact .inl h

/-- A proposal is filed open and without votes, or nothing happens. -/
theorem step_proposeNodeEviction_cases (manager : MembershipManager) (nodeId : NodeId)
    (reason : Option String) (now timestamp : JsNumber) :
    manager.step (.proposeNodeEviction nodeId reason now timestamp) = manager ∨
      ∃ localNodeId, manager.step (.proposeNodeEviction nodeId reason now timestamp) =
        manager.setProposal (newProposal localNodeId nodeId reason now timestamp).proposalId
          (newProposal localNodeId nodeId reason now timestamp) := by
  simp only [step, proposeNodeEviction]
  cases manager.localNodeId with
  | none => exact .inl rfl
  | some localNodeId =>
      cases manager.nodes.get? nodeId with
      | none => exact .inl rfl
      | some target =>
          by_cases hevicted : target.status = .EVICTED
          · exact .inl (by simp only [if_pos hevicted])
          · exact .inr ⟨localNodeId, by simp only [if_neg hevicted]⟩

/-- The proposal once the local node's vote is added. -/
def voted (manager : MembershipManager) (proposal : EvictionProposal) (approve : Bool) :
    EvictionProposal :=
  proposal.addVote approve manager.localNodeId

/-- The vote brings the approvals to the threshold. -/
def passes (manager : MembershipManager) (proposal : EvictionProposal) (approve : Bool) : Bool :=
  meetsThreshold manager.config.evictionApprovalThreshold
    (manager.voted proposal approve).approvalVotes.length manager.getActiveNodeCount

variable {proposalId : String} {proposal : EvictionProposal} {approve : Bool}

theorem step_voteEviction_of_none (h : manager.evictionProposals.get? proposalId = none) :
    manager.step (.voteEviction proposalId approve) = manager := by
  rw [step, voteEviction, h]

theorem step_voteEviction_of_passes (h : manager.evictionProposals.get? proposalId = some proposal)
    (hpasses : manager.passes proposal approve = true) :
    manager.step (.voteEviction proposalId approve) =
      (manager.setProposal proposalId
        { manager.voted proposal approve with approved := true }).evictNode
          (manager.voted proposal approve).targetNodeId := by
  rw [step, voteEviction, h]
  exact congrArg Prod.snd (if_pos hpasses)

theorem step_voteEviction_of_not_passes
    (h : manager.evictionProposals.get? proposalId = some proposal)
    (hpasses : manager.passes proposal approve = false) :
    manager.step (.voteEviction proposalId approve) =
      manager.setProposal proposalId (manager.voted proposal approve) := by
  rw [step, voteEviction, h]
  exact congrArg Prod.snd (if_neg (Bool.eq_false_iff.1 hpasses))

theorem step_finalizeEviction_cases (manager : MembershipManager) (proposalId : String) :
    manager.step (.finalizeEviction proposalId) = manager ∨
      ∃ proposal, manager.evictionProposals.get? proposalId = some proposal ∧
        proposal.approved = true ∧
        manager.step (.finalizeEviction proposalId) = manager.evictNode proposal.targetNodeId := by
  simp only [step, finalizeEviction]
  cases manager.evictionProposals.get? proposalId with
  | none => exact .inl rfl
  | some proposal =>
      cases happroved : proposal.approved with
      | false => exact .inl (by simp [happroved])
      | true => exact .inr ⟨proposal, rfl, happroved, by simp [happroved]⟩

end Changes

/-! ## Who is counted -/

/-- The nodes `getActiveNodeCount` counts. -/
def countedNodes (manager : MembershipManager) : List NodeId :=
  (manager.nodes.entries.filter fun e => e.2.status = .ACTIVE ∨ e.2.status = .JOINING).map Prod.fst

theorem getActiveNodeCount_eq (manager : MembershipManager) :
    manager.getActiveNodeCount = manager.countedNodes.length := by
  rw [getActiveNodeCount, ClusterMembershipManager.getActiveNodeCount, view, OrderedMap.values,
    OrderedMap.mapValues, countedNodes, List.map_map, List.filter_map, List.length_map,
    List.length_map]
  rfl

theorem calculateThreshold_clusterSize (manager : MembershipManager) :
    manager.calculateThreshold.clusterSize = manager.countedNodes.length :=
  getActiveNodeCount_eq manager

theorem mem_countedNodes {manager : MembershipManager} {nodeId : NodeId} :
    nodeId ∈ manager.countedNodes ↔
      manager.statusOf nodeId = some .ACTIVE ∨ manager.statusOf nodeId = some .JOINING := by
  simp only [countedNodes, List.mem_map, List.mem_filter, decide_eq_true_eq, statusOf,
    Option.map_eq_some_iff]
  constructor
  · rintro ⟨⟨k, node⟩, ⟨hmem, hactive | hjoining⟩, rfl⟩
    · exact .inl ⟨node, OrderedMap.mem_entries_iff.1 hmem, hactive⟩
    · exact .inr ⟨node, OrderedMap.mem_entries_iff.1 hmem, hjoining⟩
  · rintro (⟨node, hnode, hactive⟩ | ⟨node, hnode, hjoining⟩)
    · exact ⟨(nodeId, node), ⟨OrderedMap.mem_entries_iff.2 hnode, .inl hactive⟩, rfl⟩
    · exact ⟨(nodeId, node), ⟨OrderedMap.mem_entries_iff.2 hnode, .inr hjoining⟩, rfl⟩

theorem countedNodes_nodup (manager : MembershipManager) : manager.countedNodes.Nodup :=
  manager.nodes.nodupKeys.sublist (List.filter_sublist.map Prod.fst)

end MembershipManager

end UniverEscrow.Consensus
