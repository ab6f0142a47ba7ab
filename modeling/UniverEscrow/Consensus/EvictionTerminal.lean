import UniverEscrow.Consensus.ClusterMembershipManager
import UniverEscrow.Lib.Run

/-!
# Evicted nodes

An evicted node keeps its failure count, and a failure recorded at the limit makes it a suspected
node again, which the next heartbeat takes back into the cluster.
-/

namespace UniverEscrow.Consensus

open UniverEscrow.Js UniverEscrow.Lib

namespace MembershipManager

/-- An evicted node, which nothing counts. -/
structure Evicted (nodeId : NodeId) (manager : MembershipManager) : Prop where
  status : manager.statusOf nodeId = some .EVICTED
  uncounted : nodeId ∉ manager.countedNodes
  inactive : manager.isNodeActive nodeId = false

/-- The operation neither makes the node the local one nor records a failure of it at the limit. -/
def KeepsEvicted (nodeId : NodeId) (manager : MembershipManager) : Operation → Prop
  | .initializeLocalNode nodeId' _ _ => nodeId' ≠ nodeId
  | .recordFailure nodeId' => nodeId' = nodeId →
      ∀ node, manager.nodes.get? nodeId = some node → manager.reachesLimit node = false
  | _ => True

variable {manager : MembershipManager} {nodeId : NodeId}

theorem evicted_iff : Evicted nodeId manager ↔ manager.statusOf nodeId = some .EVICTED := by
  constructor
  · exact Evicted.status
  · intro h
    refine ⟨h, ?_, ?_⟩
    · rw [mem_countedNodes, h]
      simp
    · rw [isNodeActive, h]
      rfl

theorem evicted_initializeLocalNode {nodeId' : NodeId} {joinedAt lastHeartbeat : JsNumber}
    (h : manager.statusOf nodeId = some .EVICTED) :
    (manager.initializeLocalNode nodeId' joinedAt lastHeartbeat).statusOf nodeId = some .EVICTED ↔
      nodeId' ≠ nodeId := by
  rw [statusOf_initializeLocalNode]
  split_ifs with heq
  · simp [heq]
  · exact iff_of_true h fun h' => heq h'.symm

theorem evicted_registerNode {nodeId' : NodeId} {attestationValid : Option Bool}
    {joinedAt lastHeartbeat : JsNumber} (h : manager.statusOf nodeId = some .EVICTED) :
    (manager.registerNode nodeId' attestationValid joinedAt lastHeartbeat).statusOf nodeId =
      some .EVICTED := by
  rw [statusOf_registerNode, h]
  exact ite_self _

/-- A change of one node keeps the evicted node evicted exactly when it does so for its entry. -/
theorem evicted_changeNode {nodeId' : NodeId} {change : ClusterMember → ClusterMember}
    (h : manager.statusOf nodeId = some .EVICTED) :
    (manager.changeNode nodeId' change).statusOf nodeId = some .EVICTED ↔
      (nodeId' = nodeId → ∀ node, manager.nodes.get? nodeId = some node →
        (change node).status = .EVICTED) := by
  rw [statusOf_changeNode]
  split_ifs with heq
  · subst heq
    obtain ⟨node, hnode, -⟩ := Option.map_eq_some_iff.1 h
    simp [hnode]
  · exact iff_of_true h fun h' => absurd h'.symm heq

theorem status_of_evicted {node : ClusterMember} (h : manager.statusOf nodeId = some .EVICTED)
    (hnode : manager.nodes.get? nodeId = some node) : node.status = .EVICTED := by
  rw [statusOf, hnode] at h
  exact Option.some.inj h

theorem evicted_updateHeartbeat {nodeId' : NodeId} {now : JsNumber}
    (h : manager.statusOf nodeId = some .EVICTED) :
    (manager.updateHeartbeat nodeId' now).statusOf nodeId = some .EVICTED := by
  rw [statusOf_updateHeartbeat nodeId' now h]
  exact if_neg fun h' => nomatch h'.2

theorem evicted_recordFailure {nodeId' : NodeId} (h : manager.statusOf nodeId = some .EVICTED) :
    (manager.recordFailure nodeId').statusOf nodeId = some .EVICTED ↔
      KeepsEvicted nodeId manager (.recordFailure nodeId') := by
  rw [recordFailure, evicted_changeNode h]
  have hiff : ∀ node, manager.nodes.get? nodeId = some node →
      ((if manager.reachesLimit node then NodeStatus.SUSPECTED else node.status) = .EVICTED ↔
        manager.reachesLimit node = false) := by
    intro node hnode
    rw [status_of_evicted h hnode]
    cases manager.reachesLimit node <;> simp
  constructor
  · intro hkeep heq node hnode
    exact (hiff node hnode).1 (hkeep heq node hnode)
  · intro hkeep heq node hnode
    exact (hiff node hnode).2 (hkeep heq node hnode)

theorem evicted_evictNode {nodeId' : NodeId} (h : manager.statusOf nodeId = some .EVICTED) :
    (manager.evictNode nodeId').statusOf nodeId = some .EVICTED := by
  exact (statusOf_evictNode_cases nodeId' h).elim id id

theorem evicted_voteEviction {proposalId : String} {approve : Bool}
    (h : manager.statusOf nodeId = some .EVICTED) :
    (manager.step (.voteEviction proposalId approve)).statusOf nodeId = some .EVICTED := by
  cases hproposal : manager.evictionProposals.get? proposalId with
  | none => rwa [step_voteEviction_of_none hproposal]
  | some proposal =>
      cases hpasses : manager.passes proposal approve with
      | false => rwa [step_voteEviction_of_not_passes hproposal hpasses, statusOf_setProposal]
      | true =>
          rw [step_voteEviction_of_passes hproposal hpasses]
          exact evicted_evictNode h

theorem evicted_step_iff {operation : Operation} (h : manager.statusOf nodeId = some .EVICTED) :
    (manager.step operation).statusOf nodeId = some .EVICTED ↔
      KeepsEvicted nodeId manager operation := by
  cases operation with
  | initializeLocalNode nodeId' joinedAt lastHeartbeat => exact evicted_initializeLocalNode h
  | registerNode nodeId' attestationValid joinedAt lastHeartbeat =>
      exact iff_of_true (evicted_registerNode h) trivial
  | updateHeartbeat nodeId' now => exact iff_of_true (evicted_updateHeartbeat h) trivial
  | recordFailure nodeId' => exact evicted_recordFailure h
  | proposeNodeEviction nodeId' reason now timestamp =>
      refine iff_of_true ?_ trivial
      rcases step_proposeNodeEviction_cases manager nodeId' reason now timestamp with
        hstep | ⟨localNodeId, hstep⟩
      · rw [hstep, h]
      · rw [hstep, statusOf_setProposal, h]
  | voteEviction proposalId approve => exact iff_of_true (evicted_voteEviction h) trivial
  | finalizeEviction proposalId =>
      refine iff_of_true ?_ trivial
      rcases step_finalizeEviction_cases manager proposalId with hstep | ⟨proposal, -, -, hstep⟩
      · rw [hstep, h]
      · rw [hstep]
        exact evicted_evictNode h
  | setLeader nodeId' => exact iff_of_true h trivial

/-- Once evicted, a node stays out all along a run exactly when the run neither makes it the local
node nor records a failure of it that reaches the limit. -/
theorem evicted_throughout_iff (manager : MembershipManager) (nodeId : NodeId)
    (operations : List Operation) (h : manager.statusOf nodeId = some .EVICTED) :
    Run.Throughout step (Evicted nodeId) manager operations ↔
      Run.EachStep step (KeepsEvicted nodeId) manager operations := by
  have hstep : ∀ (s : MembershipManager) (operation : Operation), True → Evicted nodeId s →
      (Evicted nodeId (s.step operation) ↔ KeepsEvicted nodeId s operation) := by
    intro s operation _ hs
    rw [evicted_iff]
    exact evicted_step_iff hs.status
  exact Run.throughout_iff_eachStep (fun _ => True) (fun _ _ _ => trivial) hstep trivial
    (evicted_iff.2 h)

/-! ## A sample -/

def defaultManager : MembershipManager :=
  createClusterMembershipManager ⟨none, none, none, none⟩

/-- A node fails three times and its eviction is proposed by the only node left. -/
def failingPeer : List Operation :=
  [.initializeLocalNode "local" (.ofInt 0) (.ofInt 0),
    .registerNode "peer" none (.ofInt 0) (.ofInt 0),
    .recordFailure "peer", .recordFailure "peer", .recordFailure "peer",
    .proposeNodeEviction "peer" none (.ofInt 0) (.ofInt 0)]

def votedOut : MembershipManager :=
  Run.run step defaultManager (failingPeer ++ [.voteEviction "evict-peer-0" true])

theorem statusOf_votedOut : votedOut.statusOf "peer" = some .EVICTED := by
  decide +kernel

theorem evicted_throughout_sample :
    Run.Throughout step (Evicted "peer") votedOut
        [.updateHeartbeat "peer" (.ofInt 1), .recordFailure "peer"] ↔
      Run.EachStep step (KeepsEvicted "peer") votedOut
        [.updateHeartbeat "peer" (.ofInt 1), .recordFailure "peer"] :=
  evicted_throughout_iff votedOut "peer" _ statusOf_votedOut

/-- One more failure and a heartbeat bring the evicted node back. -/
theorem evicted_node_returns :
    votedOut.statusOf "peer" = some .EVICTED ∧
      (Run.run step votedOut
        [.recordFailure "peer", .updateHeartbeat "peer" (.ofInt 1)]).isNodeActive "peer" = true ∧
      ¬ Run.Throughout step (Evicted "peer") votedOut
        [.recordFailure "peer", .updateHeartbeat "peer" (.ofInt 1)] := by
  have hactive : (Run.run step votedOut
      [.recordFailure "peer", .updateHeartbeat "peer" (.ofInt 1)]).isNodeActive "peer" = true := by
    decide +kernel
  refine ⟨statusOf_votedOut, hactive, ?_⟩
  intro h
  rw [h.run.inactive] at hactive
  cases hactive

end MembershipManager

end UniverEscrow.Consensus
