import UniverEscrow.Consensus.EvictionTerminal

/-!
# Nodes without a valid attestation

`attestationValid` is kept with the node and never read.  A node registered without a valid
attestation is counted at once, and becomes active with the heartbeat after it was suspected.
-/

namespace UniverEscrow.Consensus

open UniverEscrow.Js UniverEscrow.Lib

namespace MembershipManager

/-- The operation makes the node the local one, or is its heartbeat while it is suspected. -/
def Activates (nodeId : NodeId) (manager : MembershipManager) : Operation → Prop
  | .initializeLocalNode nodeId' _ _ => nodeId' = nodeId
  | .updateHeartbeat nodeId' _ => nodeId' = nodeId ∧ manager.statusOf nodeId = some .SUSPECTED
  | _ => False

/-- The node is neither active nor part of the cluster size behind the threshold. -/
structure StaysOut (nodeId : NodeId) (manager : MembershipManager) : Prop where
  inactive : manager.statusOf nodeId ≠ some .ACTIVE
  uncounted : nodeId ∉ manager.countedNodes

variable {manager : MembershipManager} {nodeId : NodeId} {status : NodeStatus}

/-- The ways an operation can change the status of a known node. -/
theorem statusOf_step_cases (h : manager.statusOf nodeId = some status) (operation : Operation) :
    Activates nodeId manager operation ∧
        (manager.step operation).statusOf nodeId = some .ACTIVE ∨
      ¬ Activates nodeId manager operation ∧
        ((manager.step operation).statusOf nodeId = some status ∨
          (manager.step operation).statusOf nodeId = some .SUSPECTED ∨
          (manager.step operation).statusOf nodeId = some .EVICTED) := by
  cases operation with
  | initializeLocalNode nodeId' joinedAt lastHeartbeat =>
      rw [step, statusOf_initializeLocalNode]
      by_cases heq : nodeId = nodeId'
      · exact .inl ⟨heq.symm, if_pos heq⟩
      · exact .inr ⟨fun h' => heq h'.symm, .inl ((if_neg heq).trans h)⟩
  | registerNode nodeId' attestationValid joinedAt lastHeartbeat =>
      refine .inr ⟨id, .inl ?_⟩
      rw [step, statusOf_registerNode, h]
      exact ite_self _
  | updateHeartbeat nodeId' now =>
      rw [step, statusOf_updateHeartbeat nodeId' now h]
      by_cases hboth : nodeId = nodeId' ∧ status = .SUSPECTED
      · exact .inl ⟨⟨hboth.1.symm, hboth.2 ▸ h⟩, if_pos hboth⟩
      · refine .inr ⟨fun h' => hboth ⟨h'.1.symm, ?_⟩, .inl (if_neg hboth)⟩
        exact Option.some.inj (h.symm.trans h'.2)
  | recordFailure nodeId' =>
      rcases statusOf_recordFailure_cases nodeId' h with hsame | hsuspected
      · exact .inr ⟨id, .inl hsame⟩
      · exact .inr ⟨id, .inr (.inl hsuspected)⟩
  | proposeNodeEviction nodeId' reason now timestamp =>
      refine .inr ⟨id, .inl ?_⟩
      rcases step_proposeNodeEviction_cases manager nodeId' reason now timestamp with
        hstep | ⟨localNodeId, hstep⟩
      · rw [hstep, h]
      · rw [hstep, statusOf_setProposal, h]
  | voteEviction proposalId approve =>
      refine .inr ⟨id, ?_⟩
      cases hproposal : manager.evictionProposals.get? proposalId with
      | none => exact .inl (by rw [step_voteEviction_of_none hproposal, h])
      | some proposal =>
          cases hpasses : manager.passes proposal approve with
          | false =>
              refine .inl ?_
              rw [step_voteEviction_of_not_passes hproposal hpasses, statusOf_setProposal, h]
          | true =>
              rw [step_voteEviction_of_passes hproposal hpasses]
              exact (statusOf_evictNode_cases _
                ((statusOf_setProposal _ _).trans h)).imp_right .inr
  | finalizeEviction proposalId =>
      refine .inr ⟨id, ?_⟩
      rcases step_finalizeEviction_cases manager proposalId with hstep | ⟨proposal, -, -, hstep⟩
      · exact .inl (by rw [hstep, h])
      · rw [hstep]
        exact (statusOf_evictNode_cases _ h).imp_right .inr
  | setLeader nodeId' => exact .inr ⟨id, .inl h⟩

theorem statusOf_step_isSome (h : (manager.statusOf nodeId).isSome) (operation : Operation) :
    ((manager.step operation).statusOf nodeId).isSome := by
  obtain ⟨status, hstatus⟩ := Option.isSome_iff_exists.1 h
  rcases statusOf_step_cases hstatus operation with ⟨-, hnext⟩ | ⟨-, hnext | hnext | hnext⟩
  all_goals rw [hnext]; rfl

theorem step_inactive_iff (hknown : (manager.statusOf nodeId).isSome)
    (hinactive : manager.statusOf nodeId ≠ some .ACTIVE) (operation : Operation) :
    (manager.step operation).statusOf nodeId ≠ some .ACTIVE ↔
      ¬ Activates nodeId manager operation := by
  obtain ⟨status, hstatus⟩ := Option.isSome_iff_exists.1 hknown
  rcases statusOf_step_cases hstatus operation with ⟨hactivates, hnext⟩ | ⟨hnot, hnext⟩
  · exact iff_of_false (fun h => h hnext) (fun h => h hactivates)
  · refine iff_of_true ?_ hnot
    rcases hnext with hnext | hnext | hnext
    · rw [hnext, ← hstatus]
      exact hinactive
    all_goals simp [hnext]

/-- A node registered without a valid attestation is counted from its registration on, so the two
parts of staying out never hold together; it stays inactive all along a run exactly when no
operation makes it the local node or takes its heartbeat while it is suspected. -/
theorem unattested_node_counted (manager : MembershipManager) (nodeId : NodeId)
    (joinedAt lastHeartbeat : JsNumber) (operations : List Operation)
    (hnew : manager.nodes.get? nodeId = none) :
    let registered := manager.registerNode nodeId (some false) joinedAt lastHeartbeat
    ¬ Run.Throughout step (StaysOut nodeId) registered operations ∧
      (Run.Throughout step (fun s => s.statusOf nodeId ≠ some .ACTIVE) registered operations ↔
        Run.EachStep step (fun s operation => ¬ Activates nodeId s operation) registered
          operations) := by
  intro registered
  have hjoining : registered.statusOf nodeId = some .JOINING := by
    rw [statusOf_registerNode, if_pos rfl, statusOf, hnew]
    rfl
  constructor
  · intro hout
    exact hout.head.uncounted (mem_countedNodes.2 (.inr hjoining))
  · exact Run.throughout_iff_eachStep (fun s => (s.statusOf nodeId).isSome)
      (fun s operation hknown => statusOf_step_isSome hknown operation)
      (fun s operation hknown hinactive => step_inactive_iff hknown hinactive operation)
      (by rw [hjoining]; rfl) (by simp [hjoining])

/-! ### A sample -/

def attestedLocal : MembershipManager :=
  defaultManager.initializeLocalNode "local" (.ofInt 0) (.ofInt 0)

/-- Three failures and a heartbeat. -/
def flapping : List Operation :=
  [.recordFailure "peer", .recordFailure "peer", .recordFailure "peer",
    .updateHeartbeat "peer" (.ofInt 1)]

theorem unattested_node_counted_sample :
    ¬ Run.Throughout step (StaysOut "peer")
        (attestedLocal.registerNode "peer" (some false) (.ofInt 0) (.ofInt 0)) flapping ∧
      (Run.Throughout step (fun s => s.statusOf "peer" ≠ some .ACTIVE)
          (attestedLocal.registerNode "peer" (some false) (.ofInt 0) (.ofInt 0)) flapping ↔
        Run.EachStep step (fun s operation => ¬ Activates "peer" s operation)
          (attestedLocal.registerNode "peer" (some false) (.ofInt 0) (.ofInt 0)) flapping) :=
  unattested_node_counted attestedLocal "peer" (.ofInt 0) (.ofInt 0) flapping rfl

/-- The unattested node raises the cluster size from one to two and ends up active. -/
theorem unattested_node_active :
    attestedLocal.calculateThreshold.clusterSize = 1 ∧
      (attestedLocal.registerNode "peer" (some false) (.ofInt 0)
        (.ofInt 0)).calculateThreshold.clusterSize = 2 ∧
      (Run.run step (attestedLocal.registerNode "peer" (some false) (.ofInt 0) (.ofInt 0))
        flapping).isNodeActive "peer" = true ∧
      ¬ Run.Throughout step (StaysOut "peer")
        (attestedLocal.registerNode "peer" (some false) (.ofInt 0) (.ofInt 0)) flapping := by
  have hactive : (Run.run step (attestedLocal.registerNode "peer" (some false) (.ofInt 0)
      (.ofInt 0)) flapping).isNodeActive "peer" = true := by
    decide +kernel
  refine ⟨by decide +kernel, by decide +kernel, hactive, ?_⟩
  intro hout
  exact hout.run.inactive (of_decide_eq_true hactive)

end MembershipManager

end UniverEscrow.Consensus
