import UniverEscrow.Consensus.EvictionTerminal
import UniverEscrow.Js.SafeInteger

/-!
# Quorums of partitioned views

Two nodes set up the same cluster and then see heartbeats and failures of their own.  Each takes
its threshold from the members it still trusts, so quorums of the two views need not meet.
-/

namespace UniverEscrow.Consensus

open UniverEscrow.Js UniverEscrow.Lib

/-! ## Views -/

/-- The calls that set a cluster up. -/
inductive Registration where
  | initializeLocalNode (nodeId : NodeId) (joinedAt lastHeartbeat : JsNumber)
  | registerNode (nodeId : NodeId) (attestationValid : Option Bool)
      (joinedAt lastHeartbeat : JsNumber)

def Registration.nodeId : Registration → NodeId
  | .initializeLocalNode nodeId _ _ => nodeId
  | .registerNode nodeId _ _ _ => nodeId

def Registration.operation : Registration → MembershipManager.Operation
  | .initializeLocalNode nodeId joinedAt lastHeartbeat =>
      .initializeLocalNode nodeId joinedAt lastHeartbeat
  | .registerNode nodeId attestationValid joinedAt lastHeartbeat =>
      .registerNode nodeId attestationValid joinedAt lastHeartbeat

/-- What a node learns about another one. -/
inductive Observation where
  | updateHeartbeat (nodeId : NodeId) (now : JsNumber)
  | recordFailure (nodeId : NodeId)

namespace Observation

def operation : Observation → MembershipManager.Operation
  | updateHeartbeat nodeId now => .updateHeartbeat nodeId now
  | recordFailure nodeId => .recordFailure nodeId

/-- The failures of a node since its last heartbeat, one observation later. -/
def count (nodeId : NodeId) (failures : ℕ) : Observation → ℕ
  | updateHeartbeat nodeId' _ => if nodeId = nodeId' then 0 else failures
  | recordFailure nodeId' => if nodeId = nodeId' then failures + 1 else failures

end Observation

def failuresSinceHeartbeat (nodeId : NodeId) (observations : List Observation) : ℕ :=
  observations.foldl (Observation.count nodeId) 0

/-- So many failures in a row make a suspect; the count stops at `2 ^ 53`. -/
def ReachesLimit (maxFailureCount : JsNumber) (failures : ℕ) : Prop :=
  1 ≤ failures ∧ maxFailureCount.le (.ofInt (min failures (2 ^ 53) : ℕ)) = true

instance (maxFailureCount : JsNumber) (failures : ℕ) :
    Decidable (ReachesLimit maxFailureCount failures) :=
  inferInstanceAs (Decidable (_ ∧ _))

structure ClusterView where
  config : MembershipConfig
  registrations : List Registration
  observations : List Observation

namespace ClusterView

def manager (v : ClusterView) : MembershipManager :=
  Run.run MembershipManager.step (createClusterMembershipManager v.config)
    (v.registrations.map Registration.operation ++ v.observations.map Observation.operation)

def registered (v : ClusterView) : Finset NodeId :=
  (v.registrations.map Registration.nodeId).toFinset

/-- The nodes the view counts as members. -/
def counted (v : ClusterView) : Finset NodeId := v.manager.countedNodes.toFinset

def Suspects (v : ClusterView) (nodeId : NodeId) : Prop :=
  ReachesLimit v.config.required.maxFailureCount (failuresSinceHeartbeat nodeId v.observations)

instance (v : ClusterView) (nodeId : NodeId) : Decidable (v.Suspects nodeId) :=
  inferInstanceAs (Decidable (ReachesLimit _ _))

/-- The registered nodes without too many failures since their last heartbeat. -/
def trusted (v : ClusterView) : Finset NodeId :=
  v.registered.filter fun nodeId => ¬ v.Suspects nodeId

end ClusterView

/-! ## What the manager keeps of the observations -/

theorem ReachesLimit.succ {maxFailureCount : JsNumber} {failures : ℕ}
    (h : ReachesLimit maxFailureCount failures) : ReachesLimit maxFailureCount (failures + 1) := by
  refine ⟨by omega, JsNumber.le_trans h.2 (JsNumber.le_ofInt ?_ ?_ ?_)⟩
  · rw [abs_of_nonneg (by omega)]
    omega
  · rw [abs_of_nonneg (by omega)]
    omega
  · omega

namespace MembershipManager

/-- The node's entry after so many failures since its last heartbeat. -/
structure Tracks (maxFailureCount : JsNumber) (failures : ℕ) (node : ClusterMember) : Prop where
  failureCount : node.failureCount = .ofInt (min failures (2 ^ 53) : ℕ)
  suspected : ReachesLimit maxFailureCount failures → node.status = .SUSPECTED
  trusted : ¬ ReachesLimit maxFailureCount failures →
    node.status = .ACTIVE ∨ node.status = .JOINING

variable {manager : MembershipManager} {maxFailureCount : JsNumber} {failures : ℕ}
  {node : ClusterMember}

theorem config_step_observation (observation : Observation) :
    (manager.step observation.operation).config = manager.config := by
  cases observation with
  | updateHeartbeat nodeId now => exact config_changeNode nodeId _
  | recordFailure nodeId => exact config_changeNode nodeId _

theorem Tracks.heartbeat (h : Tracks maxFailureCount failures node) (now : JsNumber) :
    Tracks maxFailureCount 0 { node with
      lastHeartbeat := now
      failureCount := .ofInt 0
      status := if node.status = .SUSPECTED then .ACTIVE else node.status } where
  failureCount := rfl
  suspected := fun hlimit => absurd hlimit.1 (by omega)
  trusted := by
    intro _
    by_cases hlimit : ReachesLimit maxFailureCount failures
    · exact .inl (if_pos (h.suspected hlimit))
    · dsimp only
      rcases h.trusted hlimit with hstatus | hstatus
      · exact .inl (by simp [hstatus])
      · exact .inr (by simp [hstatus])

theorem Tracks.failure (h : Tracks manager.config.maxFailureCount failures node) :
    Tracks manager.config.maxFailureCount (failures + 1) { node with
      failureCount := node.failureCount.add (.ofInt 1)
      status := if manager.reachesLimit node then .SUSPECTED else node.status } := by
  have hcount : node.failureCount.add (.ofInt 1) = .ofInt (min (failures + 1) (2 ^ 53) : ℕ) := by
    have hmin : min (min failures (2 ^ 53) + 1) (2 ^ 53) = min (failures + 1) (2 ^ 53) := by omega
    rw [h.failureCount, JsNumber.add_one_ofInt (by omega), hmin]
  have hlimit : manager.reachesLimit node = true ↔
      ReachesLimit manager.config.maxFailureCount (failures + 1) := by
    rw [reachesLimit, hcount, ReachesLimit]
    exact (and_iff_right (by omega)).symm
  constructor
  · exact hcount
  · intro hreaches
    exact if_pos (hlimit.2 hreaches)
  · intro hnot
    dsimp only
    rw [if_neg fun hreaches => hnot (hlimit.1 hreaches)]
    exact h.trusted fun hreaches => hnot hreaches.succ

/-- One observation of a known node. -/
theorem tracks_step {nodeId : NodeId} (hnode : manager.nodes.get? nodeId = some node)
    (h : Tracks manager.config.maxFailureCount failures node) (observation : Observation) :
    ∃ node', (manager.step observation.operation).nodes.get? nodeId = some node' ∧
      Tracks manager.config.maxFailureCount (observation.count nodeId failures) node' := by
  cases observation with
  | updateHeartbeat nodeId' now =>
      rw [Observation.operation, step, updateHeartbeat, get?_changeNode, Observation.count]
      split_ifs with heq
      · subst heq
        rw [hnode]
        exact ⟨_, rfl, h.heartbeat now⟩
      · exact ⟨node, hnode, h⟩
  | recordFailure nodeId' =>
      rw [Observation.operation, step, recordFailure, get?_changeNode, Observation.count]
      split_ifs with heq
      · subst heq
        rw [hnode]
        exact ⟨_, rfl, h.failure⟩
      · exact ⟨node, hnode, h⟩

theorem tracks_run {nodeId : NodeId} (hnode : manager.nodes.get? nodeId = some node)
    (h : Tracks manager.config.maxFailureCount failures node) (observations : List Observation) :
    ∃ node', (Run.run step manager (observations.map Observation.operation)).nodes.get? nodeId =
        some node' ∧
      Tracks manager.config.maxFailureCount
        (observations.foldl (Observation.count nodeId) failures) node' := by
  induction observations generalizing manager failures node with
  | nil => exact ⟨node, hnode, h⟩
  | cons observation observations ih =>
      obtain ⟨node', hnode', h'⟩ := tracks_step hnode h observation
      rw [← config_step_observation observation] at h' ⊢
      exact ih hnode' h'

theorem unknown_run {nodeId : NodeId} (hnode : manager.nodes.get? nodeId = none)
    (observations : List Observation) :
    (Run.run step manager (observations.map Observation.operation)).nodes.get? nodeId = none := by
  induction observations generalizing manager with
  | nil => exact hnode
  | cons observation observations ih =>
      refine ih ?_
      cases observation with
      | updateHeartbeat nodeId' now =>
          rw [Observation.operation, step, updateHeartbeat, get?_changeNode]
          split_ifs with heq
          · rw [← heq, hnode]
            rfl
          · exact hnode
      | recordFailure nodeId' =>
          rw [Observation.operation, step, recordFailure, get?_changeNode]
          split_ifs with heq
          · rw [← heq, hnode]
            rfl
          · exact hnode

/-! ## Setting up -/

/-- Exactly the given nodes are known, all of them without a failure. -/
structure SetUp (config : MembershipConfig) (registered : Finset NodeId)
    (manager : MembershipManager) : Prop where
  settings : manager.config = config.required
  known : ∀ nodeId ∈ registered, ∃ node, manager.nodes.get? nodeId = some node ∧
    Tracks config.required.maxFailureCount 0 node
  unknown : ∀ nodeId, nodeId ∉ registered → manager.nodes.get? nodeId = none

theorem tracks_zero (hcount : node.failureCount = .ofInt 0)
    (hstatus : node.status = .ACTIVE ∨ node.status = .JOINING) :
    Tracks maxFailureCount 0 node where
  failureCount := hcount
  suspected := fun h => absurd h.1 (by omega)
  trusted := fun _ => hstatus

/-- An entry without failures put in place of what was there. -/
theorem SetUp.set {config : MembershipConfig} {registered : Finset NodeId} {nodeId : NodeId}
    (h : SetUp config registered manager) (localNodeId : Option NodeId)
    (hnode : Tracks config.required.maxFailureCount 0 node) :
    SetUp config (insert nodeId registered)
      { manager with localNodeId := localNodeId, nodes := manager.nodes.set nodeId node } where
  settings := h.settings
  known := by
    intro nodeId' hmem
    dsimp only
    rw [OrderedMap.get?_set]
    split_ifs with heq
    · exact ⟨node, rfl, hnode⟩
    · exact h.known nodeId' (Finset.mem_of_mem_insert_of_ne hmem heq)
  unknown := by
    intro nodeId' hmem
    rw [Finset.mem_insert, not_or] at hmem
    dsimp only
    rw [OrderedMap.get?_set, if_neg hmem.1]
    exact h.unknown nodeId' hmem.2

theorem SetUp.step {config : MembershipConfig} {registered : Finset NodeId}
    (h : SetUp config registered manager) (registration : Registration) :
    SetUp config (insert registration.nodeId registered)
      (manager.step registration.operation) := by
  cases registration with
  | initializeLocalNode nodeId joinedAt lastHeartbeat =>
      exact h.set (some nodeId) (tracks_zero rfl (.inl rfl))
  | registerNode nodeId attestationValid joinedAt lastHeartbeat =>
      rw [Registration.operation, MembershipManager.step, registerNode, Registration.nodeId]
      by_cases hmem : nodeId ∈ registered
      · obtain ⟨node, hnode, -⟩ := h.known nodeId hmem
        rw [hnode, if_pos Option.isSome_some, Finset.insert_eq_of_mem hmem]
        exact h
      · rw [h.unknown nodeId hmem, if_neg (by simp)]
        exact h.set manager.localNodeId (tracks_zero rfl (.inr rfl))

theorem setUp_run (config : MembershipConfig) (registrations : List Registration) :
    SetUp config (registrations.map Registration.nodeId).toFinset
      (Run.run MembershipManager.step (createClusterMembershipManager config)
        (registrations.map Registration.operation)) := by
  induction registrations using List.reverseRecOn with
  | nil => exact ⟨rfl, fun nodeId h => absurd h (by simp), fun nodeId _ => rfl⟩
  | append_singleton registrations registration ih =>
      have hinsert : ((registrations ++ [registration]).map Registration.nodeId).toFinset =
          insert registration.nodeId (registrations.map Registration.nodeId).toFinset := by
        ext nodeId
        simp
      rw [hinsert, List.map_append, Run.run_append]
      exact ih.step registration

end MembershipManager

/-! ## The quorums of two views -/

namespace ClusterView

theorem counted_eq_trusted (v : ClusterView) : v.counted = v.trusted := by
  have hsetUp := MembershipManager.setUp_run v.config v.registrations
  ext nodeId
  rw [counted, List.mem_toFinset, MembershipManager.mem_countedNodes, trusted, Finset.mem_filter,
    MembershipManager.statusOf, manager, Run.run_append]
  by_cases hmem : nodeId ∈ v.registered
  · obtain ⟨node, hnode, htracks⟩ := hsetUp.known nodeId hmem
    rw [← hsetUp.settings] at htracks
    obtain ⟨node', hnode', htracks'⟩ :=
      MembershipManager.tracks_run hnode htracks v.observations
    rw [hsetUp.settings] at htracks'
    rw [hnode', Option.map_some, Option.some_inj, Option.some_inj, and_iff_right hmem]
    by_cases hsuspects : v.Suspects nodeId
    · rw [htracks'.suspected hsuspects]
      simp [hsuspects]
    · exact iff_of_true (htracks'.trusted hsuspects) hsuspects
  · have hnone := MembershipManager.unknown_run (hsetUp.unknown nodeId hmem) v.observations
    rw [hnone]
    simp [hmem]

theorem clusterSize_eq (v : ClusterView) :
    v.manager.calculateThreshold.clusterSize = v.trusted.card := by
  rw [MembershipManager.calculateThreshold_clusterSize, ← counted_eq_trusted, counted,
    List.toFinset_card_of_nodup v.manager.countedNodes_nodup]

theorem threshold_eq (v : ClusterView) :
    v.manager.calculateThreshold.threshold = (quorumThreshold v.trusted.card).threshold := by
  rw [← clusterSize_eq]
  rfl

/-- The quorums of the two views meet pairwise. -/
def QuorumsMeet (v w : ClusterView) : Prop :=
  ∀ S ⊆ v.counted, ∀ T ⊆ w.counted, (S.card : ℤ) = v.manager.calculateThreshold.threshold →
    (T.card : ℤ) = w.manager.calculateThreshold.threshold → (S ∩ T).Nonempty

/-- Two views have intersecting quorums exactly when one of them trusts nobody, so that it has no
quorum, or their thresholds add up to more than the nodes at least one of them trusts. -/
theorem quorumsMeet_iff (v w : ClusterView) :
    QuorumsMeet v w ↔ v.trusted = ∅ ∨ w.trusted = ∅ ∨
      ((v.trusted ∪ w.trusted).card : ℤ) < (quorumThreshold v.trusted.card).threshold +
        (quorumThreshold w.trusted.card).threshold := by
  rw [QuorumsMeet, threshold_eq, threshold_eq, counted_eq_trusted, counted_eq_trusted]
  generalize v.trusted = A
  generalize w.trusted = B
  -- a view without members has the threshold minus one, which no set has
  have hnone : (quorumThreshold (∅ : Finset NodeId).card).threshold = -1 := by decide
  by_cases hA : A = ∅
  · subst hA
    refine iff_of_true (fun S _ T _ hS _ => ?_) (.inl rfl)
    omega
  by_cases hB : B = ∅
  · subst hB
    refine iff_of_true (fun S _ T _ _ hT => ?_) (.inr (.inl rfl))
    omega
  have hApos : 0 < A.card := Finset.card_pos.2 (Finset.nonempty_iff_ne_empty.2 hA)
  have hBpos : 0 < B.card := Finset.card_pos.2 (Finset.nonempty_iff_ne_empty.2 hB)
  have hAeq : (quorumThreshold A.card).threshold = 2 * (((A.card : ℤ) - 1) / 3) + 1 := rfl
  have hBeq : (quorumThreshold B.card).threshold = 2 * (((B.card : ℤ) - 1) / 3) + 1 := rfl
  have hcount := Quorum.forall_inter_nonempty_iff (A := A) (B := B)
    (a := (quorumThreshold A.card).threshold.toNat)
    (b := (quorumThreshold B.card).threshold.toNat) (by omega) (by omega)
  constructor
  · intro hmeet
    have := hcount.1 fun S hS T hT hScard hTcard => hmeet S hS T hT (by omega) (by omega)
    omega
  · rintro (h | h | hlt)
    · exact absurd h hA
    · exact absurd h hB
    · intro S hS T hT hScard hTcard
      exact hcount.2 (by omega) S hS T hT (by omega) (by omega)

theorem threshold_le_card {A : Finset NodeId} (hA : A.Nonempty) :
    (quorumThreshold A.card).threshold ≤ A.card := by
  have hpos : 0 < A.card := Finset.card_pos.2 hA
  simp only [quorumThreshold]
  omega

/-- Where no node is trusted by both sides, each side reaches its quorum without the other. -/
theorem not_quorumsMeet_of_disjoint {v w : ClusterView} (hv : v.trusted.Nonempty)
    (hw : w.trusted.Nonempty) (hdisj : Disjoint v.trusted w.trusted) : ¬ QuorumsMeet v w := by
  rw [quorumsMeet_iff, Finset.card_union_of_disjoint hdisj]
  rintro (h | h | hlt)
  · exact hv.ne_empty h
  · exact hw.ne_empty h
  · have := threshold_le_card hv
    have := threshold_le_card hw
    push_cast at hlt
    omega

/-! ### A sample -/

/-- The node sets up a cluster of four and then loses two of the others. -/
def losing (localNode : NodeId) (others lost : List NodeId) : ClusterView where
  config := ⟨none, none, none, none⟩
  registrations := .initializeLocalNode localNode (.ofInt 0) (.ofInt 0) ::
    others.map fun other => .registerNode other none (.ofInt 0) (.ofInt 0)
  observations := lost.flatMap fun node => List.replicate 3 (.recordFailure node)

/-- Two halves of a cluster of four suspect each other, and each reaches its threshold of one. -/
theorem partition_splits_quorums :
    (losing "a" ["b", "c", "d"] ["c", "d"]).registered =
        (losing "c" ["a", "b", "d"] ["a", "b"]).registered ∧
      ¬ QuorumsMeet (losing "a" ["b", "c", "d"] ["c", "d"])
        (losing "c" ["a", "b", "d"] ["a", "b"]) := by
  have hleft : (losing "a" ["b", "c", "d"] ["c", "d"]).trusted = {"a", "b"} := by
    decide +kernel
  have hright : (losing "c" ["a", "b", "d"] ["a", "b"]).trusted = {"c", "d"} := by
    decide +kernel
  refine ⟨by decide +kernel, not_quorumsMeet_of_disjoint ?_ ?_ ?_⟩
  · rw [hleft]
    exact Finset.insert_nonempty ..
  · rw [hright]
    exact Finset.insert_nonempty ..
  · rw [hleft, hright]
    decide

end ClusterView

end UniverEscrow.Consensus
