import UniverEscrow.Consensus.EvictionTerminal
import UniverEscrow.Js.SafeInteger

/-!
# Eviction votes

The approval ratio is taken over a list of votes, which one node may fill alone, and over the
members counted at that moment, which the voters need not be among.
-/

namespace UniverEscrow.Consensus

open UniverEscrow.Js UniverEscrow.Lib

/-- `votes` is at least `t` times `members`, without rounding. -/
def AtLeastTimes (t : JsNumber) (members votes : ℕ) : Prop :=
  match t with
  | .fin x => x.val * members ≤ votes
  | .negInf => True
  | .posInf => False
  | .nan => False

instance : ∀ t members votes, Decidable (AtLeastTimes t members votes)
  | .fin x, members, votes => inferInstanceAs (Decidable (x.val * members ≤ votes))
  | .negInf, _, _ => inferInstanceAs (Decidable True)
  | .posInf, _, _ => inferInstanceAs (Decidable False)
  | .nan, _, _ => inferInstanceAs (Decidable False)

/-- The threshold is the quotient as a Number, and the exact quotient is below it. -/
def RoundedUpTo (t : JsNumber) (members votes : ℕ) : Prop :=
  t = (JsNumber.ofInt votes).div (.ofInt members) ∧ ¬ AtLeastTimes t members votes

/-! ## The ratio -/

section Ratio

variable {t : JsNumber} {members votes : ℕ}

theorem ratio_eq (hmembers : 1 ≤ members) (hvotes : votes ≤ members) (hsafe : members ≤ 2 ^ 53) :
    (JsNumber.ofInt votes).div (.ofInt members) = .ofRat ((votes : ℚ) / members) := by
  have hne : (members : ℚ) ≠ 0 := by exact_mod_cast (by omega : members ≠ 0)
  rw [JsNumber.ofInt_eq_fin (n := votes) (by rw [abs_le]; omega),
    JsNumber.ofInt_eq_fin (n := members) (by rw [abs_le]; omega)]
  simp [JsNumber.div, hne]

/-- Rounding cannot carry the ratio past the threshold, only onto it. -/
theorem atLeastTimes_of_meetsThreshold (hmembers : 1 ≤ members) (hvotes : votes ≤ members)
    (hsafe : members ≤ 2 ^ 53) (hround : ¬ RoundedUpTo t members votes)
    (h : meetsThreshold t votes members = true) : AtLeastTimes t members votes := by
  have hpos : (0 : ℚ) < members := by exact_mod_cast hmembers
  have hle : (votes : ℚ) ≤ members := by exact_mod_cast hvotes
  have hratio : (votes : ℚ) / members ≤ 1 := (div_le_one hpos).2 hle
  rw [meetsThreshold, JsNumber.le, Bool.or_eq_true] at h
  rcases h with hlt | heq
  · cases t with
    | nan => cases hlt
    | negInf => trivial
    | posInf =>
        rw [JsNumber.posInf_lt] at hlt
        cases hlt
    | fin x =>
        rw [ratio_eq hmembers hvotes hsafe] at hlt
        have hx := JsNumber.val_le_of_lt_ofRat (by positivity) (by linarith) hlt
        exact (le_div_iff₀ hpos).1 hx
  · rw [JsNumber.strictEq, Bool.and_eq_true, decide_eq_true_eq, decide_eq_true_eq] at heq
    by_contra hless
    exact hround ⟨heq.2, hless⟩

/-- No votes of no members are no ratio at all. -/
theorem one_le_of_meetsThreshold_zero (h : meetsThreshold t 0 members = true) : 1 ≤ members := by
  by_contra hzero
  obtain rfl : members = 0 := by omega
  have hnan : (JsNumber.ofInt (0 : ℕ)).div (.ofInt (0 : ℕ)) = .nan := by
    rw [JsNumber.ofInt_eq_fin (n := ((0 : ℕ) : ℤ)) (by norm_num)]
    simp [JsNumber.div, JsNumber.scaleInf]
  rw [meetsThreshold, hnan] at h
  cases t <;> cases h

end Ratio

namespace MembershipManager

/-! ## What a vote should do -/

def Approved (manager : MembershipManager) (proposalId : String) : Prop :=
  ∃ proposal, manager.evictionProposals.get? proposalId = some proposal ∧ proposal.approved = true

/-- The local node has voted the same way before. -/
def Repeats (manager : MembershipManager) (proposal : EvictionProposal) (approve : Bool) : Prop :=
  manager.localNodeId ∈ if approve then proposal.approvalVotes else proposal.rejectionVotes

/-- The active members among those who approve, each once. -/
def activeApprovers (manager : MembershipManager) (proposal : EvictionProposal) : List NodeId :=
  manager.countedNodes.filter fun nodeId => some nodeId ∈ proposal.approvalVotes

/-- A proposal that becomes approved has its quorum of active members, and a repeated vote changes
neither a decision nor a status. -/
structure FairStep (manager : MembershipManager) (operation : Operation) : Prop where
  quorum : ∀ proposalId proposal,
    (manager.step operation).evictionProposals.get? proposalId = some proposal →
    proposal.approved = true → ¬ manager.Approved proposalId →
      1 ≤ manager.getActiveNodeCount ∧
        AtLeastTimes manager.config.evictionApprovalThreshold manager.getActiveNodeCount
          (manager.activeApprovers proposal).length
  repeated : ∀ proposalId approve proposal, operation = .voteEviction proposalId approve →
    manager.evictionProposals.get? proposalId = some proposal → manager.Repeats proposal approve →
      ((manager.step operation).Approved proposalId ↔ proposal.approved = true) ∧
        ∀ nodeId, (manager.step operation).statusOf nodeId = manager.statusOf nodeId

/-- A vote that is counted once and with the members: on an open proposal a node does not approve
again and its repeated rejection decides nothing, the approvals that pass the check are of active
members, and a repeated vote on an approved proposal finds the target still evicted. -/
structure CountsOnce (manager : MembershipManager) (proposal : EvictionProposal)
    (approve : Bool) : Prop where
  fresh : proposal.approved = false → manager.Repeats proposal approve →
    approve = false ∧ manager.passes proposal approve = false
  active : proposal.approved = false → manager.passes proposal approve = true →
    ∀ voter ∈ (manager.voted proposal approve).approvalVotes,
      ∃ nodeId ∈ manager.countedNodes, voter = some nodeId
  safe : proposal.approved = false → manager.passes proposal approve = true →
    manager.getActiveNodeCount ≤ 2 ^ 53 ∧
      ¬ RoundedUpTo manager.config.evictionApprovalThreshold manager.getActiveNodeCount
        (manager.voted proposal approve).approvalVotes.length
  settled : proposal.approved = true → manager.Repeats proposal approve →
    manager.passes proposal approve = true →
      ∀ status, manager.statusOf proposal.targetNodeId = some status → status = .EVICTED

def VotesOnce (manager : MembershipManager) : Operation → Prop
  | .voteEviction proposalId approve => ∀ proposal,
      manager.evictionProposals.get? proposalId = some proposal →
        CountsOnce manager proposal approve
  | _ => True

/-- No node has approved an open proposal twice. -/
def OpenVotesDistinct (manager : MembershipManager) : Prop :=
  ∀ proposalId proposal, manager.evictionProposals.get? proposalId = some proposal →
    proposal.approved = false → proposal.approvalVotes.Nodup

/-! ## What an operation does to the proposals -/

/-- The proposal a vote leaves behind. -/
def decided (manager : MembershipManager) (proposal : EvictionProposal) (approve : Bool) :
    EvictionProposal :=
  { manager.voted proposal approve with
    approved := proposal.approved || manager.passes proposal approve }

variable {manager : MembershipManager} {proposalId : String} {proposal : EvictionProposal}
  {approve : Bool}

theorem targetNodeId_voted :
    (manager.voted proposal approve).targetNodeId = proposal.targetNodeId := by
  cases approve <;> rfl

theorem evictionProposals_voteEviction
    (h : manager.evictionProposals.get? proposalId = some proposal) :
    (manager.step (.voteEviction proposalId approve)).evictionProposals =
      manager.evictionProposals.set proposalId (manager.decided proposal approve) := by
  cases hpasses : manager.passes proposal approve with
  | true =>
      rw [step_voteEviction_of_passes h hpasses, evictNode, evictionProposals_changeNode, decided,
        hpasses, Bool.or_true]
      rfl
  | false =>
      rw [step_voteEviction_of_not_passes h hpasses, decided, hpasses, Bool.or_false]
      cases approve <;> rfl

theorem evictionProposals_step_cases {operation : Operation}
    (h : (manager.step operation).evictionProposals.get? proposalId = some proposal) :
    manager.evictionProposals.get? proposalId = some proposal ∨
      (proposal.approved = false ∧ proposal.approvalVotes = []) ∨
      ∃ approve before, operation = .voteEviction proposalId approve ∧
        manager.evictionProposals.get? proposalId = some before ∧
        proposal = manager.decided before approve := by
  cases operation with
  | initializeLocalNode nodeId joinedAt lastHeartbeat => exact .inl h
  | registerNode nodeId attestationValid joinedAt lastHeartbeat =>
      rw [step, registerNode] at h
      split_ifs at h
      · exact .inl h
      · exact .inl h
  | updateHeartbeat nodeId now =>
      rw [step, updateHeartbeat, evictionProposals_changeNode] at h
      exact .inl h
  | recordFailure nodeId =>
      rw [step, recordFailure, evictionProposals_changeNode] at h
      exact .inl h
  | proposeNodeEviction nodeId reason now timestamp =>
      rcases step_proposeNodeEviction_cases manager nodeId reason now timestamp with
        hstep | ⟨localNodeId, hstep⟩
      · rw [hstep] at h
        exact .inl h
      · rw [hstep, setProposal, OrderedMap.get?_set] at h
        split_ifs at h
        · cases h
          exact .inr (.inl ⟨rfl, rfl⟩)
        · exact .inl h
  | voteEviction votedId approve =>
      cases hvoted : manager.evictionProposals.get? votedId with
      | none =>
          rw [step_voteEviction_of_none hvoted] at h
          exact .inl h
      | some before =>
          rw [evictionProposals_voteEviction hvoted, OrderedMap.get?_set] at h
          split_ifs at h with heq
          · cases h
            exact .inr (.inr ⟨approve, before, by rw [heq], by rw [heq, hvoted], rfl⟩)
          · exact .inl h
  | finalizeEviction finalizedId =>
      rcases step_finalizeEviction_cases manager finalizedId with
        hstep | ⟨finalized, -, -, hstep⟩
      · rw [hstep] at h
        exact .inl h
      · rw [hstep, evictNode, evictionProposals_changeNode] at h
        exact .inl h
  | setLeader nodeId => exact .inl h

/-! ## Distinct votes -/

theorem nodup_approvalVotes_voted (h : proposal.approvalVotes.Nodup)
    (hfresh : manager.Repeats proposal approve → approve = false) :
    (manager.voted proposal approve).approvalVotes.Nodup := by
  cases approve with
  | false => exact h
  | true =>
      have hnew : manager.localNodeId ∉ proposal.approvalVotes := fun hmem =>
        Bool.noConfusion (hfresh hmem)
      have hconcat := h.concat hnew
      rwa [List.concat_eq_append] at hconcat

theorem openVotesDistinct_step {operation : Operation} (h : manager.OpenVotesDistinct)
    (honce : VotesOnce manager operation) : (manager.step operation).OpenVotesDistinct := by
  intro proposalId proposal hget hopen
  rcases evictionProposals_step_cases hget with
    hold | ⟨-, hnil⟩ | ⟨approve, before, rfl, hbefore, rfl⟩
  · exact h proposalId proposal hold hopen
  · rw [hnil]
    exact List.nodup_nil
  · have hundecided : before.approved = false := (Bool.or_eq_false_iff.1 hopen).1
    exact nodup_approvalVotes_voted (h proposalId before hbefore hundecided)
      fun hrepeats => ((honce before hbefore).fresh hundecided hrepeats).1

theorem activeApprovers_nodup : (manager.activeApprovers proposal).Nodup :=
  manager.countedNodes_nodup.filter _

/-- Different active members are counted one by one. -/
theorem length_activeApprovers (hnodup : proposal.approvalVotes.Nodup)
    (hactive : ∀ voter ∈ proposal.approvalVotes, ∃ nodeId ∈ manager.countedNodes,
      voter = some nodeId) :
    (manager.activeApprovers proposal).length = proposal.approvalVotes.length := by
  have hperm : ((manager.activeApprovers proposal).map some).Perm proposal.approvalVotes := by
    rw [List.perm_ext_iff_of_nodup (activeApprovers_nodup.map (Option.some_injective _)) hnodup]
    intro voter
    simp only [activeApprovers, List.mem_map, List.mem_filter, decide_eq_true_eq]
    constructor
    · rintro ⟨nodeId, ⟨-, hvote⟩, rfl⟩
      exact hvote
    · intro hvote
      obtain ⟨nodeId, hcounted, rfl⟩ := hactive voter hvote
      exact ⟨nodeId, ⟨hcounted, hvote⟩, rfl⟩
  rw [← hperm.length_eq, List.length_map]

theorem length_activeApprovers_le :
    (manager.activeApprovers proposal).length ≤ manager.getActiveNodeCount := by
  rw [getActiveNodeCount_eq]
  exact List.length_filter_le _ _

/-- An open proposal that passes with distinct active voters has its quorum. -/
theorem quorum_of_passes (hdistinct : (manager.voted proposal approve).approvalVotes.Nodup)
    (honce : CountsOnce manager proposal approve) (hopen : proposal.approved = false)
    (hpasses : manager.passes proposal approve = true) :
    1 ≤ manager.getActiveNodeCount ∧
      AtLeastTimes manager.config.evictionApprovalThreshold manager.getActiveNodeCount
        (manager.activeApprovers (manager.decided proposal approve)).length := by
  have hlength : (manager.activeApprovers (manager.decided proposal approve)).length =
      (manager.voted proposal approve).approvalVotes.length :=
    length_activeApprovers hdistinct (honce.active hopen hpasses)
  have hle : (manager.voted proposal approve).approvalVotes.length ≤
      manager.getActiveNodeCount := by
    rw [← hlength]
    exact length_activeApprovers_le
  obtain ⟨hsafe, hround⟩ := honce.safe hopen hpasses
  have hone : 1 ≤ manager.getActiveNodeCount := by
    rcases Nat.eq_zero_or_pos (manager.voted proposal approve).approvalVotes.length with
      hzero | hpos
    · rw [passes, hzero] at hpasses
      exact one_le_of_meetsThreshold_zero hpasses
    · omega
  rw [hlength]
  exact ⟨hone, atLeastTimes_of_meetsThreshold hone hle hsafe hround hpasses⟩

theorem quorum_step {operation : Operation} (hdistinct : manager.OpenVotesDistinct)
    (honce : VotesOnce manager operation)
    (hget : (manager.step operation).evictionProposals.get? proposalId = some proposal)
    (happroved : proposal.approved = true) (hopen : ¬ manager.Approved proposalId) :
    1 ≤ manager.getActiveNodeCount ∧
      AtLeastTimes manager.config.evictionApprovalThreshold manager.getActiveNodeCount
        (manager.activeApprovers proposal).length := by
  rcases evictionProposals_step_cases hget with
    hold | ⟨hnew, -⟩ | ⟨approve, before, rfl, hbefore, rfl⟩
  · exact absurd ⟨proposal, hold, happroved⟩ hopen
  · rw [hnew] at happroved
    cases happroved
  · have hundecided : before.approved = false :=
      Bool.eq_false_iff.2 fun h => hopen ⟨before, hbefore, h⟩
    have hpasses : manager.passes before approve = true := by
      have hor : (before.approved || manager.passes before approve) = true := happroved
      rwa [hundecided, Bool.false_or] at hor
    have hcounts := honce before hbefore
    exact quorum_of_passes (nodup_approvalVotes_voted (hdistinct _ before hbefore hundecided)
      fun hrepeats => (hcounts.fresh hundecided hrepeats).1) hcounts hundecided hpasses

/-! ## Repeated votes -/

theorem approved_voteEviction (h : manager.evictionProposals.get? proposalId = some proposal) :
    (manager.step (.voteEviction proposalId approve)).Approved proposalId ↔
      proposal.approved = true ∨ manager.passes proposal approve = true := by
  rw [Approved, evictionProposals_voteEviction h, OrderedMap.get?_set_self, ← Bool.or_eq_true]
  constructor
  · rintro ⟨proposal', hproposal', happroved⟩
    cases hproposal'
    exact happroved
  · intro happroved
    exact ⟨_, rfl, happroved⟩

theorem statusOf_voteEviction (h : manager.evictionProposals.get? proposalId = some proposal)
    (hevicted : manager.passes proposal approve = true →
      ∀ status, manager.statusOf proposal.targetNodeId = some status → status = .EVICTED)
    (nodeId : NodeId) :
    (manager.step (.voteEviction proposalId approve)).statusOf nodeId =
      manager.statusOf nodeId := by
  cases hpasses : manager.passes proposal approve with
  | false => rw [step_voteEviction_of_not_passes h hpasses, statusOf_setProposal]
  | true =>
      rw [step_voteEviction_of_passes h hpasses, statusOf_evictNode, targetNodeId_voted,
        statusOf_setProposal, statusOf_setProposal]
      split_ifs with htarget
      · rw [htarget]
        cases hstatus : manager.statusOf proposal.targetNodeId with
        | none => rfl
        | some status =>
            rw [hevicted hpasses status hstatus]
            rfl
      · rfl

theorem repeated_step (h : manager.evictionProposals.get? proposalId = some proposal)
    (honce : CountsOnce manager proposal approve) (hrepeats : manager.Repeats proposal approve) :
    ((manager.step (.voteEviction proposalId approve)).Approved proposalId ↔
        proposal.approved = true) ∧
      ∀ nodeId, (manager.step (.voteEviction proposalId approve)).statusOf nodeId =
        manager.statusOf nodeId := by
  rw [approved_voteEviction h]
  cases happroved : proposal.approved with
  | true =>
      exact ⟨by simp, statusOf_voteEviction h (honce.settled happroved hrepeats)⟩
  | false =>
      have hpasses := (honce.fresh happroved hrepeats).2
      refine ⟨by simp [hpasses], statusOf_voteEviction h fun hp => ?_⟩
      rw [hpasses] at hp
      cases hp

theorem fairStep_of_votesOnce {operation : Operation} (hdistinct : manager.OpenVotesDistinct)
    (honce : VotesOnce manager operation) : FairStep manager operation := by
  constructor
  · intro proposalId proposal hget happroved hopen
    exact quorum_step hdistinct honce hget happroved hopen
  · rintro proposalId approve proposal rfl h hrepeats
    exact repeated_step h (honce proposal h) hrepeats

/-- In a run whose votes are counted once and with the members, every approval has its quorum of
active members and no repeated vote changes anything. -/
theorem eviction_needs_quorum (config : MembershipConfig) (operations : List Operation)
    (honce : Run.EachStep step VotesOnce (createClusterMembershipManager config) operations) :
    Run.EachStep step FairStep (createClusterMembershipManager config) operations := by
  have hstep : ∀ (s : MembershipManager) (operation : Operation), s.OpenVotesDistinct →
      VotesOnce s operation → (s.step operation).OpenVotesDistinct ∧ FairStep s operation :=
    fun s operation hdistinct hs =>
      ⟨openVotesDistinct_step hdistinct hs, fairStep_of_votesOnce hdistinct hs⟩
  have hinit : (createClusterMembershipManager config).OpenVotesDistinct := by
    intro proposalId proposal hget
    cases hget
  exact Run.eachStep_of_step hstep hinit honce

/-! ## A sample -/

def peerProposal (approvalVotes : List (Option NodeId)) (approved : Bool) : EvictionProposal where
  proposalId := "evict-peer-0"
  targetNodeId := "peer"
  proposerNodeId := "local"
  reason := "attestation_failure"
  timestamp := .ofInt 0
  approved := approved
  approvalVotes := approvalVotes
  rejectionVotes := []

/-- The only node left votes once. -/
theorem votesOnce_failingPeer :
    VotesOnce (Run.run step defaultManager failingPeer) (.voteEviction "evict-peer-0" true) := by
  have hget : (Run.run step defaultManager failingPeer).evictionProposals.get? "evict-peer-0" =
      some (peerProposal [] false) := by
    decide +kernel
  have hcounted : (Run.run step defaultManager failingPeer).countedNodes = ["local"] := by
    decide +kernel
  have hlocal : (Run.run step defaultManager failingPeer).localNodeId = some "local" := by
    decide +kernel
  intro proposal hproposal
  obtain rfl : peerProposal [] false = proposal := Option.some.inj (hget.symm.trans hproposal)
  constructor
  · intro _ hrepeats
    cases hrepeats
  · intro _ _ voter hvoter
    rw [hcounted]
    exact ⟨"local", List.mem_singleton_self _, (List.mem_singleton.1 hvoter).trans hlocal⟩
  · intro _ _
    rw [getActiveNodeCount_eq, hcounted]
    exact ⟨by norm_num, fun hround => absurd hround.2 (by decide +kernel)⟩
  · intro happroved
    cases happroved

theorem eviction_needs_quorum_sample :
    Run.EachStep step FairStep (createClusterMembershipManager ⟨none, none, none, none⟩)
      (failingPeer ++ [.voteEviction "evict-peer-0" true]) :=
  eviction_needs_quorum ⟨none, none, none, none⟩ _
    ⟨trivial, trivial, trivial, trivial, trivial, trivial, votesOnce_failingPeer, trivial⟩

/-- In a cluster of two the local node votes twice. -/
def votesTwice : List Operation :=
  [.initializeLocalNode "local" (.ofInt 0) (.ofInt 0),
    .registerNode "peer" none (.ofInt 0) (.ofInt 0),
    .proposeNodeEviction "peer" none (.ofInt 0) (.ofInt 0),
    .voteEviction "evict-peer-0" true]

/-- One vote of the two members is below the threshold; the same vote again is not. -/
theorem repeated_vote_evicts :
    (Run.run step defaultManager votesTwice).statusOf "peer" = some .JOINING ∧
      (Run.run step defaultManager (votesTwice ++ [.voteEviction "evict-peer-0" true])).statusOf
        "peer" = some .EVICTED ∧
      ¬ Run.EachStep step FairStep defaultManager
        (votesTwice ++ [.voteEviction "evict-peer-0" true]) := by
  refine ⟨by decide +kernel, by decide +kernel, ?_⟩
  rintro ⟨-, -, -, -, hfair, -⟩
  have hget : (Run.run step defaultManager votesTwice).evictionProposals.get? "evict-peer-0" =
      some (peerProposal [some "local"] false) := by
    decide +kernel
  have hopen : ¬ (Run.run step defaultManager votesTwice).Approved "evict-peer-0" := by
    rintro ⟨proposal, hproposal, happroved⟩
    cases hget.symm.trans hproposal
    cases happroved
  have hvoted : ((Run.run step defaultManager votesTwice).step
      (.voteEviction "evict-peer-0" true)).evictionProposals.get? "evict-peer-0" =
        some (peerProposal [some "local", some "local"] true) := by
    decide +kernel
  have hquorum := (hfair.quorum _ _ hvoted rfl hopen).2
  revert hquorum
  decide +kernel

end MembershipManager

end UniverEscrow.Consensus
