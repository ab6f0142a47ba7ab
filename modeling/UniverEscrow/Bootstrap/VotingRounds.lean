import UniverEscrow.Bootstrap.KeptRecords
import UniverEscrow.Router.LeaderFencing
import UniverEscrow.Router.StateTransition

/-!
# Voting rounds

While the leader waits for votes on its next slot, other requests reach it, and so do messages
that nobody vouches for.  No message keeps a certificate from forming or makes one useless; a
request that adds to the log does, whether it commits or not.
-/

namespace UniverEscrow.Bootstrap

open UniverEscrow.Js UniverEscrow.Ledger UniverEscrow.Router UniverEscrow.Consensus
open UniverEscrow.Lib.Run

/-! ## What adds to the log -/

/-- The event is an append-entry request that gets past the checks in front of the append. -/
def AppendsEntry (node : Node) (event : NodeEvent) : Prop :=
  ∃ clock body gated, event = .request ⟨.appendEntry body, clock⟩ ∧
    appendEntryGate body node = .ok gated ∧ logFull node.raft = false

section Log

variable {platform : Platform} {node : Node}

theorem raft_lock (clock : RequestClock) (body : JsValue) :
    (lock platform clock body node).1.raft = node.raft := by
  unfold lock
  split
  · rfl
  · rfl
  · split <;> rename_i hsave <;> obtain ⟨rfl, -⟩ := Prod.mk.inj hsave <;> rfl

theorem raft_handleEscrowSubmit (clock : RequestClock) (body : JsValue) :
    (handleEscrowSubmit platform clock body node).1.raft = node.raft := by
  unfold handleEscrowSubmit
  split
  · rfl
  · split <;> rename_i hsave <;> obtain ⟨rfl, -⟩ := Prod.mk.inj hsave <;> rfl

theorem raft_adminUnfreeze (clock : RequestClock) (replies : RitualReplies) (payload : JsValue) :
    (adminUnfreeze platform clock replies payload node).1.raft = node.raft := by
  unfold adminUnfreeze
  split
  · rfl
  · unfold answerHeal
    dsimp only
    split
    · rfl
    · split
      · rfl
      · split
        · rfl
        · rfl

theorem raft_registerPeer (body : JsValue) :
    (registerPeer platform body node).1.raft = node.raft := by
  unfold registerPeer
  split
  · rfl
  · dsimp only
    split_ifs <;> rfl

theorem raft_enclaveAttest (doc : JsValue) :
    (enclaveAttest platform doc node).1.raft = node.raft := by
  unfold enclaveAttest
  dsimp only
  split_ifs <;> rfl

theorem raft_joinCluster (body : JsValue) :
    (joinCluster platform body node).1.raft = node.raft := by
  unfold joinCluster admitPeer
  dsimp only
  split
  · rfl
  · split_ifs <;> rfl

theorem raft_verifyZkProof (body : JsValue) :
    (verifyZkProof platform body node).1.raft = node.raft := by
  unfold verifyZkProof
  split <;> rfl

/-- Only append-entry requests reach the engine. -/
theorem raft_eventStep {event : NodeEvent}
    (h : ∀ clock body, event ≠ .request ⟨.appendEntry body, clock⟩) :
    (eventStep platform node event).raft = node.raft := by
  cases event with
  | request request =>
      obtain ⟨call, clock⟩ := request
      cases call with
      | lock body => exact raft_lock clock body
      | appendEntry body => exact absurd rfl (h clock body)
      | escrowSubmit body => exact raft_handleEscrowSubmit clock body
      | adminUnfreeze replies payload => exact raft_adminUnfreeze clock replies payload
  | audit now replies => rfl
  | enclaveAttest doc => exact raft_enclaveAttest doc
  | joinCluster body => exact raft_joinCluster body
  | registerPeer body => exact raft_registerPeer body
  | verifyZkProof body => exact raft_verifyZkProof body

theorem log_eventStep_of_appends {event : NodeEvent} (h : AppendsEntry node event) :
    (eventStep platform node event).raft.log.length = node.raft.log.length + 1 := by
  obtain ⟨clock, body, ⟨term, entry⟩, rfl, hgate, hspace⟩ := h
  have hlog := (@TermHistory.appendAndCommit_log platform clock term entry (body.get "bft") node).1
  rw [hspace] at hlog
  change (appendEntry platform clock body node).1.raft.log.length = _
  rw [appendEntry, hgate, hlog]
  simp

theorem log_eventStep_of_not_appends {event : NodeEvent} (h : ¬ AppendsEntry node event) :
    (eventStep platform node event).raft.log = node.raft.log := by
  by_cases happend : ∃ clock body, event = .request ⟨.appendEntry body, clock⟩
  · obtain ⟨clock, body, rfl⟩ := happend
    change (appendEntry platform clock body node).1.raft.log = _
    unfold appendEntry
    cases hgate : appendEntryGate body node with
    | error response => rfl
    | ok gated =>
        cases hspace : logFull node.raft with
        | true => simp only [appendAndCommit, hspace, if_true]
        | false => exact absurd ⟨clock, body, gated, rfl, hgate, hspace⟩ h
  · push Not at happend
    rw [raft_eventStep happend]

theorem wellFormed_appendEntry (h : node.raft.WellFormed) (clock : RequestClock)
    (body : JsValue) : (appendEntry platform clock body node).1.raft.WellFormed := by
  unfold appendEntry
  cases hgate : appendEntryGate body node with
  | error response => exact h
  | ok gated =>
      obtain ⟨term, entry⟩ := gated
      have happended := h.appendLocalLog entry
      dsimp only
      unfold appendAndCommit
      split_ifs
      · exact h
      · dsimp only
        cases hdecision : appendDecision term entry (body.get "bft") node.raft with
        | error stop => exact happended
        | ok saved =>
            simp only [appendDecision, bind_eq_ok] at hdecision
            obtain ⟨params, -, hbft⟩ := hdecision
            have hmem := (EnclaveRaftEngine.findEntry_eq_ok
              (EnclaveRaftEngine.bftDecision_eq_ok.1 hbft).1).1
            dsimp only
            split
            · rename_i hsave
              obtain ⟨rfl, -⟩ := Prod.mk.inj hsave
              exact happended
            · rename_i hsave
              obtain ⟨rfl, -⟩ := Prod.mk.inj hsave
              exact happended.commit hmem

theorem wellFormed_eventStep (h : node.raft.WellFormed) (event : NodeEvent) :
    (eventStep platform node event).raft.WellFormed := by
  by_cases happend : ∃ clock body, event = .request ⟨.appendEntry body, clock⟩
  · obtain ⟨clock, body, rfl⟩ := happend
    exact wellFormed_appendEntry h clock body
  · push Not at happend
    rwa [raft_eventStep happend]

end Log

/-! ## Rounds -/

/-- What happens while votes on a proposal are gathered: the answer of a follower arrives, or any
other message, or something reaches the leader itself. -/
inductive RoundEvent where
  | vote (follower : Follower)
  | message (share : JsValue)
  | leader (event : NodeEvent)

structure VotingRound where
  leader : Node
  arrived : List JsValue

namespace VotingRound

def step (platform : Platform) (proposal : JsValue) (round : VotingRound) :
    RoundEvent → VotingRound
  | .vote follower =>
      { round with arrived := round.arrived ++ (follower.vote? platform proposal).toList }
  | .message share => { round with arrived := round.arrived ++ [share] }
  | .leader event => { round with leader := eventStep platform round.leader event }

/-- The different attested nodes that are named by a message for the slot. -/
def supporters (proposal : JsValue) (attested : AttestationMap) (round : VotingRound) :
    List NodeId :=
  (round.arrived.filterMap (countedNodeId? proposal attested)).dedup

/-- What has arrived makes a certificate, and the leader commits the entry under it. -/
def Commits (platform : Platform) (clock : RequestClock) (localeCompare : String → String → ℤ)
    (attested : AttestationMap) (proposal : JsValue) (term : JsNumber) (leaderId entry : JsValue)
    (round : VotingRound) : Prop :=
  ∃ payload,
    aggregateShares localeCompare round.leader.cluster proposal round.arrived attested =
      .ok payload ∧
    PersistsEntry platform clock (appendBody term leaderId entry payload) round.leader

/-- The event does not add to the log of the leader. -/
def KeepsSlot (round : VotingRound) (event : RoundEvent) : Prop :=
  ∀ nodeEvent, event = .leader nodeEvent → ¬ AppendsEntry round.leader nodeEvent

variable {platform : Platform} {proposal : JsValue} {round : VotingRound}

theorem wellFormed_step (event : RoundEvent) (h : round.leader.raft.WellFormed) :
    (round.step platform proposal event).leader.raft.WellFormed := by
  cases event with
  | vote follower => exact h
  | message share => exact h
  | leader event => exact wellFormed_eventStep h event

theorem log_step_of_keepsSlot {event : RoundEvent} (h : round.KeepsSlot event) :
    (round.step platform proposal event).leader.raft.log = round.leader.raft.log := by
  cases event with
  | vote follower => rfl
  | message share => rfl
  | leader event => exact log_eventStep_of_not_appends (h event rfl)

theorem log_step_of_not_keepsSlot {event : RoundEvent} (h : ¬ round.KeepsSlot event) :
    (round.step platform proposal event).leader.raft.log.length =
      round.leader.raft.log.length + 1 := by
  simp only [KeepsSlot, not_forall, not_not] at h
  obtain ⟨event, rfl, happends⟩ := h
  exact log_eventStep_of_appends happends

theorem length_log_le_step (event : RoundEvent) :
    round.leader.raft.log.length ≤
      (round.step platform proposal event).leader.raft.log.length := by
  by_cases h : round.KeepsSlot event
  · rw [log_step_of_keepsSlot h]
  · rw [log_step_of_not_keepsSlot h]
    exact Nat.le_succ _

theorem length_log_le_run (events : List RoundEvent) :
    round.leader.raft.log.length ≤
      (run (step platform proposal) round events).leader.raft.log.length := by
  induction events generalizing round with
  | nil => exact le_rfl
  | cons event events ih => exact (length_log_le_step event).trans ih

theorem wellFormed_run (events : List RoundEvent) (h : round.leader.raft.WellFormed) :
    (run (step platform proposal) round events).leader.raft.WellFormed := by
  induction events generalizing round with
  | nil => exact h
  | cons event events ih => exact ih (wellFormed_step event h)

/-- The log is as long as at the start exactly if no event has added to it. -/
theorem log_length_run_eq_iff (events : List RoundEvent) :
    (run (step platform proposal) round events).leader.raft.log.length =
        round.leader.raft.log.length ↔
      EachStep (step platform proposal) KeepsSlot round events := by
  induction events generalizing round with
  | nil => exact iff_of_true rfl trivial
  | cons event events ih =>
      rw [run_cons, EachStep, ← ih]
      by_cases hkeeps : round.KeepsSlot event
      · rw [log_step_of_keepsSlot hkeeps]
        exact (and_iff_right hkeeps).symm
      · have hgrown := @log_step_of_not_keepsSlot platform proposal round event hkeeps
        have hle := @length_log_le_run platform proposal (round.step platform proposal event) events
        refine iff_of_false ?_ fun h => hkeeps h.1
        omega

/-- A slot is the next one exactly if it still is at the end of the run. -/
theorem nextIndex_run_iff {events : List RoundEvent}
    (hspace : logFull (run (step platform proposal) round events).leader.raft = false) :
    round.leader.nextIndex = (run (step platform proposal) round events).leader.nextIndex ↔
      EachStep (step platform proposal) KeepsSlot round events := by
  have hle := @length_log_le_run platform proposal round events
  have hshort := of_decide_eq_false hspace
  simp only [maxArrayLength] at hshort
  rw [← log_length_run_eq_iff, Node.nextIndex, Node.nextIndex,
    JsNumber.ofInt_inj (by rw [abs_le]; omega) (by rw [abs_le]; omega)]
  omega

/-- An open leader commits exactly if the messages are from enough nodes and for its next slot. -/
theorem commits_iff (clock : RequestClock) (localeCompare : String → String → ℤ)
    (attested : AttestationMap) (leaderId : JsValue) {entry : JsValue} {term index : JsNumber}
    (hraft : round.leader.raft.WellFormed) (hopen : OpenFor round.leader term entry)
    (hterm : proposal.get "consensusTerm" = .num term)
    (hindex : proposal.get "index" = .num index) :
    round.Commits platform clock localeCompare attested proposal term leaderId entry ↔
      (quorumThreshold round.leader.cluster.getClusterSize).threshold ≤
        (round.supporters proposal attested).length ∧ index = round.leader.nextIndex := by
  constructor
  · rintro ⟨payload, haggregate, hpersists⟩
    exact ⟨(aggregateShares_accepts_iff localeCompare).1 ⟨payload, haggregate⟩,
      (persistsEntry_appendBody_iff platform clock leaderId hraft hopen hterm hindex
        haggregate).1 hpersists⟩
  · rintro ⟨henough, hnext⟩
    obtain ⟨payload, haggregate⟩ := (aggregateShares_accepts_iff localeCompare).2 henough
    exact ⟨payload, haggregate, (persistsEntry_appendBody_iff platform clock leaderId hraft hopen
      hterm hindex haggregate).2 hnext⟩

/-! ## Votes that arrive -/

/-- The message that an event brings. -/
def message? (platform : Platform) (proposal : JsValue) : RoundEvent → Option JsValue
  | .vote follower => follower.vote? platform proposal
  | .message share => some share
  | .leader _ => none

theorem arrived_run (events : List RoundEvent) :
    (run (step platform proposal) round events).arrived =
      round.arrived ++ events.filterMap (message? platform proposal) := by
  induction events generalizing round with
  | nil => simp
  | cons event events ih =>
      rw [run_cons, ih]
      cases event with
      | vote follower =>
          cases hvote : follower.vote? platform proposal <;> simp [step, message?, hvote]
      | message share => simp [step, message?]
      | leader event => rfl

/-- A vote under an attested measurement counts for its node. -/
theorem countedNodeId?_vote {attested : AttestationMap} {follower : Follower} {vote : JsValue}
    (hattested : attested.get? follower.nodeId = some follower.nodePcr0Hash)
    (h : follower.vote? platform proposal = some vote) :
    countedNodeId? proposal attested vote = some follower.nodeId := by
  obtain ⟨share, rfl, hnode, hpcr0, hne, hterm, hindex⟩ := Follower.vote?_eq_some h
  have hshare : IsAttested attested share := by
    rw [IsAttested, hnode, hpcr0]
    exact ⟨hattested, hne⟩
  rw [countedNodeId?_toJs attested hterm hindex, if_pos hshare, hnode]

/-- Followers whose votes have arrived support the round, whatever else has arrived. -/
theorem length_le_supporters {attested : AttestationMap} {followers : List Follower}
    {events : List RoundEvent} (hdistinct : (followers.map Follower.nodeId).Nodup)
    (hvotes : ∀ follower ∈ followers, RoundEvent.vote follower ∈ events ∧
      (follower.vote? platform proposal).isSome = true ∧
      attested.get? follower.nodeId = some follower.nodePcr0Hash) :
    followers.length ≤
      ((run (step platform proposal) round events).supporters proposal attested).length := by
  rw [← List.length_map (f := Follower.nodeId)]
  apply List.Subperm.length_le
  apply List.subperm_of_subset hdistinct
  intro nodeId hmem
  obtain ⟨follower, hfollower, rfl⟩ := List.mem_map.1 hmem
  obtain ⟨hevent, hsome, hattested⟩ := hvotes follower hfollower
  obtain ⟨vote, hvote⟩ := Option.isSome_iff_exists.1 hsome
  rw [supporters, List.mem_dedup, List.mem_filterMap]
  refine ⟨vote, ?_, countedNodeId?_vote hattested hvote⟩
  rw [arrived_run, List.mem_append]
  exact .inr (List.mem_filterMap.2 ⟨.vote follower, hevent, hvote⟩)

end VotingRound

/-- At the end of a round for the leader's next slot an open leader commits the entry exactly if
messages for the slot name as many different attested nodes as its cluster asks for, and no
request has added to its log since the round began. -/
theorem round_commits_iff (platform : Platform) (clock : RequestClock)
    (localeCompare : String → String → ℤ) (attested : AttestationMap) (leaderId : JsValue)
    {leader : Node} {proposal entry : JsValue} {term : JsNumber} (events : List RoundEvent)
    (hraft : leader.raft.Reachable) (hterm : proposal.get "consensusTerm" = .num term)
    (hindex : proposal.get "index" = .num leader.nextIndex)
    (hopen : OpenFor (run (VotingRound.step platform proposal) ⟨leader, []⟩ events).leader term
      entry) :
    (run (VotingRound.step platform proposal) ⟨leader, []⟩ events).Commits platform clock
        localeCompare attested proposal term leaderId entry ↔
      (quorumThreshold (run (VotingRound.step platform proposal) ⟨leader,
          []⟩ events).leader.cluster.getClusterSize).threshold ≤
        ((run (VotingRound.step platform proposal) ⟨leader, []⟩ events).supporters proposal
          attested).length ∧
      EachStep (VotingRound.step platform proposal) VotingRound.KeepsSlot ⟨leader, []⟩ events := by
  have hwell := @VotingRound.wellFormed_run platform proposal ⟨leader, []⟩ events hraft.wellFormed
  rw [← VotingRound.nextIndex_run_iff hopen.logSpace]
  exact VotingRound.commits_iff clock localeCompare attested leaderId hwell hopen hterm hindex

/-! ### A sample -/

theorem abs_slotNumber_le : |(1 : ℤ)| ≤ 2 ^ 53 := by norm_num

def slotProposal : JsValue :=
  proposalFor appendSha256 "tx_1" "PENDING" (.ofInt 1 abs_slotNumber_le)
    (.ofInt 1 abs_slotNumber_le)

def sampleFollower (nodeId : NodeId) : Follower := ⟨openNode, nodeId, "8f3c1b2a"⟩

/-- Three followers vote while a forged share and a registration without a body come in. -/
def roundEvents : List RoundEvent :=
  [.vote (sampleFollower "node_2"), .message forgedShare, .leader (.registerPeer .undefined),
    .vote (sampleFollower "node_3"), .vote (sampleFollower "node_4")]

theorem vote?_sampleFollower {nodeId : NodeId} (h : nodeId ≠ "") :
    ((sampleFollower nodeId).vote? appendPlatform slotProposal).isSome = true := by
  have hgate : transitionGate (.obj [("nodeId", nodeId), ("nodePcr0Hash", "8f3c1b2a"),
      ("proposal", slotProposal)]) openNode = .ok (nodeId, "8f3c1b2a", slotProposal) :=
    transitionGate_eq_ok.2 ⟨rfl, rfl, rfl, ⟨h, by decide⟩, rfl, rfl⟩
  have hanswer : (sampleFollower nodeId).answer appendPlatform slotProposal =
      shareResponse (shareFor appendSha256 handlerSecret "tx_1" "PENDING" (.ofInt 1) (.ofInt 1)
        nodeId "8f3c1b2a") := by
    change verifyStateTransition _ (.obj [("nodeId", nodeId), ("nodePcr0Hash", "8f3c1b2a"),
      ("proposal", slotProposal)]) openNode = _
    rw [verifyStateTransition, hgate]
    dsimp only
    rw [slotProposal, openNode, appendPlatform,
      verifyProposalAndBuildShare_proposalFor appendSha256 (by decide) (by decide)]
  rw [Follower.vote?, hanswer]
  rfl

theorem leader_roundEvents :
    (run (VotingRound.step appendPlatform slotProposal) ⟨openNode, []⟩ roundEvents).leader =
      openNode := rfl

theorem openFor_roundEvents :
    OpenFor (run (VotingRound.step appendPlatform slotProposal) ⟨openNode, []⟩ roundEvents).leader
      (.ofInt 1) (forgedBody.get "entry") where
  unfrozen := rfl
  ready := rfl
  current := forgedBody_accepted.current
  logSpace := forgedBody_accepted.logSpace
  storable := forgedBody_accepted.storable
  clusterSize_le := by
    rw [leader_roundEvents]
    decide

theorem term_slotProposal : slotProposal.get "consensusTerm" = .num (.ofInt 1) := by
  rw [JsNumber.ofInt_eq_fin (by decide)]
  rfl

theorem index_slotProposal : slotProposal.get "index" = .num openNode.nextIndex := by
  rw [Node.nextIndex, JsNumber.ofInt_eq_fin (by decide)]
  rfl

theorem round_commits_iff_sample :
    (run (VotingRound.step appendPlatform slotProposal) ⟨openNode, []⟩ roundEvents).Commits
        appendPlatform appendClock (fun _ _ => 0) sampleAttested slotProposal (.ofInt 1) "node_1"
        (forgedBody.get "entry") ↔
      (quorumThreshold (run (VotingRound.step appendPlatform slotProposal) ⟨openNode,
          []⟩ roundEvents).leader.cluster.getClusterSize).threshold ≤
        ((run (VotingRound.step appendPlatform slotProposal) ⟨openNode, []⟩ roundEvents).supporters
          slotProposal sampleAttested).length ∧
      EachStep (VotingRound.step appendPlatform slotProposal) VotingRound.KeepsSlot ⟨openNode, []⟩
        roundEvents :=
  round_commits_iff appendPlatform appendClock (fun _ _ => 0) sampleAttested "node_1" roundEvents
    openNode_reachable term_slotProposal index_slotProposal openFor_roundEvents

/-- With the votes of enough different attested followers the round commits, whatever other
messages arrive and however many of the nodes are silent, unless a request adds to the log. -/
theorem approved_round_commits (platform : Platform) (clock : RequestClock)
    (localeCompare : String → String → ℤ) (attested : AttestationMap) (leaderId : JsValue)
    {leader : Node} {proposal entry : JsValue} {term : JsNumber} (events : List RoundEvent)
    (followers : List Follower) (hraft : leader.raft.Reachable)
    (hterm : proposal.get "consensusTerm" = .num term)
    (hindex : proposal.get "index" = .num leader.nextIndex)
    (hopen : OpenFor (run (VotingRound.step platform proposal) ⟨leader, []⟩ events).leader term
      entry)
    (hdistinct : (followers.map Follower.nodeId).Nodup)
    (hvotes : ∀ follower ∈ followers, RoundEvent.vote follower ∈ events ∧
      (follower.vote? platform proposal).isSome = true ∧
      attested.get? follower.nodeId = some follower.nodePcr0Hash)
    (henough : (quorumThreshold (run (VotingRound.step platform proposal) ⟨leader,
      []⟩ events).leader.cluster.getClusterSize).threshold ≤ followers.length)
    (hkeeps : EachStep (VotingRound.step platform proposal) VotingRound.KeepsSlot ⟨leader, []⟩
      events) :
    (run (VotingRound.step platform proposal) ⟨leader, []⟩ events).Commits platform clock
      localeCompare attested proposal term leaderId entry := by
  have hwell := @VotingRound.wellFormed_run platform proposal ⟨leader, []⟩ events hraft.wellFormed
  have hcount := @VotingRound.length_le_supporters platform proposal ⟨leader, []⟩ attested
    followers events hdistinct hvotes
  rw [VotingRound.commits_iff clock localeCompare attested leaderId hwell hopen hterm hindex]
  exact ⟨henough.trans (by exact_mod_cast hcount),
    (VotingRound.nextIndex_run_iff hopen.logSpace).2 hkeeps⟩

theorem approved_round_commits_sample :
    (run (VotingRound.step appendPlatform slotProposal) ⟨openNode, []⟩ roundEvents).Commits
      appendPlatform appendClock (fun _ _ => 0) sampleAttested slotProposal (.ofInt 1) "node_1"
      (forgedBody.get "entry") := by
  refine approved_round_commits appendPlatform appendClock (fun _ _ => 0) sampleAttested "node_1"
    roundEvents (["node_2", "node_3", "node_4"].map sampleFollower) openNode_reachable
    term_slotProposal index_slotProposal openFor_roundEvents (by decide) ?_ ?_ ?_
  · intro follower hmem
    obtain ⟨nodeId, hnode, rfl⟩ := List.mem_map.1 hmem
    simp only [List.mem_cons, List.not_mem_nil, or_false] at hnode
    rcases hnode with rfl | rfl | rfl
    · exact ⟨by simp [roundEvents], vote?_sampleFollower (by decide), rfl⟩
    · exact ⟨by simp [roundEvents], vote?_sampleFollower (by decide), rfl⟩
    · exact ⟨by simp [roundEvents], vote?_sampleFollower (by decide), rfl⟩
  · rw [leader_roundEvents]
    decide
  · have hvote (round : VotingRound) (follower : Follower) :
        round.KeepsSlot (.vote follower) := fun _ h => by cases h
    refine ⟨hvote _ _, fun _ h => (by cases h), ?_, hvote _ _, hvote _ _, trivial⟩
    rintro event h ⟨clock, body, gated, happend, -⟩
    cases h
    cases happend

end UniverEscrow.Bootstrap
