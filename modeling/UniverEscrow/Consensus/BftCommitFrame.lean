import UniverEscrow.Consensus.CommitCalls
import UniverEscrow.Js.SafeInteger
import UniverEscrow.Ledger.SaveFrame

/-!
# What a BFT commit leaves alone

A commit call with nothing else running on its ledger, whose save may throw at any of its file
operations.  A call that does not commit leaves the engine and the records as they were; one that
commits moves the commit index to its entry and writes that entry's record alone.
-/

namespace UniverEscrow.Consensus

open UniverEscrow.Js UniverEscrow.Ledger UniverEscrow.Merkle

/-- The shares of the payload are for the term and the index of the call, and `voters` are some of
them by different nodes, as many as the cluster size asks for. -/
structure VotedBy (params : BftCommitParams) (shares voters : List JsValue) : Prop where
  shares_eq : params.payload.get "shares" = .arr shares
  share : ∀ s ∈ shares, (∃ nodeId, s.get "nodeId" = .str nodeId) ∧
    (s.get "consensusTerm").isNum params.consensusTerm = true ∧
    (s.get "index").isNum params.index = true
  voters_sublist : voters.Sublist shares
  distinct : (voters.map fun s => s.get "nodeId").Nodup
  enough : (JsNumber.ofInt voters.length).lt (thresholdExpected params.clusterSize) = false
  /-- The same on integers, where the cluster size is a positive one. -/
  enough_int : ∀ n : ℤ, 1 ≤ n → n ≤ 2 ^ 53 → params.clusterSize = .ofInt n →
    2 * ((n - 1) / 3) + 1 ≤ voters.length

namespace EnclaveRaftEngine

/-- `commitToLedgerIfBftQuorum` with nothing else running, in the process that holds the ledger. -/
def commitInProcess (sha256 : Sha256) (init : InitFaults) (faults : SaveFaults)
    (updatedAt : IsoTime) (engine : EnclaveRaftEngine) (params : BftCommitParams)
    (sys : LedgerProcess) : EnclaveRaftEngine × LedgerProcess × CommitOutcome :=
  match engine.bftDecision params with
  | .error stop => (engine, sys, .stopped stop)
  | .ok entry =>
      match sys.saveRecord sha256 init faults updatedAt entry.record with
      | (sys, some failure) => (engine, sys, .saveThrew failure)
      | (sys, none) => ({ engine with commitIndex := entry.index }, sys, .committed)

/-- The call has committed the entry. -/
structure Commits (engine : EnclaveRaftEngine) (params : BftCommitParams) (sys : LedgerProcess)
    (entry : RaftLogEntry) (engine' : EnclaveRaftEngine) (sys' : LedgerProcess) : Prop where
  inLog : entry ∈ engine.log
  isEntry : indexIs entry params.entryIndex = true
  commitIndex_lt : engine.commitIndex < entry.index
  engine_eq : engine' = { engine with commitIndex := entry.index }
  leafHash : (entry.record.get "escrowRecordLeafHash").toText = some params.proposalCommitment
  /-- Records of other ids are as they were. -/
  others : ∃ transactionId, (entry.record.get "transactionId").toText = some transactionId ∧
    Ledger.others transactionId sys'.records = Ledger.others transactionId sys.records
  voted : ∃ shares voters, VotedBy params shares voters

/-- What the call leaves alone. -/
structure CommitFrame (engine : EnclaveRaftEngine) (params : BftCommitParams) (sys : LedgerProcess)
    (result : EnclaveRaftEngine × LedgerProcess × CommitOutcome) : Prop where
  unchanged : result.2.2 ≠ .committed → result.1 = engine ∧ result.2.1.records = sys.records
  /-- A call that refuses does not touch the process, and one that throws not its files. -/
  refused : ∀ stop, result.2.2 = .stopped stop → result.2.1 = sys
  threw : result.2.2 ≠ .committed → sys.chain.dir.store.storeInitialized = true →
    result.2.1.chain.dir.store.dataFiles = sys.chain.dir.store.dataFiles
  commits : result.2.2 = .committed →
    ∃ entry, Commits engine params sys entry result.1 result.2.1

/-- One share of each node that is named. -/
theorem exists_voters {shares : List JsValue}
    (h : ∀ s ∈ shares, ∃ nodeId, s.get "nodeId" = .str nodeId) :
    ∃ voters : List JsValue, voters.Sublist shares ∧
      (voters.map fun s => s.get "nodeId") = (sharedNodeIds shares).dedup.map JsValue.str := by
  induction shares with
  | nil => exact ⟨[], .slnil, rfl⟩
  | cons s shares ih =>
      rw [List.forall_mem_cons] at h
      obtain ⟨⟨nodeId, hnode⟩, hrest⟩ := h
      obtain ⟨voters, hsub, hvoters⟩ := ih hrest
      have hcons : sharedNodeIds (s :: shares) = nodeId :: sharedNodeIds shares := by
        simp [sharedNodeIds, hnode]
      rw [hcons]
      by_cases hmem : nodeId ∈ sharedNodeIds shares
      · exact ⟨voters, hsub.cons s, by rw [List.dedup_cons_of_mem hmem, hvoters]⟩
      · refine ⟨s :: voters, hsub.cons_cons s, ?_⟩
        rw [List.dedup_cons_of_notMem hmem, List.map_cons, List.map_cons, hnode, hvoters]

theorem le_of_threshold {clusterSize : JsNumber} {count : ℕ}
    (h : (JsNumber.ofInt count).lt (thresholdExpected clusterSize) = false) {n : ℤ} (hpos : 1 ≤ n)
    (hn : n ≤ 2 ^ 53) (hsize : clusterSize = .ofInt n) : 2 * ((n - 1) / 3) + 1 ≤ count := by
  by_contra hfew
  have hthreshold : (quorumThreshold n).threshold = 2 * ((n - 1) / 3) + 1 := rfl
  have hlt : (JsNumber.ofInt count).lt (thresholdExpected clusterSize) = true := by
    rw [hsize, thresholdExpected_ofInt hpos hn, hthreshold,
      JsNumber.lt_ofInt (by rw [abs_le]; omega) (by rw [abs_le]; omega)]
    omega
  rw [h] at hlt
  cases hlt

/-- A complete payload has been voted for. -/
theorem exists_votedBy {params : BftCommitParams} {shares : List JsValue}
    (h : CompletePayload params.payload params.clusterSize params.consensusTerm params.index
      shares) : ∃ voters, VotedBy params shares voters := by
  obtain ⟨voters, hsub, hvoters⟩ := exists_voters fun s hs => (h.share s hs).1
  have hcount : voters.length = (sharedNodeIds shares).dedup.length := by
    have hlength := congrArg List.length hvoters
    rwa [List.length_map, List.length_map] at hlength
  have henough := h.nodeIds
  rw [← hcount] at henough
  refine ⟨voters, h.shares_eq, h.share, hsub, ?_, henough, fun n hpos hn hsize =>
    le_of_threshold henough hpos hn hsize⟩
  rw [hvoters]
  exact (List.nodup_dedup _).map fun _ _ heq => JsValue.str.inj heq

/-- A call that refuses does nothing. -/
theorem commitFrame_stopped (engine : EnclaveRaftEngine) (params : BftCommitParams)
    (sys : LedgerProcess) (stop : CommitStop) :
    CommitFrame engine params sys (engine, sys, .stopped stop) where
  unchanged := fun _ => ⟨rfl, rfl⟩
  refused := fun _ _ => rfl
  threw := fun _ _ => rfl
  commits := by
    intro hcommitted
    cases hcommitted

section

variable {sha256 : Sha256} {init : InitFaults} {faults : SaveFaults} {updatedAt : IsoTime}
  {engine : EnclaveRaftEngine} {params : BftCommitParams} {sys after : LedgerProcess}
  {entry : RaftLogEntry}

theorem commitFrame_saveThrew (hinit : init.Truthful) {failure : SaveFailure}
    (hsave : sys.saveRecord sha256 init faults updatedAt entry.record = (after, some failure)) :
    CommitFrame engine params sys (engine, after, .saveThrew failure) := by
  have hthrows : (sys.saveRecord sha256 init faults updatedAt entry.record).2 ≠ none := by
    rw [hsave]
    exact Option.some_ne_none _
  have hkept := LedgerProcess.saveRecord_throws hinit hthrows
  rw [hsave] at hkept
  exact
    { unchanged := fun _ => ⟨rfl, hkept.1⟩
      refused := by intro stop hstop; cases hstop
      threw := fun _ => hkept.2
      commits := by intro hcommitted; cases hcommitted }

theorem commitFrame_committed (hinit : init.Truthful)
    (hdecision : engine.bftDecision params = .ok entry)
    (hsave : sys.saveRecord sha256 init faults updatedAt entry.record = (after, none)) :
    CommitFrame engine params sys
      ({ engine with commitIndex := entry.index }, after, .committed) := by
  obtain ⟨hfound, hbelow, hpayload⟩ := bftDecision_eq_ok.1 hdecision
  obtain ⟨hmem, hindex⟩ := findEntry_eq_ok hfound
  obtain ⟨-, ⟨-, hleaf⟩, shares, hcomplete⟩ := checkPayload_eq_ok.1 hpayload
  have hresolves : (sys.saveRecord sha256 init faults updatedAt entry.record).2 = none := by
    rw [hsave]
  have hothers := LedgerProcess.saveRecord_resolves hinit hresolves
  rw [hsave] at hothers
  exact
    { unchanged := fun hne => absurd rfl hne
      refused := by intro stop hstop; cases hstop
      threw := fun hne => absurd rfl hne
      commits := fun _ => ⟨entry,
        { inLog := hmem
          isEntry := hindex
          commitIndex_lt := hbelow
          engine_eq := rfl
          leafHash := hleaf
          others := hothers
          voted := ⟨shares, exists_votedBy hcomplete⟩ }⟩ }

end

/-- A BFT commit call that refuses or throws changes neither engine nor ledger; one that commits
has been voted for, moves the commit index up to its entry and writes no other record. -/
theorem bft_commit_frame (sha256 : Sha256) (init : InitFaults) (faults : SaveFaults)
    (updatedAt : IsoTime) (engine : EnclaveRaftEngine) (params : BftCommitParams)
    (sys : LedgerProcess) (hinit : init.Truthful) :
    CommitFrame engine params sys
      (engine.commitInProcess sha256 init faults updatedAt params sys) := by
  unfold commitInProcess
  cases hdecision : engine.bftDecision params with
  | error stop => exact commitFrame_stopped engine params sys stop
  | ok entry =>
      cases hsave : sys.saveRecord sha256 init faults updatedAt entry.record with
      | mk after failure =>
          cases failure with
          | some failure =>
              simp only [hsave]
              exact commitFrame_saveThrew hinit hsave
          | none =>
              simp only [hsave]
              exact commitFrame_committed hinit hdecision hsave

theorem bft_commit_frame_regression :
    InitFaults.none.Truthful ∧
      CommitFrame regressionEngine (commitWithSharesFor 1) (.boot freshDir)
        (regressionEngine.commitInProcess raceSha256 .none .none sampleTime (commitWithSharesFor 1)
          (.boot freshDir)) :=
  ⟨InitFaults.none_truthful,
    bft_commit_frame raceSha256 .none .none sampleTime regressionEngine (commitWithSharesFor 1)
      (.boot freshDir) InitFaults.none_truthful⟩

/-- The call of the sample commits. -/
example : (regressionEngine.commitInProcess raceSha256 .none .none sampleTime
    (commitWithSharesFor 1) (.boot freshDir)).2.2 = .committed := by
  decide +kernel

/-- Where the rename of its save fails it rejects. -/
example : (regressionEngine.commitInProcess raceSha256 .none renameFault sampleTime
    (commitWithSharesFor 1) (.boot freshDir)).2.2 = .saveThrew .platformError := by
  decide +kernel

end EnclaveRaftEngine

end UniverEscrow.Consensus
