import UniverEscrow.Consensus.EnclaveRaftEngine
import UniverEscrow.Ledger.LedgerAuditor

/-!
# Commit calls

A commit call tests its arguments and the commit index, waits for the save of the record, and
then sets the commit index.  First what a call that commits has tested of the slot it commits;
then calls that overlap while their saves are under way.
-/

namespace UniverEscrow.Consensus

open UniverEscrow.Js UniverEscrow.Ledger UniverEscrow.Merkle UniverEscrow.Lib.Run

/-- How a commit call ends. -/
inductive CommitOutcome where
  | committed
  | stopped (stop : CommitStop)
  | saveThrew (failure : SaveFailure)
deriving DecidableEq

namespace EnclaveRaftEngine

/-- The part of a commit call behind its checks, with nothing else running. -/
def saveAndCommit (sha256 : Sha256) (updatedAt : IsoTime) (engine : EnclaveRaftEngine)
    (decision : Except CommitStop RaftLogEntry) (store : Store) :
    EnclaveRaftEngine × Store × CommitOutcome :=
  match decision with
  | .error stop => (engine, store, .stopped stop)
  | .ok entry =>
      match saveRecord sha256 updatedAt entry.record store with
      | (store, some failure) => (engine, store, .saveThrew failure)
      | (store, none) => ({ engine with commitIndex := entry.index }, store, .committed)

def commitToLedgerIfQuorum (sha256 : Sha256) (updatedAt : IsoTime) (engine : EnclaveRaftEngine)
    (entryIndex : JsNumber) (quorum : QuorumAckMatrix) (store : Store) :
    EnclaveRaftEngine × Store × CommitOutcome :=
  engine.saveAndCommit sha256 updatedAt (engine.quorumDecision entryIndex quorum) store

def commitToLedgerIfBftQuorum (sha256 : Sha256) (updatedAt : IsoTime)
    (engine : EnclaveRaftEngine) (params : BftCommitParams) (store : Store) :
    EnclaveRaftEngine × Store × CommitOutcome :=
  engine.saveAndCommit sha256 updatedAt (engine.bftDecision params) store

variable {sha256 : Sha256} {updatedAt : IsoTime} {engine : EnclaveRaftEngine}
  {params : BftCommitParams} {store : Store}

/-- A call answers `committed: true` only past its checks. -/
theorem saveAndCommit_committed {decision : Except CommitStop RaftLogEntry}
    (h : (engine.saveAndCommit sha256 updatedAt decision store).2.2 = .committed) :
    ∃ entry, decision = .ok entry := by
  cases decision with
  | error stop => cases h
  | ok entry => exact ⟨entry, rfl⟩

/-! ## The slot a commit binds -/

/-- Every share of the payload is for the index given and for the term the entry is stored
under. -/
def SharesBindEntry (payload : JsValue) (entryIndex : JsNumber) (entry : RaftLogEntry) : Prop :=
  ∃ shares, payload.get "shares" = .arr shares ∧ ∀ share ∈ shares,
    (share.get "index").isNum entryIndex = true ∧
      (share.get "consensusTerm").isNum entry.term = true

theorem isNum_iff {v : JsValue} {n : JsNumber} : v.isNum n = true ↔ v = .num n ∧ n ≠ .nan := by
  cases v with
  | num m =>
      simp only [JsValue.isNum, JsNumber.strictEq, Bool.and_eq_true, decide_eq_true_eq,
        JsValue.num.injEq]
      constructor
      · rintro ⟨hm, rfl⟩
        exact ⟨rfl, hm⟩
      · rintro ⟨rfl, hm⟩
        exact ⟨hm, rfl⟩
  | _ => simp [JsValue.isNum]

theorem eq_of_isNum {v : JsValue} {m n : JsNumber} (hm : v.isNum m = true)
    (hn : v.isNum n = true) : m = n := by
  have hv := (isNum_iff.1 hm).1
  rw [(isNum_iff.1 hn).1] at hv
  exact (JsValue.num.inj hv).symm

/-- The shares of a complete payload are for the slot of its entry exactly if the call was made
for that slot. -/
theorem CompletePayload.sharesBindEntry_iff {payload : JsValue}
    {clusterSize consensusTerm index entryIndex : JsNumber} {shares : List JsValue}
    (h : CompletePayload payload clusterSize consensusTerm index shares) (entry : RaftLogEntry) :
    SharesBindEntry payload entryIndex entry ↔ index = entryIndex ∧ consensusTerm = entry.term := by
  constructor
  · rintro ⟨_, hshares, hbind⟩
    cases h.shares_eq.symm.trans hshares
    obtain ⟨share, hmem⟩ := List.exists_mem_of_ne_nil _ h.shares_ne
    obtain ⟨-, hterm, hindex⟩ := h.share share hmem
    obtain ⟨hindex', hterm'⟩ := hbind share hmem
    exact ⟨eq_of_isNum hindex hindex', eq_of_isNum hterm hterm'⟩
  · rintro ⟨rfl, rfl⟩
    refine ⟨shares, h.shares_eq, fun share hmem => ?_⟩
    obtain ⟨-, hterm, hindex⟩ := h.share share hmem
    exact ⟨hindex, hterm⟩

/-- A call that commits has shares for the entry's own index and term exactly if its `index` is
its `entryIndex` and its `consensusTerm` the term the entry is stored under. -/
theorem commit_binds_entry_iff (sha256 : Sha256) (updatedAt : IsoTime)
    (engine : EnclaveRaftEngine) (params : BftCommitParams) (store : Store)
    (hcommitted : (engine.commitToLedgerIfBftQuorum sha256 updatedAt params store).2.2 =
      .committed) :
    ∃ entry, engine.findEntry params.entryIndex = .ok entry ∧
      (SharesBindEntry params.payload params.entryIndex entry ↔
        params.index = params.entryIndex ∧ params.consensusTerm = entry.term) := by
  obtain ⟨entry, hdecision⟩ := saveAndCommit_committed hcommitted
  obtain ⟨hfound, -, hpayload⟩ := bftDecision_eq_ok.1 hdecision
  obtain ⟨-, -, shares, hcomplete⟩ := checkPayload_eq_ok.1 hpayload
  exact ⟨entry, hfound, hcomplete.sharesBindEntry_iff entry⟩

theorem saveAndCommit_of_storable {decision : Except CommitStop RaftLogEntry}
    {entry : RaftLogEntry} (hdecision : decision = .ok entry)
    (hstorable : Storable entry.record store) :
    (engine.saveAndCommit sha256 updatedAt decision store).2.2 = .committed := by
  have hsaved : (saveRecord sha256 updatedAt entry.record store).2 = none :=
    saveRecord_succeeds_iff.2 hstorable
  subst hdecision
  unfold saveAndCommit
  split
  · rename_i hstop
    cases hstop
  · rename_i saved hsaved'
    cases hsaved'
    split
    · rename_i failure hfailure
      rw [hfailure] at hsaved
      cases hsaved
    · rfl

def regressionRecord : JsValue :=
  .obj [("transactionId", "tx_bft_split_brain_0001"),
    ("escrowRecordLeafHash", "commitment_valid"),
    ("signature", "rsa_signature_mock"),
    ("status", "LOCKED"),
    ("validAfterMs", .num (.ofInt 0)),
    ("validUntilMs", .num (.ofInt 9999999999)),
    ("timestamp", "2025-06-01T12:00:00.000Z")]

def regressionEntry : RaftLogEntry := ⟨.ofInt 7, 1, regressionRecord⟩

def regressionEngine : EnclaveRaftEngine where
  currentTerm := .ofInt 7
  log := [regressionEntry]
  commitIndex := 0
  failClosed := true

def shareOf (index : ℤ) (nodeId : String) : JsValue :=
  .obj [("nodeId", nodeId), ("consensusTerm", .num (.ofInt 7)), ("index", .num (.ofInt index))]

/-- A commit of entry 1 with the shares of a cluster of four for the index given. -/
def commitWithSharesFor (index : ℤ) : BftCommitParams where
  entryIndex := .ofInt 1
  clusterSize := .ofInt 4
  proposalCommitment := "commitment_valid"
  consensusTerm := .ofInt 7
  index := .ofInt index
  payload := .obj [("clusterSize", .num (.ofInt 4)),
    ("f", .num (.ofInt 1)),
    ("threshold", .num (.ofInt 3)),
    ("uniqueNodeIds", .arr ["node_1", "node_2", "node_3", "node_4"]),
    ("shares", .arr [shareOf index "node_1", shareOf index "node_2", shareOf index "node_3",
      shareOf index "node_4"])]

theorem findEntry_regression : regressionEngine.findEntry (.ofInt 1) = .ok regressionEntry := by
  have hindex : indexIs regressionEntry (.ofInt ((1 : ℕ) : ℤ)) = true :=
    (indexIs_ofInt (by norm_num)).2 rfl
  simp only [findEntry, regressionEngine, List.find?_cons]
  rw [show indexIs regressionEntry (.ofInt 1) = true from hindex]

theorem complete_commitWithSharesFor {index : ℤ} (hindex : |index| ≤ 2 ^ 53) :
    CompletePayload (commitWithSharesFor index).payload (.ofInt 4) (.ofInt 7) (.ofInt index)
      [shareOf index "node_1", shareOf index "node_2", shareOf index "node_3",
        shareOf index "node_4"] where
  clusterSize_eq := by
    change (JsValue.num (.ofInt 4)).isNum (.ofInt 4) = true
    decide +kernel
  f_eq := by
    change (JsValue.num (.ofInt 1)).isNum (fExpected (.ofInt 4)) = true
    decide +kernel
  threshold_eq := by
    change (JsValue.num (.ofInt 3)).isNum (thresholdExpected (.ofInt 4)) = true
    decide +kernel
  uniqueNodeIds := by
    change lengthBelow (.arr ["node_1", "node_2", "node_3", "node_4"])
      (thresholdExpected (.ofInt 4)) = .ok false
    decide +kernel
  shares_eq := rfl
  shares_ne := by simp
  shares_length := by
    change (JsNumber.ofInt 4).lt (thresholdExpected (.ofInt 4)) = false
    decide +kernel
  share := by
    intro share hmem
    have hnum : (JsValue.num (.ofInt index)).isNum (.ofInt index) = true :=
      isNum_iff.2 ⟨rfl, by rw [JsNumber.ofInt_eq_fin hindex]; simp⟩
    have hterm : (JsValue.num (.ofInt 7)).isNum (.ofInt 7) = true := by decide +kernel
    simp only [List.mem_cons, List.not_mem_nil, or_false] at hmem
    rcases hmem with rfl | rfl | rfl | rfl <;> exact ⟨⟨_, rfl⟩, hterm, hnum⟩
  nodeIds := by
    change (JsNumber.ofInt (["node_1", "node_2", "node_3", "node_4"] : List NodeId).dedup.length).lt
      (thresholdExpected (.ofInt 4)) = false
    decide +kernel

theorem commitWithSharesFor_committed (sha256 : Sha256) (updatedAt : IsoTime) {index : ℤ}
    (hindex : |index| ≤ 2 ^ 53) :
    (regressionEngine.commitToLedgerIfBftQuorum sha256 updatedAt (commitWithSharesFor index)
      freshAuditor.store).2.2 = .committed := by
  have hstorable : Storable regressionEntry.record freshAuditor.store :=
    ⟨rfl, [], _, _, rfl, rfl, rfl⟩
  refine saveAndCommit_of_storable ?_ hstorable
  refine bftDecision_eq_ok.2 ⟨findEntry_regression, Nat.zero_lt_one, ?_⟩
  exact checkPayload_eq_ok.2 ⟨rfl, ⟨rfl, rfl⟩, _, complete_commitWithSharesFor hindex⟩

theorem commit_binds_entry_iff_regression :
    ∃ entry, regressionEngine.findEntry (commitWithSharesFor 1).entryIndex = .ok entry ∧
      (SharesBindEntry (commitWithSharesFor 1).payload (commitWithSharesFor 1).entryIndex entry ↔
        (commitWithSharesFor 1).index = (commitWithSharesFor 1).entryIndex ∧
          (commitWithSharesFor 1).consensusTerm = entry.term) :=
  commit_binds_entry_iff (fun _ => emptyRoot) sampleTime regressionEngine (commitWithSharesFor 1)
    freshAuditor.store (commitWithSharesFor_committed _ _ (by norm_num))

/-- Entry 1 is committed with shares for index 10. -/
theorem shares_for_other_slot_commit :
    (∀ (sha256 : Sha256) (updatedAt : IsoTime),
      (regressionEngine.commitToLedgerIfBftQuorum sha256 updatedAt (commitWithSharesFor 10)
        freshAuditor.store).2.2 = .committed) ∧
    ∃ entry, regressionEngine.findEntry (commitWithSharesFor 10).entryIndex = .ok entry ∧
      ¬ SharesBindEntry (commitWithSharesFor 10).payload (commitWithSharesFor 10).entryIndex
        entry := by
  refine ⟨fun sha256 updatedAt => commitWithSharesFor_committed sha256 updatedAt (by norm_num),
    regressionEntry, findEntry_regression, ?_⟩
  rw [(complete_commitWithSharesFor (by norm_num)).sharesBindEntry_iff]
  rintro ⟨hindex, -⟩
  exact absurd hindex (by decide +kernel)

end EnclaveRaftEngine

end UniverEscrow.Consensus
