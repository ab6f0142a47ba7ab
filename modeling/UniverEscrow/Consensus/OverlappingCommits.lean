import UniverEscrow.Consensus.CommitCalls

/-!
# Overlapping commits

Between its checks and the update of the commit index a commit call waits for a save, and other
calls run.  The index is not tested again after the wait.
-/

namespace UniverEscrow.Consensus

open UniverEscrow.Js UniverEscrow.Lib.Run

/-- The engine, the entries of the calls that wait for their save, and the entries whose calls
have answered `committed: true`, latest first. -/
structure OverlapHistory where
  engine : EnclaveRaftEngine
  waiting : List RaftLogEntry
  committed : List RaftLogEntry

inductive OverlapEvent where
  | call (call : RaftCall)
  /-- The save the `i`-th waiting call waits for resolves, or rejects. -/
  | settle (i : ℕ) (resolved : Bool)

namespace OverlapHistory

def start (engine : EnclaveRaftEngine) : OverlapHistory := ⟨engine.resetEngine, [], []⟩

def step (history : OverlapHistory) : OverlapEvent → OverlapHistory
  | .call (.appendLocalLog record) =>
      { history with engine := history.engine.appendLocalLog record }
  | .call call =>
      { history with waiting := history.waiting ++ (call.commits? history.engine).toList }
  | .settle i resolved =>
      match history.waiting[i]? with
      | none => history
      | some entry =>
          if resolved then
            { engine := { history.engine with commitIndex := entry.index }
              waiting := history.waiting.eraseIdx i
              committed := entry :: history.committed }
          else { history with waiting := history.waiting.eraseIdx i }

/-- At most one call for each log index has answered `committed: true`. -/
def Exclusive (history : OverlapHistory) : Prop :=
  (history.committed.map RaftLogEntry.index).Nodup

def Advances (history : OverlapHistory) (event : OverlapEvent) : Prop :=
  history.engine.commitIndex ≤ (history.step event).engine.commitIndex

/-- The save of a call resolves when the commit index has reached the call's entry. -/
def Overtaken (history : OverlapHistory) (event : OverlapEvent) : Prop :=
  ∃ i entry, event = .settle i true ∧ history.waiting[i]? = some entry ∧
    entry.index ≤ history.engine.commitIndex

structure WellFormed (history : OverlapHistory) : Prop extends
    EnclaveRaftEngine.WellFormed history.engine where
  waiting_mem : ∀ entry ∈ history.waiting, entry ∈ history.engine.log
  committed_le : ∀ entry ∈ history.committed, entry.index ≤ history.engine.commitIndex
  /-- A commit index other than zero is that of a committed entry. -/
  attained : history.engine.commitIndex = 0 ∨
    history.engine.commitIndex ∈ history.committed.map RaftLogEntry.index

/-- A commit call goes no further than its save. -/
theorem step_call_of_commit {history : OverlapHistory} {call : RaftCall}
    (hcall : ∀ record, call ≠ .appendLocalLog record) :
    ¬ Overtaken history (.call call) ∧
      ∃ waiting, (∀ entry ∈ waiting, entry ∈ history.waiting ∨ entry ∈ history.engine.log) ∧
        history.step (.call call) = { history with waiting := waiting } := by
  refine ⟨?_, history.waiting ++ (call.commits? history.engine).toList, ?_, ?_⟩
  · rintro ⟨i, entry, hevent, -⟩
    cases hevent
  · intro entry hentry
    rcases List.mem_append.1 hentry with hentry | hentry
    · exact .inl hentry
    · exact .inr (RaftHistory.commits?_spec (Option.mem_toList.1 hentry)).1
  · cases call with
    | appendLocalLog record => exact absurd rfl (hcall record)
    | commitToLedgerIfQuorum entryIndex quorum => rfl
    | commitToLedgerIfBftQuorum params => rfl

theorem step_cases (history : OverlapHistory) (event : OverlapEvent) :
    (∃ record, event = .call (.appendLocalLog record) ∧
      history.step event = { history with engine := history.engine.appendLocalLog record }) ∨
    (∃ i entry, event = .settle i true ∧ history.waiting[i]? = some entry ∧
      history.step event = { engine := { history.engine with commitIndex := entry.index }
                             waiting := history.waiting.eraseIdx i
                             committed := entry :: history.committed }) ∨
    (¬ Overtaken history event ∧ ∃ waiting, (∀ entry ∈ waiting, entry ∈ history.waiting ∨
        entry ∈ history.engine.log) ∧
      history.step event = { history with waiting := waiting }) := by
  cases event with
  | call call =>
      cases call with
      | appendLocalLog record => exact .inl ⟨record, rfl, rfl⟩
      | commitToLedgerIfQuorum entryIndex quorum =>
          exact .inr (.inr (step_call_of_commit fun record h => by cases h))
      | commitToLedgerIfBftQuorum params =>
          exact .inr (.inr (step_call_of_commit fun record h => by cases h))
  | settle i resolved =>
      cases hwaiting : history.waiting[i]? with
      | none =>
          refine .inr (.inr ⟨?_, history.waiting, fun entry h => .inl h, ?_⟩)
          · rintro ⟨j, entry, hevent, hentry, -⟩
            cases hevent
            rw [hwaiting] at hentry
            cases hentry
          · simp [step, hwaiting]
      | some entry =>
          cases resolved with
          | true => exact .inr (.inl ⟨i, entry, rfl, hwaiting, by simp [step, hwaiting]⟩)
          | false =>
              refine .inr (.inr ⟨?_, history.waiting.eraseIdx i,
                fun entry h => .inl (List.mem_of_mem_eraseIdx h), by simp [step, hwaiting]⟩)
              rintro ⟨j, entry', hevent, -⟩
              cases hevent

theorem wellFormed_start (engine : EnclaveRaftEngine) : (start engine).WellFormed where
  indices := rfl
  commitIndex_le := Nat.le_refl 0
  waiting_mem := by simp [start]
  committed_le := by simp [start]
  attained := .inl rfl

theorem WellFormed.step {history : OverlapHistory} (h : history.WellFormed)
    {event : OverlapEvent} (hadvances : history.Advances event) :
    (history.step event).WellFormed := by
  unfold Advances at hadvances
  obtain ⟨record, -, heq⟩ | ⟨i, entry, -, hwaiting, heq⟩ | ⟨-, waiting, hmem, heq⟩ :=
    step_cases history event
  · rw [heq]
    refine ⟨h.toWellFormed.appendLocalLog record, ?_, h.committed_le, h.attained⟩
    intro entry hentry
    exact List.mem_append_left _ (h.waiting_mem entry hentry)
  · rw [heq] at hadvances ⊢
    have hlog := h.waiting_mem entry (List.mem_of_getElem? hwaiting)
    refine ⟨h.toWellFormed.commit hlog, ?_, ?_, .inr List.mem_cons_self⟩
    · intro e he
      exact h.waiting_mem e (List.mem_of_mem_eraseIdx he)
    · intro e he
      rcases List.mem_cons.1 he with rfl | he
      · exact Nat.le_refl _
      · exact (h.committed_le e he).trans hadvances
  · rw [heq]
    refine ⟨h.toWellFormed, ?_, h.committed_le, h.attained⟩
    intro entry hentry
    exact (hmem entry hentry).elim (h.waiting_mem entry) id

/-- A step keeps the commit index from falling and the commits exclusive exactly unless the
call it ends has been overtaken. -/
theorem advances_exclusive_iff {history : OverlapHistory} (h : history.WellFormed)
    (hexclusive : history.Exclusive) (event : OverlapEvent) :
    history.Advances event ∧ (history.step event).Exclusive ↔ ¬ history.Overtaken event := by
  obtain ⟨record, rfl, heq⟩ | ⟨i, entry, rfl, hwaiting, heq⟩ | ⟨hnot, waiting, -, heq⟩ :=
    step_cases history event
  · have hnot : ¬ history.Overtaken (.call (.appendLocalLog record)) := by
      rintro ⟨i, entry, hevent, -⟩
      cases hevent
    refine iff_of_true ⟨?_, ?_⟩ hnot
    · unfold Advances
      rw [heq]
      exact Nat.le_refl _
    · rw [heq]
      exact hexclusive
  · have hlog := h.waiting_mem entry (List.mem_of_getElem? hwaiting)
    have hpos := (h.index_le hlog).1
    have hovertaken : history.Overtaken (.settle i true) ↔
        entry.index ≤ history.engine.commitIndex := by
      constructor
      · rintro ⟨j, entry', hevent, hentry, hle⟩
        cases hevent
        cases hwaiting.symm.trans hentry
        exact hle
      · exact fun hle => ⟨i, entry, rfl, hwaiting, hle⟩
    rw [hovertaken]
    unfold Advances Exclusive
    rw [heq]
    simp only [List.map_cons, List.nodup_cons]
    constructor
    · rintro ⟨hadvances, hfresh, -⟩ hle
      -- an index reached and not passed is that of an earlier commit
      have hindex : history.engine.commitIndex = entry.index := by omega
      rcases h.attained with hzero | hmem
      · omega
      · exact hfresh (hindex ▸ hmem)
    · intro hlt
      refine ⟨by omega, ?_, hexclusive⟩
      intro hmem
      obtain ⟨e, he, hindex⟩ := List.mem_map.1 hmem
      have := h.committed_le e he
      omega
  · refine iff_of_true ⟨?_, ?_⟩ hnot
    · unfold Advances
      rw [heq]
    · rw [heq]
      exact hexclusive

/-- A call whose save settles before anything else runs is the step of a call. -/
theorem settle_call (history : RaftHistory) (call : RaftCall) :
    run step ⟨history.engine, [], history.committed⟩ [.call call, .settle 0 true] =
      ⟨(history.step call).engine, [], (history.step call).committed⟩ := by
  cases hcommits : call.commits? history.engine with
  | none =>
      cases call <;> simp [step, RaftHistory.step, hcommits]
  | some entry =>
      cases call with
      | appendLocalLog record => cases hcommits
      | commitToLedgerIfQuorum entryIndex quorum => simp [step, RaftHistory.step, hcommits]
      | commitToLedgerIfBftQuorum params => simp [step, RaftHistory.step, hcommits]

/-- From a reset engine the commit index never falls and no index is committed twice, exactly
if no save of the run resolves when the commit index has reached the entry of its call. -/
theorem commits_exclusive_iff (engine : EnclaveRaftEngine) (events : List OverlapEvent) :
    EachStep step Advances (start engine) events ∧
        Throughout step Exclusive (start engine) events ↔
      EachStep step (fun history event => ¬ history.Overtaken event) (start engine) events :=
  eachStep_and_throughout_iff WellFormed (fun _ _ h hadvances => h.step hadvances)
    (fun _ event h hexclusive => advances_exclusive_iff h hexclusive event)
    (wellFormed_start engine) List.nodup_nil

/-! ## Two commits at once -/

/-- One acknowledgement in a cluster of one. -/
def singleAck : QuorumAckMatrix := ⟨.ofInt 1, .ofInt 1⟩

def commitOf (entryIndex : ℤ) : OverlapEvent :=
  .call (.commitToLedgerIfQuorum (.ofInt entryIndex) singleAck)

def twoAppends : List OverlapEvent :=
  [.call (.appendLocalLog (sampleLogRecord "tx_1")),
    .call (.appendLocalLog (sampleLogRecord "tx_2"))]

def initialEngine : EnclaveRaftEngine where
  currentTerm := .ofInt 0
  log := []
  commitIndex := 0
  failClosed := true

/-- Entry 1 is committed by a call that started after the one for entry 2, or by two calls. -/
def lateCommit : List OverlapEvent :=
  twoAppends ++ [commitOf 2, commitOf 1, .settle 0 true, .settle 0 true]

def doubleCommit : List OverlapEvent :=
  twoAppends ++ [commitOf 1, commitOf 1, .settle 0 true, .settle 0 true]

theorem overlapping_commits_break_index :
    ((run step (start initialEngine) (lateCommit.take 5)).engine.commitIndex = 2 ∧
      (run step (start initialEngine) lateCommit).engine.commitIndex = 1) ∧
    (run step (start initialEngine) doubleCommit).committed.map RaftLogEntry.index = [1, 1] := by
  decide +kernel

end OverlapHistory

end UniverEscrow.Consensus
