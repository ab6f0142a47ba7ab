import UniverEscrow.Consensus.EnclaveBftVerifyEngine
import UniverEscrow.Lib.Run

/-!
# The in-repo Raft engine

The log, the two commit paths and what a commit leaves behind.  Log indices and the commit
index are counted in ℕ; the entry index of a commit call is any Number and has to equal the
index of a log entry exactly.
-/

namespace UniverEscrow.Consensus

open UniverEscrow.Js

structure RaftLogEntry where
  term : JsNumber
  index : ℕ
  record : JsValue

structure EnclaveRaftEngine where
  currentTerm : JsNumber
  log : List RaftLogEntry
  commitIndex : ℕ
  failClosed : Bool

structure QuorumAckMatrix where
  ackCount : JsNumber
  clusterSize : JsNumber

/-- The payload is whatever the caller received. -/
structure BftCommitParams where
  entryIndex : JsNumber
  clusterSize : JsNumber
  proposalCommitment : String
  consensusTerm : JsNumber
  index : JsNumber
  payload : JsValue

/-- How a commit call ends without a commit: with a reason, or by throwing. -/
inductive CommitStop where
  | refused (reason : String)
  | thrown (message : String)
deriving DecidableEq

def refuseUnless (holds : Bool) (reason : String) : Except CommitStop Unit :=
  if holds then .ok () else .error (.refused reason)

/-- `v.key`, which throws on `undefined` and `null`. -/
def readMember (v : JsValue) (key : String) : Except CommitStop JsValue :=
  match v with
  | .undefined =>
      .error (.thrown ("Cannot read properties of undefined (reading '" ++ key ++ "')"))
  | .null => .error (.thrown ("Cannot read properties of null (reading '" ++ key ++ "')"))
  | v => .ok (v.get key)

def coerceOrThrow {α : Type} (coerced : Option α) : Except CommitStop α :=
  match coerced with
  | some a => .ok a
  | none => .error (.thrown "Cannot convert object to primitive value")

/-- `v.length < bound`. -/
def lengthBelow (v : JsValue) (bound : JsNumber) : Except CommitStop Bool := do
  let length ← readMember v "length"
  let n ← coerceOrThrow length.toNumber
  return n.lt bound

def shareNodeIds (consensusTerm index : JsNumber) : List JsValue → Except CommitStop (List NodeId)
  | [] => .ok []
  | s :: shares => do
      match s.get "nodeId" with
      | .str nodeId =>
          refuseUnless ((s.get "consensusTerm").isNum consensusTerm) "SHARE_TERM_MISMATCH"
          refuseUnless ((s.get "index").isNum index) "SHARE_INDEX_MISMATCH"
          let rest ← shareNodeIds consensusTerm index shares
          return nodeId :: rest
      | _ => .error (.refused "MALFORMED_SHARE")

namespace EnclaveRaftEngine

def resetEngine (engine : EnclaveRaftEngine) : EnclaveRaftEngine :=
  { engine with currentTerm := .ofInt 0, log := [], commitIndex := 0 }

def requiredQuorumAcks (clusterSize : JsNumber) : JsNumber :=
  ((clusterSize.div (.ofInt 2)).floor).add (.ofInt 1)

def hasQuorum (quorum : QuorumAckMatrix) : Bool :=
  (requiredQuorumAcks quorum.clusterSize).le quorum.ackCount

def newEntry (engine : EnclaveRaftEngine) (record : JsValue) : RaftLogEntry where
  term := engine.currentTerm
  index := engine.log.length + 1
  record := record

def appendLocalLog (engine : EnclaveRaftEngine) (record : JsValue) : EnclaveRaftEngine :=
  { engine with log := engine.log ++ [engine.newEntry record] }

def indexIs (e : RaftLogEntry) (entryIndex : JsNumber) : Bool :=
  match entryIndex with
  | .fin x => x.val = e.index
  | _ => false

/-- `this.log.find((e) => e.index === entryIndex)`. -/
def findEntry (engine : EnclaveRaftEngine) (entryIndex : JsNumber) :
    Except CommitStop RaftLogEntry :=
  match engine.log.find? fun e => indexIs e entryIndex with
  | some entry => .ok entry
  | none => .error (.refused "MISSING_ENTRY")

/-- The checks of `commitToLedgerIfQuorum`; the entry it returns is saved and committed. -/
def quorumDecision (engine : EnclaveRaftEngine) (entryIndex : JsNumber)
    (quorum : QuorumAckMatrix) : Except CommitStop RaftLogEntry := do
  let entry ← engine.findEntry entryIndex
  refuseUnless (hasQuorum quorum || !engine.failClosed) "QUORUM_FAILED"
  refuseUnless (engine.commitIndex < entry.index) "ALREADY_COMMITTED"
  return entry

/-- The checks `commitToLedgerIfBftQuorum` makes on the payload. -/
def checkPayload (failClosed : Bool) (entry : RaftLogEntry) (params : BftCommitParams) :
    Except CommitStop Unit := do
  let payload := params.payload
  refuseUnless payload.truthy
    (if failClosed then "MISSING_BFT_PAYLOAD" else "MISSING_BFT_PAYLOAD_NON_FAIL_CLOSED")
  let threshold := thresholdExpected params.clusterSize
  refuseUnless ((payload.get "clusterSize").isNum params.clusterSize)
    "PAYLOAD_CLUSTER_SIZE_MISMATCH"
  refuseUnless ((payload.get "f").isNum (fExpected params.clusterSize)) "PAYLOAD_F_MISMATCH"
  refuseUnless ((payload.get "threshold").isNum threshold) "PAYLOAD_THRESHOLD_MISMATCH"
  let tooFewIds ← lengthBelow (payload.get "uniqueNodeIds") threshold
  refuseUnless (!tooFewIds) "BFT_THRESHOLD_NOT_REACHED"
  let shares := payload.get "shares"
  let tooFewShares ← lengthBelow shares threshold
  refuseUnless (!tooFewShares) "BFT_THRESHOLD_NOT_REACHED"
  let leafHash ← readMember entry.record "escrowRecordLeafHash"
  let leafText ← coerceOrThrow leafHash.toText
  refuseUnless (leafText = params.proposalCommitment) "COMMITMENT_RECORD_MISMATCH"
  refuseUnless ((shares.head.get "consensusTerm").isNum params.consensusTerm)
    "CONSENSUS_TERM_MISMATCH"
  refuseUnless ((shares.head.get "index").isNum params.index) "INDEX_MISMATCH"
  match shares.iterate? with
  | none => .error (.thrown "payload.shares is not iterable")
  | some items => do
      let nodeIds ← shareNodeIds params.consensusTerm params.index items
      refuseUnless (!(JsNumber.ofInt nodeIds.dedup.length).lt threshold)
        "BFT_THRESHOLD_NOT_REACHED"

/-- The checks of `commitToLedgerIfBftQuorum`; the entry it returns is saved and committed. -/
def bftDecision (engine : EnclaveRaftEngine) (params : BftCommitParams) :
    Except CommitStop RaftLogEntry := do
  let entry ← engine.findEntry params.entryIndex
  refuseUnless (engine.commitIndex < entry.index) "ALREADY_COMMITTED"
  checkPayload engine.failClosed entry params
  return entry

/-! ## What a decision to commit rests on -/

def sharedNodeIds (shares : List JsValue) : List NodeId :=
  shares.filterMap fun s => (s.get "nodeId").asString?

/-- The payload is complete for the cluster size it states itself: the derived sizes are right
and enough different nodes are named, all for the term and the index. -/
structure CompletePayload (payload : JsValue) (clusterSize consensusTerm index : JsNumber)
    (shares : List JsValue) : Prop where
  clusterSize_eq : (payload.get "clusterSize").isNum clusterSize = true
  f_eq : (payload.get "f").isNum (fExpected clusterSize) = true
  threshold_eq : (payload.get "threshold").isNum (thresholdExpected clusterSize) = true
  uniqueNodeIds : lengthBelow (payload.get "uniqueNodeIds") (thresholdExpected clusterSize) =
    .ok false
  shares_eq : payload.get "shares" = .arr shares
  shares_ne : shares ≠ []
  shares_length : (JsNumber.ofInt shares.length).lt (thresholdExpected clusterSize) = false
  share : ∀ s ∈ shares, (∃ nodeId, s.get "nodeId" = .str nodeId) ∧
    (s.get "consensusTerm").isNum consensusTerm = true ∧ (s.get "index").isNum index = true
  nodeIds : (JsNumber.ofInt (sharedNodeIds shares).dedup.length).lt
    (thresholdExpected clusterSize) = false

@[simp] theorem refuseUnless_eq_ok {holds : Bool} {reason : String} {u : Unit} :
    refuseUnless holds reason = .ok u ↔ holds = true := by
  cases holds <;> simp [refuseUnless]

theorem shareNodeIds_eq_ok {consensusTerm index : JsNumber} {shares : List JsValue}
    {nodeIds : List NodeId} :
    shareNodeIds consensusTerm index shares = .ok nodeIds ↔
      (∀ s ∈ shares, (∃ nodeId, s.get "nodeId" = .str nodeId) ∧
        (s.get "consensusTerm").isNum consensusTerm = true ∧
        (s.get "index").isNum index = true) ∧
      nodeIds = sharedNodeIds shares := by
  induction shares generalizing nodeIds with
  | nil =>
      constructor
      · rintro ⟨⟩
        exact ⟨by simp, rfl⟩
      · rintro ⟨-, rfl⟩
        rfl
  | cons s shares ih =>
      rw [shareNodeIds, List.forall_mem_cons]
      cases hnode : s.get "nodeId" with
      | str nodeId =>
          have hcons : sharedNodeIds (s :: shares) = nodeId :: sharedNodeIds shares := by
            simp [sharedNodeIds, hnode]
          simp only [bind_eq_ok, refuseUnless_eq_ok, exists_const, ih, hcons]
          constructor
          · rintro ⟨hterm, hindex, rest, ⟨hshares, rfl⟩, hreturn⟩
            cases hreturn
            exact ⟨⟨⟨⟨nodeId, rfl⟩, hterm, hindex⟩, hshares⟩, rfl⟩
          · rintro ⟨⟨⟨-, hterm, hindex⟩, hshares⟩, rfl⟩
            exact ⟨hterm, hindex, _, ⟨hshares, rfl⟩, rfl⟩
      | _ => simp

@[simp] theorem coerceOrThrow_eq_ok {α : Type} {coerced : Option α} {a : α} :
    coerceOrThrow coerced = .ok a ↔ coerced = some a := by
  cases coerced <;> simp [coerceOrThrow]

theorem readMember_eq_ok {v w : JsValue} {key : String} :
    readMember v key = .ok w ↔ v.isNullish = false ∧ v.get key = w := by
  cases v <;> simp [readMember, JsValue.isNullish]

@[simp] theorem lengthBelow_arr (items : List JsValue) (bound : JsNumber) :
    lengthBelow (.arr items) bound = .ok ((JsNumber.ofInt items.length).lt bound) := rfl

/-- Only the first element of an array can have a Number for the member. -/
theorem isArray_of_head {v : JsValue} {items : List JsValue} {n : JsNumber}
    (hiterate : v.iterate? = some items)
    (hhead : (v.head.get "consensusTerm").isNum n = true) : v = .arr items ∧ items ≠ [] := by
  cases v with
  | arr elements =>
      cases hiterate
      refine ⟨rfl, ?_⟩
      rintro rfl
      cases hhead
  | str s => cases hs : s.toList <;> simp [JsValue.head, JsValue.get, JsValue.isNum, hs] at hhead
  | _ => cases hiterate

theorem checkPayload_eq_ok {failClosed : Bool} {entry : RaftLogEntry} {params : BftCommitParams} :
    checkPayload failClosed entry params = .ok () ↔
      params.payload.truthy = true ∧
      (entry.record.isNullish = false ∧
        (entry.record.get "escrowRecordLeafHash").toText = some params.proposalCommitment) ∧
      ∃ shares, CompletePayload params.payload params.clusterSize params.consensusTerm
        params.index shares := by
  simp only [checkPayload, bind_eq_ok, refuseUnless_eq_ok, exists_const, coerceOrThrow_eq_ok,
    readMember_eq_ok, Bool.not_eq_true', decide_eq_true_eq]
  constructor
  · rintro ⟨htruthy, hsize, hf, hthreshold, _, hids, rfl, _, hlength, rfl,
      _, ⟨hrecord, rfl⟩, _, hleaf, rfl, hterm, hindex, hloop⟩
    cases hiterate : (params.payload.get "shares").iterate? with
    | none =>
        rw [hiterate] at hloop
        cases hloop
    | some shares =>
        obtain ⟨hshares, hne⟩ := isArray_of_head hiterate hterm
        simp only [hiterate, bind_eq_ok, shareNodeIds_eq_ok, refuseUnless_eq_ok,
          Bool.not_eq_true'] at hloop
        obtain ⟨_, ⟨hshare, rfl⟩, hnodeIds⟩ := hloop
        rw [hshares, lengthBelow_arr, Except.ok.injEq] at hlength
        exact ⟨htruthy, ⟨hrecord, hleaf⟩, shares, hsize, hf, hthreshold, hids, hshares, hne,
          hlength, hshare, hnodeIds⟩
  · rintro ⟨htruthy, ⟨hrecord, hleaf⟩, shares, hcomplete⟩
    obtain ⟨first, rest, rfl⟩ := List.exists_cons_of_ne_nil hcomplete.shares_ne
    obtain ⟨-, hterm, hindex⟩ := hcomplete.share first List.mem_cons_self
    refine ⟨htruthy, hcomplete.clusterSize_eq, hcomplete.f_eq, hcomplete.threshold_eq, false,
      hcomplete.uniqueNodeIds, rfl, false, ?_, rfl, _, ⟨hrecord, rfl⟩, _, hleaf, rfl, ?_, ?_, ?_⟩
    · rw [hcomplete.shares_eq, lengthBelow_arr, hcomplete.shares_length]
    · rw [hcomplete.shares_eq]
      exact hterm
    · rw [hcomplete.shares_eq]
      exact hindex
    · simp only [hcomplete.shares_eq, JsValue.iterate?, bind_eq_ok, shareNodeIds_eq_ok,
        refuseUnless_eq_ok, Bool.not_eq_true']
      exact ⟨_, ⟨hcomplete.share, rfl⟩, hcomplete.nodeIds⟩

theorem findEntry_eq_ok {engine : EnclaveRaftEngine} {entryIndex : JsNumber}
    {entry : RaftLogEntry} (h : engine.findEntry entryIndex = .ok entry) :
    entry ∈ engine.log ∧ indexIs entry entryIndex = true := by
  unfold findEntry at h
  split at h
  · rename_i found hfound
    cases h
    exact ⟨List.mem_of_find?_eq_some hfound, by simpa using List.find?_some hfound⟩
  · cases h

theorem quorumDecision_eq_ok {engine : EnclaveRaftEngine} {entryIndex : JsNumber}
    {quorum : QuorumAckMatrix} {entry : RaftLogEntry}
    (h : engine.quorumDecision entryIndex quorum = .ok entry) :
    entry ∈ engine.log ∧ engine.commitIndex < entry.index := by
  simp only [quorumDecision, bind_eq_ok, refuseUnless_eq_ok, exists_const] at h
  obtain ⟨found, hfound, -, hnew, hreturn⟩ := h
  cases hreturn
  exact ⟨(findEntry_eq_ok hfound).1, of_decide_eq_true hnew⟩

theorem bftDecision_eq_ok {engine : EnclaveRaftEngine} {params : BftCommitParams}
    {entry : RaftLogEntry} :
    engine.bftDecision params = .ok entry ↔
      engine.findEntry params.entryIndex = .ok entry ∧ engine.commitIndex < entry.index ∧
        checkPayload engine.failClosed entry params = .ok () := by
  simp only [bftDecision, bind_eq_ok, refuseUnless_eq_ok, exists_const, decide_eq_true_eq]
  constructor
  · rintro ⟨found, hfound, hnew, ⟨⟩, hpayload, hreturn⟩
    cases hreturn
    exact ⟨hfound, hnew, hpayload⟩
  · rintro ⟨hfound, hnew, hpayload⟩
    exact ⟨entry, hfound, hnew, (), hpayload, rfl⟩

/-- Entries are numbered from one, and the commit index is the number of one of them or zero. -/
structure WellFormed (engine : EnclaveRaftEngine) : Prop where
  indices : engine.log.map RaftLogEntry.index = List.range' 1 engine.log.length
  commitIndex_le : engine.commitIndex ≤ engine.log.length

theorem WellFormed.index_le {engine : EnclaveRaftEngine} (h : engine.WellFormed)
    {entry : RaftLogEntry} (hmem : entry ∈ engine.log) :
    1 ≤ entry.index ∧ entry.index ≤ engine.log.length := by
  have := List.mem_map_of_mem (f := RaftLogEntry.index) hmem
  rw [h.indices, List.mem_range'_1] at this
  omega

theorem WellFormed.appendLocalLog {engine : EnclaveRaftEngine} (h : engine.WellFormed)
    (record : JsValue) : (engine.appendLocalLog record).WellFormed where
  indices := by
    simp only [EnclaveRaftEngine.appendLocalLog, List.map_append, h.indices, List.length_append,
      List.map_cons, List.map_nil, List.length_singleton, List.range'_append_1.symm]
    simp [newEntry, Nat.add_comm]
  commitIndex_le := by
    have := h.commitIndex_le
    simp only [EnclaveRaftEngine.appendLocalLog, List.length_append]
    omega

theorem WellFormed.commit {engine : EnclaveRaftEngine} (h : engine.WellFormed)
    {entry : RaftLogEntry} (hmem : entry ∈ engine.log) :
    ({ engine with commitIndex := entry.index } : EnclaveRaftEngine).WellFormed where
  indices := h.indices
  commitIndex_le := (h.index_le hmem).2

theorem indexIs_ofInt {e : RaftLogEntry} {n : ℕ} (hn : n ≤ 2 ^ 53) :
    indexIs e (.ofInt n) = true ↔ e.index = n := by
  rw [JsNumber.ofInt_eq_fin (by rw [abs_le]; omega)]
  simp only [indexIs, decide_eq_true_eq]
  norm_cast
  exact eq_comm

theorem WellFormed.findEntry_newEntry {engine : EnclaveRaftEngine} (h : engine.WellFormed)
    (hlength : engine.log.length < 2 ^ 53) (record : JsValue) :
    (engine.appendLocalLog record).findEntry (.ofInt (engine.newEntry record).index) =
      .ok (engine.newEntry record) := by
  have hindex : (engine.newEntry record).index = engine.log.length + 1 := rfl
  have hnew : ∀ e : RaftLogEntry, indexIs e (.ofInt (engine.newEntry record).index) = true ↔
      e.index = (engine.newEntry record).index := fun e => indexIs_ofInt (by omega)
  have hold : engine.log.find? (fun e => indexIs e (.ofInt (engine.newEntry record).index)) =
      none := by
    rw [List.find?_eq_none]
    intro e he hfound
    have hle := (h.index_le he).2
    rw [hnew, hindex] at hfound
    omega
  simp only [findEntry, EnclaveRaftEngine.appendLocalLog, List.find?_append, hold,
    Option.none_or, List.find?_cons, (hnew _).2 rfl]

end EnclaveRaftEngine

/-! ## Runs -/

inductive RaftCall where
  | appendLocalLog (record : JsValue)
  | commitToLedgerIfQuorum (entryIndex : JsNumber) (quorum : QuorumAckMatrix)
  | commitToLedgerIfBftQuorum (params : BftCommitParams)

/-- The entry a call saves and commits. -/
def RaftCall.commits? (engine : EnclaveRaftEngine) : RaftCall → Option RaftLogEntry
  | .appendLocalLog _ => none
  | .commitToLedgerIfQuorum entryIndex quorum => (engine.quorumDecision entryIndex quorum).toOption
  | .commitToLedgerIfBftQuorum params => (engine.bftDecision params).toOption

/-- The engine together with the entries whose record a call saved before it answered
`committed: true`, latest first. -/
structure RaftHistory where
  engine : EnclaveRaftEngine
  committed : List RaftLogEntry

def RaftHistory.start (engine : EnclaveRaftEngine) : RaftHistory := ⟨engine.resetEngine, []⟩

def RaftHistory.step (history : RaftHistory) (call : RaftCall) : RaftHistory :=
  match call, call.commits? history.engine with
  | .appendLocalLog record, _ => { history with engine := history.engine.appendLocalLog record }
  | _, some entry =>
      { engine := { history.engine with commitIndex := entry.index }
        committed := entry :: history.committed }
  | _, none => history

/-- Everything at or below the commit index has been saved for its own sake. -/
def RaftHistory.Durable (history : RaftHistory) : Prop :=
  ∀ entry ∈ history.engine.log, entry.index ≤ history.engine.commitIndex →
    entry ∈ history.committed

/-- The call passes its checks and commits an entry beyond the next one. -/
def RaftCall.SkipsEntry (history : RaftHistory) (call : RaftCall) : Prop :=
  ∃ entry, call.commits? history.engine = some entry ∧
    history.engine.commitIndex + 1 < entry.index

structure RaftHistory.WellFormed (history : RaftHistory) : Prop extends
    EnclaveRaftEngine.WellFormed history.engine where
  committed_le : ∀ entry ∈ history.committed, entry.index ≤ history.engine.commitIndex

namespace RaftHistory

theorem toOption_eq_some {ε α : Type} {x : Except ε α} {a : α} :
    x.toOption = some a ↔ x = .ok a := by
  cases x <;> simp [Except.toOption]

theorem commits?_spec {engine : EnclaveRaftEngine} {call : RaftCall} {entry : RaftLogEntry}
    (h : call.commits? engine = some entry) :
    entry ∈ engine.log ∧ engine.commitIndex < entry.index := by
  cases call with
  | appendLocalLog record => cases h
  | commitToLedgerIfQuorum entryIndex quorum =>
      exact EnclaveRaftEngine.quorumDecision_eq_ok (toOption_eq_some.1 h)
  | commitToLedgerIfBftQuorum params =>
      obtain ⟨hfound, hnew, -⟩ :=
        EnclaveRaftEngine.bftDecision_eq_ok.1 (toOption_eq_some.1 h)
      exact ⟨(EnclaveRaftEngine.findEntry_eq_ok hfound).1, hnew⟩

theorem step_cases (history : RaftHistory) (call : RaftCall) :
    (∃ record, call = .appendLocalLog record ∧ call.commits? history.engine = none ∧
      history.step call = { history with engine := history.engine.appendLocalLog record }) ∨
    (∃ entry, call.commits? history.engine = some entry ∧ entry ∈ history.engine.log ∧
      history.engine.commitIndex < entry.index ∧
      history.step call = { engine := { history.engine with commitIndex := entry.index }
                            committed := entry :: history.committed }) ∨
    (call.commits? history.engine = none ∧ history.step call = history) := by
  cases hcommits : call.commits? history.engine with
  | some entry =>
      obtain ⟨hmem, hnew⟩ := commits?_spec hcommits
      refine .inr (.inl ⟨entry, rfl, hmem, hnew, ?_⟩)
      cases call with
      | appendLocalLog record => cases hcommits
      | commitToLedgerIfQuorum entryIndex quorum => simp [step, hcommits]
      | commitToLedgerIfBftQuorum params => simp [step, hcommits]
  | none =>
      cases call with
      | appendLocalLog record => exact .inl ⟨record, rfl, rfl, by simp [step]⟩
      | commitToLedgerIfQuorum entryIndex quorum =>
          exact .inr (.inr ⟨rfl, by simp [step, hcommits]⟩)
      | commitToLedgerIfBftQuorum params => exact .inr (.inr ⟨rfl, by simp [step, hcommits]⟩)

theorem WellFormed.exists_index {history : RaftHistory} (h : history.WellFormed) {n : ℕ}
    (hpos : 1 ≤ n) (hle : n ≤ history.engine.log.length) :
    ∃ entry ∈ history.engine.log, entry.index = n := by
  have hmem : n ∈ history.engine.log.map RaftLogEntry.index := by
    rw [h.indices, List.mem_range'_1]
    omega
  obtain ⟨entry, hentry, hindex⟩ := List.mem_map.1 hmem
  exact ⟨entry, hentry, hindex⟩

theorem WellFormed.eq_of_index_eq {history : RaftHistory} (h : history.WellFormed)
    {a b : RaftLogEntry} (ha : a ∈ history.engine.log) (hb : b ∈ history.engine.log)
    (hindex : a.index = b.index) : a = b :=
  List.inj_on_of_nodup_map (h.indices ▸ List.nodup_range') ha hb hindex

theorem wellFormed_start (engine : EnclaveRaftEngine) : (start engine).WellFormed where
  indices := rfl
  commitIndex_le := Nat.le_refl 0
  committed_le := by simp [start]

theorem WellFormed.step {history : RaftHistory} (h : history.WellFormed) (call : RaftCall) :
    (history.step call).WellFormed := by
  obtain ⟨record, -, -, heq⟩ | ⟨entry, -, hmem, hnew, heq⟩ | ⟨-, heq⟩ := step_cases history call
  · rw [heq]
    exact ⟨h.toWellFormed.appendLocalLog record, h.committed_le⟩
  · rw [heq]
    refine ⟨h.toWellFormed.commit hmem, ?_⟩
    intro e he
    rcases List.mem_cons.1 he with rfl | he
    · exact Nat.le_refl _
    · exact (h.committed_le e he).trans hnew.le
  · rwa [heq]

theorem WellFormed.run {history : RaftHistory} (h : history.WellFormed) (calls : List RaftCall) :
    (Lib.Run.run RaftHistory.step history calls).WellFormed := by
  induction calls generalizing history with
  | nil => exact h
  | cons call calls ih => exact ih (h.step call)

/-- From a durable history a call leads to a durable one exactly unless it skips an entry. -/
theorem durable_step_iff {history : RaftHistory} (h : history.WellFormed)
    (hdurable : history.Durable) (call : RaftCall) :
    (history.step call).Durable ↔ ¬ call.SkipsEntry history := by
  obtain ⟨record, -, hnone, heq⟩ | ⟨entry, hsome, hmem, hnew, heq⟩ | ⟨hnone, heq⟩ :=
    step_cases history call
  · have hskip : ¬ call.SkipsEntry history := by
      rintro ⟨entry, hentry, -⟩
      rw [hnone] at hentry
      cases hentry
    refine iff_of_true ?_ hskip
    rw [heq]
    intro e he hle
    rcases List.mem_append.1 he with he | he
    · exact hdurable e he hle
    · -- the new entry lies beyond the commit index
      have hlen := h.commitIndex_le
      rw [List.mem_singleton.1 he] at hle
      simp only [EnclaveRaftEngine.newEntry, EnclaveRaftEngine.appendLocalLog] at hle
      omega
  · rw [heq]
    constructor
    · rintro hnext ⟨entry', hentry', hskip⟩
      cases hsome.symm.trans hentry'
      obtain ⟨skipped, hskipped, hindex⟩ := h.exists_index (n := history.engine.commitIndex + 1)
        (Nat.le_add_left 1 _) (hskip.le.trans (h.index_le hmem).2)
      rcases List.mem_cons.1 (hnext skipped hskipped (by simpa [hindex] using hskip.le)) with
        heq' | hold
      · rw [heq'] at hindex
        omega
      · have := h.committed_le skipped hold
        omega
    · intro hskip e he hle
      have hnext : entry.index ≤ history.engine.commitIndex + 1 :=
        not_lt.1 fun hlt => hskip ⟨entry, hsome, hlt⟩
      rcases Nat.lt_or_ge history.engine.commitIndex e.index with hlt | hge
      · have hindex : e.index = entry.index := by
          have : e.index ≤ entry.index := hle
          omega
        rw [h.eq_of_index_eq he hmem hindex]
        exact List.mem_cons_self
      · exact List.mem_cons_of_mem _ (hdurable e he hge)
  · have hskip : ¬ call.SkipsEntry history := by
      rintro ⟨entry, hentry, -⟩
      rw [hnone] at hentry
      cases hentry
    rw [heq]
    exact iff_of_true hdurable hskip

end RaftHistory

/-- From a reset engine every entry at or below the commit index is a saved one, in every
state of a run, exactly if no call of the run commits beyond the next entry. -/
theorem committed_prefix_durable_iff (engine : EnclaveRaftEngine) (calls : List RaftCall) :
    Lib.Run.Throughout RaftHistory.step RaftHistory.Durable (.start engine) calls ↔
      Lib.Run.EachStep RaftHistory.step (fun history call => ¬ call.SkipsEntry history)
        (.start engine) calls :=
  Lib.Run.throughout_iff_eachStep RaftHistory.WellFormed
    (fun _ call h => h.step call)
    (fun _ call h hdurable => RaftHistory.durable_step_iff h hdurable call)
    (RaftHistory.wellFormed_start engine) (by intro entry hentry; cases hentry)

/-- The engine after some calls, from a reset one. -/
def EnclaveRaftEngine.Reachable (engine : EnclaveRaftEngine) : Prop :=
  ∃ (initial : EnclaveRaftEngine) (calls : List RaftCall),
    engine = (Lib.Run.run RaftHistory.step (.start initial) calls).engine

theorem EnclaveRaftEngine.Reachable.wellFormed {engine : EnclaveRaftEngine}
    (h : engine.Reachable) : engine.WellFormed := by
  obtain ⟨initial, calls, rfl⟩ := h
  exact ((RaftHistory.wellFormed_start initial).run calls).toWellFormed

/-! ## A skipped entry -/

def sampleLogRecord (transactionId : String) : JsValue :=
  .obj [("transactionId", transactionId), ("escrowRecordLeafHash", "PENDING")]

/-- A commit of entry 2 by the one node of a cluster of one. -/
def sampleCommit : BftCommitParams where
  entryIndex := .ofInt 2
  clusterSize := .ofInt 1
  proposalCommitment := "PENDING"
  consensusTerm := .ofInt 0
  index := .ofInt 2
  payload := .obj [("clusterSize", .num (.ofInt 1)),
    ("f", .num (.ofInt 0)),
    ("threshold", .num (.ofInt 1)),
    ("uniqueNodeIds", .arr ["node_1"]),
    ("shares", .arr [.obj [("nodeId", "node_1"), ("consensusTerm", .num (.ofInt 0)),
      ("index", .num (.ofInt 2))]])]

/-- Two appends, then the commit of the second entry. -/
def skippingCalls : List RaftCall :=
  [.appendLocalLog (sampleLogRecord "tx_1"), .appendLocalLog (sampleLogRecord "tx_2"),
    .commitToLedgerIfBftQuorum sampleCommit]

def skippedHistory : RaftHistory :=
  Lib.Run.run RaftHistory.step
    (.start { currentTerm := .ofInt 0, log := [], commitIndex := 0, failClosed := true })
    skippingCalls

/-- The first entry is below the commit index without having been saved, and every later
commit of it is refused. -/
theorem second_entry_committed_first :
    skippedHistory.engine.commitIndex = 2 ∧
      (∃ entry ∈ skippedHistory.engine.log, entry.index = 1 ∧ entry ∉ skippedHistory.committed) ∧
      ∀ params : BftCommitParams, params.entryIndex = .ofInt 1 →
        skippedHistory.engine.bftDecision params = .error (.refused "ALREADY_COMMITTED") := by
  have hcommit : skippedHistory.engine.commitIndex = 2 := by decide +kernel
  have hlog : skippedHistory.engine.log.map RaftLogEntry.index = [1, 2] := by decide +kernel
  have hcommitted : skippedHistory.committed.map RaftLogEntry.index = [2] := by decide +kernel
  have hfind : (skippedHistory.engine.findEntry (.ofInt 1)).toOption.map RaftLogEntry.index =
      some 1 := by decide +kernel
  refine ⟨hcommit, ?_, ?_⟩
  · obtain ⟨entry, hentry, hindex⟩ := List.mem_map.1 (hlog ▸ List.mem_cons_self (a := 1))
    refine ⟨entry, hentry, hindex, fun hmem => ?_⟩
    have := List.mem_map_of_mem (f := RaftLogEntry.index) hmem
    rw [hcommitted, hindex] at this
    simp at this
  · intro params hparams
    obtain ⟨entry, hentry, hindex⟩ := Option.map_eq_some_iff.1 hfind
    rw [RaftHistory.toOption_eq_some] at hentry
    simp [EnclaveRaftEngine.bftDecision, hparams, hentry, hindex, hcommit, refuseUnless, bind,
      Except.bind]

end UniverEscrow.Consensus
