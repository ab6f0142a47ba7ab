import UniverEscrow.Consensus.CatchUpChain

/-!
# The head of a session

The head is the local index at first, then the index of the last accepted block or snapshot.  A
snapshot may move it anywhere, and once a block is accepted the next index no longer depends on
snapshots at all.
-/

namespace UniverEscrow.Consensus

open UniverEscrow.Js UniverEscrow.Merkle UniverEscrow.Lib

/-- An engine within a session, and the session's head. -/
structure SessionRun where
  engine : EnclaveReconciliationEngine
  head : JsValue

def latestIndex (snapshot : JsValue) : JsValue := (snapshot.get "metadata").get "latestIndex"

namespace SessionRun

def begun (engine : EnclaveReconciliationEngine)
    (startedAt localIndex targetCommitIndex : JsNumber) : SessionRun where
  engine := engine.beginReconciliation startedAt localIndex targetCommitIndex
  head := .num localIndex

def step (sha256 : Sha256) (run : SessionRun) (c : EnclaveReconciliationEngine.Call) :
    SessionRun :=
  let (reply, engine) := run.engine.call sha256 c
  let head :=
    match c, reply with
    | .applyCatchUpBlock block, .ok () => block.get "index"
    | .applySnapshot snapshot, .ok () => latestIndex snapshot
    | _, _ => run.head
  ⟨engine, head⟩

end SessionRun

/-- The head strictly increases if the call is accepted, and the block after it can only be
`head + 1`. -/
def Advances (sha256 : Sha256) (run : SessionRun) (c : EnclaveReconciliationEngine.Call) : Prop :=
  (run.engine.call sha256 c).1 = .ok () →
    ∃ m n, run.head = .num m ∧ (run.step sha256 c).head = .num n ∧ m.lt n = true ∧
      ∀ block, ((run.step sha256 c).engine.applyCatchUpBlock sha256 block).1 = .ok () →
        block.get "index" = .num (n.add (.ofInt 1))

/-- A block call at a head that plus one exceeds itself, or a snapshot that is valid only above
the head and before the session's first block. -/
def KeepsHead (run : SessionRun) : EnclaveReconciliationEngine.Call → Prop
  | .applyCatchUpBlock block =>
      ∀ m, run.head = .num m → block.get "index" = .num (m.add (.ofInt 1)) →
        m.lt (m.add (.ofInt 1)) = true
  | .applySnapshot snapshot =>
      EnclaveSnapshotManager.accepts snapshot = true →
        run.engine.appliedBlocks.size = 0 ∧
          ∃ m n, run.head = .num m ∧ latestIndex snapshot = .num n ∧ m.lt n = true
  | _ => False

/-- The engine counts on from the head. -/
def AtHead (run : SessionRun) : Prop :=
  ∃ state n, run.engine.reconciliationState = some state ∧ run.head = .num n ∧
    run.engine.lastAppliedIndex state = .num n

section Steps

variable {sha256 : Sha256} {run : SessionRun}

theorem atHead_begun (engine : EnclaveReconciliationEngine)
    (startedAt localIndex targetCommitIndex : JsNumber) :
    AtHead (.begun engine startedAt localIndex targetCommitIndex) :=
  ⟨_, localIndex, rfl, rfl, rfl⟩

theorem lt_mathMax_eq_false {numbers : List JsNumber} {n : JsNumber} (hn : n ∈ numbers) :
    (mathMax numbers).lt n = false := by
  induction numbers using List.reverseRecOn with
  | nil => cases hn
  | append_singleton numbers k ih =>
      rw [mathMax_concat]
      split_ifs with hnan hlt
      · rfl
      · rcases List.mem_append.1 hn with hn | hn
        · cases hkn : k.lt n with
          | false => rfl
          | true =>
              rw [JsNumber.lt_trans hlt hkn] at ih
              exact ih hn
        · rw [List.mem_singleton.1 hn, JsNumber.lt_irrefl]
      · rcases List.mem_append.1 hn with hn | hn
        · exact ih hn
        · rw [List.mem_singleton.1 hn]
          simpa using hlt

/-- The only index accepted from the head on. -/
theorem index_of_atHead {block : JsValue} {n : JsNumber} (h : AtHead run)
    (hhead : run.head = .num n)
    (hok : (run.engine.applyCatchUpBlock sha256 block).1 = .ok ()) :
    block.get "index" = .num (n.add (.ofInt 1)) := by
  obtain ⟨state, n', hstate, hhead', hlast⟩ := h
  obtain ⟨state', index, haccepts⟩ := EnclaveReconciliationEngine.exists_accepts_of_applied hok
  obtain rfl : state' = state := Option.some.inj (haccepts.active.symm.trans hstate)
  obtain rfl : n' = n := by
    rw [hhead, JsValue.num.injEq] at hhead'
    exact hhead'.symm
  have hexpected := haccepts.expected
  rw [hlast] at hexpected
  rw [haccepts.indexed, ← Option.some.inj hexpected]
  rfl

theorem step_applyBlock {state : ReconciliationState} {index : IndexKey} {block : JsValue}
    (h : EnclaveReconciliationEngine.Accepts sha256 run.engine state index block) :
    run.step sha256 (.applyCatchUpBlock block) =
      ⟨run.engine.recordBlock state index block, block.get "index"⟩ := by
  simp only [SessionRun.step, EnclaveReconciliationEngine.call,
    EnclaveReconciliationEngine.applyCatchUpBlock_of_accepts h]

theorem step_applySnapshot {state : ReconciliationState} {snapshot : JsValue}
    (h : EnclaveReconciliationEngine.AcceptsSnapshot run.engine state snapshot) :
    run.step sha256 (.applySnapshot snapshot) =
      ⟨run.engine.recordSnapshot state (snapshot.get "metadata"), latestIndex snapshot⟩ := by
  simp only [SessionRun.step, EnclaveReconciliationEngine.call,
    EnclaveReconciliationEngine.applySnapshot_of_accepts h]

theorem negInf_lt_of_lt {m n : JsNumber} (h : m.lt n = true) : JsNumber.lt .negInf n = true := by
  cases n with
  | nan => cases m <;> cases h
  | negInf => cases m <;> simp [JsNumber.lt] at h
  | posInf => rfl
  | fin x => rfl

theorem mathMax_set {blocks : OrderedMap IndexKey JsValue} {block : JsValue} {m n : JsNumber}
    (hmax : mathMax (blocks.keys.map IndexKey.toNumber) = m) (hlt : m.lt n = true) :
    mathMax ((blocks.set (.num n) block).keys.map IndexKey.toNumber) = n := by
  have hnew : IndexKey.num n ∉ blocks.keys := by
    intro hmem
    have hle : (mathMax (blocks.keys.map IndexKey.toNumber)).lt n = false :=
      lt_mathMax_eq_false (List.mem_map_of_mem (f := IndexKey.toNumber) hmem)
    rw [hmax, hlt] at hle
    cases hle
  rw [OrderedMap.keys_set, if_neg hnew, List.map_append]
  exact mathMax_concat_of_lt _ hmax hlt

/-- A block whose index exceeds the last one becomes the last applied one. -/
theorem lastAppliedIndex_recordBlock {engine : EnclaveReconciliationEngine}
    {state state' : ReconciliationState} {block : JsValue} {m n : JsNumber}
    (hlast : engine.lastAppliedIndex state = .num m) (hlt : m.lt n = true) :
    (engine.recordBlock state (.num n) block).lastAppliedIndex state' = .num n := by
  have hmem : IndexKey.num n ∈ (engine.appliedBlocks.set (.num n) block).keys :=
    OrderedMap.mem_keys_set.2 (.inl rfl)
  have hsize : 0 < (engine.appliedBlocks.set (.num n) block).size := by
    rw [← OrderedMap.length_keys]
    exact List.length_pos_of_mem hmem
  rw [EnclaveReconciliationEngine.lastAppliedIndex]
  change (if 0 < (engine.appliedBlocks.set (.num n) block).size then
    JsValue.num (mathMax ((engine.appliedBlocks.set (.num n) block).keys.map IndexKey.toNumber))
    else state'.localIndex) = _
  rw [if_pos hsize]
  by_cases hold : 0 < engine.appliedBlocks.size
  · rw [EnclaveReconciliationEngine.lastAppliedIndex, if_pos hold, JsValue.num.injEq] at hlast
    rw [mathMax_set hlast hlt]
  · have hempty : engine.appliedBlocks.keys = [] := by
      rw [← List.length_eq_zero_iff, OrderedMap.length_keys]
      omega
    have hmax : mathMax (engine.appliedBlocks.keys.map IndexKey.toNumber) = .negInf := by
      rw [hempty]
      rfl
    rw [mathMax_set hmax (negInf_lt_of_lt hlt)]

/-- Once a block is accepted, no snapshot moves the next index any more. -/
theorem lastAppliedIndex_recordSnapshot {engine : EnclaveReconciliationEngine}
    (state state' state'' : ReconciliationState) (metadata : JsValue)
    (h : 0 < engine.appliedBlocks.size) :
    (engine.recordSnapshot state metadata).lastAppliedIndex state' =
      engine.lastAppliedIndex state'' := by
  rw [EnclaveReconciliationEngine.lastAppliedIndex, EnclaveReconciliationEngine.lastAppliedIndex,
    if_pos h]
  exact if_pos h

theorem atHead_applyBlock {state : ReconciliationState} {index : IndexKey} {block : JsValue}
    (h : AtHead run)
    (haccepts : EnclaveReconciliationEngine.Accepts sha256 run.engine state index block)
    (hkeeps : KeepsHead run (.applyCatchUpBlock block)) :
    ∃ m, run.head = .num m ∧ block.get "index" = .num (m.add (.ofInt 1)) ∧
      m.lt (m.add (.ofInt 1)) = true ∧ AtHead (run.step sha256 (.applyCatchUpBlock block)) := by
  obtain ⟨state', m, hstate, hhead, hlast⟩ := h
  obtain rfl : state' = state := Option.some.inj (hstate.symm.trans haccepts.active)
  have hindex : index = .num (m.add (.ofInt 1)) := by
    have hexpected := haccepts.expected
    rw [hlast] at hexpected
    exact (Option.some.inj hexpected).symm
  have hblock : block.get "index" = .num (m.add (.ofInt 1)) := by
    rw [haccepts.indexed, hindex]
    rfl
  have hlt := hkeeps m hhead hblock
  refine ⟨m, hhead, hblock, hlt, ?_⟩
  rw [step_applyBlock haccepts, hindex]
  exact ⟨_, _, rfl, hblock, lastAppliedIndex_recordBlock hlast hlt⟩

theorem atHead_applySnapshot (sha256 : Sha256) {state : ReconciliationState} {snapshot : JsValue}
    (haccepts : EnclaveReconciliationEngine.AcceptsSnapshot run.engine state snapshot)
    (hkeeps : KeepsHead run (.applySnapshot snapshot)) :
    ∃ m n, run.head = .num m ∧ latestIndex snapshot = .num n ∧ m.lt n = true ∧
      AtHead (run.step sha256 (.applySnapshot snapshot)) := by
  obtain ⟨hsize, m, n, hhead, hlatest, hlt⟩ := hkeeps haccepts.valid
  refine ⟨m, n, hhead, hlatest, hlt, ?_⟩
  rw [step_applySnapshot haccepts]
  refine ⟨_, n, rfl, hlatest, ?_⟩
  rw [EnclaveReconciliationEngine.lastAppliedIndex]
  change (if 0 < run.engine.appliedBlocks.size then _ else latestIndex snapshot) = _
  rw [hsize, if_neg (lt_irrefl 0), hlatest]

/-- A refused call leaves the head where it is and promises nothing. -/
theorem atHead_of_error {c : EnclaveReconciliationEngine.Call} {failure : CatchUpFailure}
    (h : AtHead run) (herror : run.engine.call sha256 c = (.error failure, run.engine))
    (hstep : run.step sha256 c = run) : AtHead (run.step sha256 c) ∧ Advances sha256 run c := by
  constructor
  · rwa [hstep]
  · intro hok
    rw [herror] at hok
    cases hok

/-- What a step at the head does, provided it keeps the head. -/
theorem atHead_step {c : EnclaveReconciliationEngine.Call} (h : AtHead run)
    (hkeeps : KeepsHead run c) : AtHead (run.step sha256 c) ∧ Advances sha256 run c := by
  cases c with
  | beginReconciliation startedAt localIndex targetCommitIndex => exact hkeeps.elim
  | completeReconciliation => exact hkeeps.elim
  | applyCatchUpBlock block =>
      rcases EnclaveReconciliationEngine.applyCatchUpBlock_cases sha256 run.engine block with
        ⟨state, index, haccepts, -⟩ | ⟨failure, -, herror⟩
      · obtain ⟨m, hhead, hblock, hlt, hnext⟩ := atHead_applyBlock h haccepts hkeeps
        have hhead' : (run.step sha256 (.applyCatchUpBlock block)).head =
            .num (m.add (.ofInt 1)) := by
          rw [step_applyBlock haccepts]
          exact hblock
        exact ⟨hnext, fun _ => ⟨m, _, hhead, hhead', hlt, fun _ => index_of_atHead hnext hhead'⟩⟩
      · exact atHead_of_error h herror
          (by simp only [SessionRun.step, EnclaveReconciliationEngine.call, herror])
  | applySnapshot snapshot =>
      rcases EnclaveReconciliationEngine.applySnapshot_cases run.engine snapshot with
        ⟨state, haccepts, -⟩ | ⟨failure, -, herror⟩
      · obtain ⟨m, n, hhead, hlatest, hlt, hnext⟩ := atHead_applySnapshot sha256 haccepts hkeeps
        have hhead' : (run.step sha256 (.applySnapshot snapshot)).head = .num n := by
          rw [step_applySnapshot haccepts]
          exact hlatest
        exact ⟨hnext, fun _ => ⟨m, n, hhead, hhead', hlt, fun _ => index_of_atHead hnext hhead'⟩⟩
      · exact atHead_of_error h herror
          (by simp only [SessionRun.step, EnclaveReconciliationEngine.call, herror])

end Steps

/-- A session whose snapshots come above the head and before its first block, and whose blocks
stay where adding one still counts, never falls back. -/
theorem session_advances (sha256 : Sha256) (engine : EnclaveReconciliationEngine)
    (startedAt localIndex targetCommitIndex : JsNumber)
    (calls : List EnclaveReconciliationEngine.Call)
    (hkeeps : Run.EachStep (SessionRun.step sha256) KeepsHead
      (.begun engine startedAt localIndex targetCommitIndex) calls) :
    Run.EachStep (SessionRun.step sha256) (Advances sha256)
      (.begun engine startedAt localIndex targetCommitIndex) calls :=
  Run.eachStep_of_step (fun _ _ h hc => atHead_step h hc)
    (atHead_begun engine startedAt localIndex targetCommitIndex) hkeeps

def sampleSignatureOf (nodeId : String) : JsValue :=
  .obj [("nodeId", nodeId), ("signature", "sig"), ("term", .num (.ofInt 1))]

/-- A snapshot that passes validation: two signatures of the right format. -/
def sampleSnapshot (latestIndex : ℤ) (merkleRootHash : String) : JsValue :=
  .obj [("metadata", .obj [("latestIndex", .num (.ofInt latestIndex)),
      ("merkleRootHash", merkleRootHash)]),
    ("quorumSignatures", .arr [sampleSignatureOf "node_1", sampleSignatureOf "node_2"]),
    ("merklePath", .arr [])]

/-- A snapshot above the head, then the block after it. -/
theorem session_advances_sample :
    Run.EachStep (SessionRun.step fun _ => emptyDigest) (Advances fun _ => emptyDigest)
      (.begun .getInstance (.ofInt 0) (.ofInt 0) (.ofInt 5))
      [.applySnapshot (sampleSnapshot 3 "root"),
        .applyCatchUpBlock (sampleBlock 4 [] emptyDigest.text "root")] := by
  apply session_advances
  refine ⟨fun _ => ⟨rfl, _, _, rfl, rfl, ?_⟩, ?_, trivial⟩
  · exact (JsNumber.lt_ofInt (by norm_num) (by norm_num)).2 (by norm_num)
  · rintro m hm -
    cases hm
    rw [JsNumber.add_ofInt (by norm_num) (by norm_num)]
    exact (JsNumber.lt_ofInt (by norm_num) (by norm_num)).2 (by norm_num)

/-- At local index 5 a snapshot of index 2 is accepted. -/
theorem snapshot_rolls_back :
    ¬ Run.EachStep (SessionRun.step fun _ => emptyDigest) (Advances fun _ => emptyDigest)
      (.begun .getInstance (.ofInt 0) (.ofInt 5) (.ofInt 9))
      [.applySnapshot (sampleSnapshot 2 "root")] := by
  rintro ⟨hadvances, -⟩
  obtain ⟨m, n, hm, hn, hlt, -⟩ := hadvances rfl
  cases hm
  cases hn
  rw [JsNumber.lt_ofInt (by norm_num) (by norm_num)] at hlt
  norm_num at hlt

end UniverEscrow.Consensus
