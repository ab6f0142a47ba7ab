import UniverEscrow.Consensus.EnclaveReconciliationEngine
import UniverEscrow.Js.SafeInteger
import UniverEscrow.Lib.Run

/-!
# The chain of accepted blocks

Runs of the reconciliation engine without snapshots, with what each session accepted.  Indices
restart with every session; the hash chain goes on.
-/

namespace UniverEscrow.Consensus

open UniverEscrow.Js UniverEscrow.Merkle UniverEscrow.Lib

def genesisHash : JsValue := "GENESIS_BLOCK"

def previousHash (block : JsValue) : JsValue := block.get "previousMerkleHash"

def merkleHash (block : JsValue) : JsValue := block.get "merkleHash"

/-- The indices of `count` blocks after `l`. -/
def indicesAfter (l : ℤ) (count : ℕ) : List IndexKey :=
  (List.range count).map fun i : ℕ => .num (.ofInt (l + 1 + i))

/-- What one session was begun with and what it accepted, in order. -/
structure CatchUpSession where
  localIndex : JsNumber
  accepted : List JsValue

/-- An engine and the sessions so far, the newest first. -/
structure CatchUpRun where
  engine : EnclaveReconciliationEngine
  sessions : List CatchUpSession

namespace CatchUpRun

def fresh : CatchUpRun := ⟨.getInstance, []⟩

def addAccepted (block : JsValue) : List CatchUpSession → List CatchUpSession
  | [] => []
  | session :: sessions => { session with accepted := session.accepted ++ [block] } :: sessions

variable (sha256 : Sha256)

def step (run : CatchUpRun) (c : EnclaveReconciliationEngine.Call) : CatchUpRun :=
  let (reply, engine) := run.engine.call sha256 c
  let sessions :=
    match c, reply with
    | .beginReconciliation _ localIndex _, _ => ⟨localIndex, []⟩ :: run.sessions
    | .applyCatchUpBlock block, .ok () => addAccepted block run.sessions
    | _, _ => run.sessions
  ⟨engine, sessions⟩

/-- All blocks accepted so far. -/
def accepted (run : CatchUpRun) : List JsValue :=
  run.sessions.reverse.flatMap CatchUpSession.accepted

end CatchUpRun

/-- The calls of a catch-up by blocks: integer indices below `2 ^ 53` and no snapshots.  A block
may be any value. -/
def BlockCatchUp : EnclaveReconciliationEngine.Call → Prop
  | .beginReconciliation _ localIndex _ => ∃ l : ℤ, |l| < 2 ^ 53 ∧ localIndex = .ofInt l
  | .applyCatchUpBlock block =>
      ∀ n, block.get "index" = .num n → n.lt (.ofInt (2 ^ 53)) = true
  | .applySnapshot _ => False
  | .completeReconciliation => True

/-- The block carries the fold of its own entries. -/
def HashedBlock (sha256 : Sha256) (block : JsValue) : Prop :=
  ∃ hash, computeBlockMerkleHash sha256 (block.get "entries") = some hash ∧
    merkleHash block = .str hash

/-- One linear hash chain. -/
structure LinearChain (sha256 : Sha256) (run : CatchUpRun) : Prop where
  numbered : ∀ session ∈ run.sessions, ∃ l : ℤ, |l| < 2 ^ 53 ∧ session.localIndex = .ofInt l ∧
    session.accepted.map (fun block => block.get "index") =
      (indicesAfter l session.accepted.length).map IndexKey.toJs
  linked : HashChain.Linked previousHash merkleHash genesisHash run.accepted
  hashed : ∀ block ∈ run.accepted, HashedBlock sha256 block
  head : run.engine.lastAppliedMerkleHash =
    HashChain.headFrom merkleHash genesisHash run.accepted
  state : ∀ state, run.engine.reconciliationState = some state →
    ∃ session sessions, run.sessions = session :: sessions ∧
      state.localIndex = .num session.localIndex ∧
      state.blocksApplied = session.accepted.length ∧
      state.lastAppliedMerkleHash = run.engine.lastAppliedMerkleHash

/-! ## Indices -/

@[simp] theorem length_indicesAfter (l : ℤ) (count : ℕ) :
    (indicesAfter l count).length = count := by
  simp [indicesAfter]

theorem indicesAfter_succ (l : ℤ) (count : ℕ) :
    indicesAfter l (count + 1) = indicesAfter l count ++ [.num (.ofInt (l + 1 + count))] := by
  simp [indicesAfter, List.range_succ]

theorem mathMax_concat (numbers : List JsNumber) (n : JsNumber) :
    mathMax (numbers ++ [n]) =
      if mathMax numbers = .nan ∨ n = .nan then .nan
      else if (mathMax numbers).lt n then n else mathMax numbers := by
  rw [mathMax, List.foldl_append]
  rfl

theorem mathMax_concat_of_lt (numbers : List JsNumber) {m n : JsNumber}
    (hmax : mathMax numbers = m) (hlt : m.lt n = true) : mathMax (numbers ++ [n]) = n := by
  have hm : m ≠ .nan := by
    rintro rfl
    cases hlt
  have hn : n ≠ .nan := by
    rintro rfl
    cases m <;> cases hlt
  rw [mathMax_concat, hmax, if_neg (by simp [hm, hn]), if_pos hlt]

theorem mathMax_indicesAfter {l : ℤ} {count : ℕ} (hl : |l| < 2 ^ 53)
    (hcount : l + 1 + count ≤ 2 ^ 53) :
    mathMax ((indicesAfter l (count + 1)).map IndexKey.toNumber) = .ofInt (l + 1 + count) := by
  obtain ⟨hlow, hhigh⟩ := abs_lt.1 hl
  induction count with
  | zero =>
      have hone : |l + 1 + (0 : ℕ)| ≤ 2 ^ 53 := abs_le.2 ⟨by omega, by omega⟩
      rw [indicesAfter_succ, List.map_append]
      apply mathMax_concat_of_lt [] rfl
      change JsNumber.lt .negInf (.ofInt (l + 1 + (0 : ℕ))) = true
      rw [JsNumber.ofInt_eq_fin hone]
      rfl
  | succ count ih =>
      rw [indicesAfter_succ, List.map_append]
      apply mathMax_concat_of_lt _ (ih (by omega))
      change (JsNumber.ofInt (l + 1 + count)).lt (.ofInt (l + 1 + (count + 1 : ℕ))) = true
      rw [JsNumber.lt_ofInt (abs_le.2 ⟨by omega, by omega⟩) (abs_le.2 ⟨by omega, by omega⟩)]
      omega

/-! ## The invariant of a run -/

/-- Where the engine stands in its session. -/
structure Cursor (run : CatchUpRun) : Prop where
  safe : ∀ state, run.engine.reconciliationState = some state →
    ∃ session sessions l, run.sessions = session :: sessions ∧ |l| < 2 ^ 53 ∧
      session.localIndex = .ofInt l ∧ l + session.accepted.length < 2 ^ 53 ∧
      run.engine.appliedBlocks.keys = indicesAfter l session.accepted.length
  text : ∃ s, run.engine.lastAppliedMerkleHash = .str s

theorem strictEq_str {v : JsValue} {s : String} : v.strictEq (.str s) = true ↔ v = .str s := by
  cases v <;> simp [JsValue.strictEq]

theorem accepted_addAccepted (engine : EnclaveReconciliationEngine) (session : CatchUpSession)
    (sessions : List CatchUpSession) (block : JsValue) :
    (CatchUpRun.mk engine (CatchUpRun.addAccepted block (session :: sessions))).accepted =
      (CatchUpRun.mk engine (session :: sessions)).accepted ++ [block] := by
  simp [CatchUpRun.accepted, CatchUpRun.addAccepted]

theorem accepted_begin (engine : EnclaveReconciliationEngine) (localIndex : JsNumber)
    (sessions : List CatchUpSession) :
    (CatchUpRun.mk engine (⟨localIndex, []⟩ :: sessions)).accepted =
      (CatchUpRun.mk engine sessions).accepted := by
  simp [CatchUpRun.accepted]

/-! ## Steps -/

section Steps

variable {sha256 : Sha256} {run : CatchUpRun}

theorem step_begin (startedAt localIndex targetCommitIndex : JsNumber) :
    run.step sha256 (.beginReconciliation startedAt localIndex targetCommitIndex) =
      ⟨run.engine.beginReconciliation startedAt localIndex targetCommitIndex,
        ⟨localIndex, []⟩ :: run.sessions⟩ := rfl

theorem step_of_accepts {state : ReconciliationState} {index : IndexKey} {block : JsValue}
    (h : EnclaveReconciliationEngine.Accepts sha256 run.engine state index block) :
    run.step sha256 (.applyCatchUpBlock block) =
      ⟨run.engine.recordBlock state index block, CatchUpRun.addAccepted block run.sessions⟩ := by
  simp only [CatchUpRun.step, EnclaveReconciliationEngine.call,
    EnclaveReconciliationEngine.applyCatchUpBlock_of_accepts h]

theorem step_of_refused {block : JsValue} {failure : CatchUpFailure}
    (h : run.engine.checkBlock sha256 block = .error failure) :
    run.step sha256 (.applyCatchUpBlock block) = run := by
  simp only [CatchUpRun.step, EnclaveReconciliationEngine.call,
    EnclaveReconciliationEngine.applyCatchUpBlock, h]

theorem step_complete :
    run.step sha256 .completeReconciliation =
      ⟨{ run.engine with reconciliationState := none }, run.sessions⟩ := by
  obtain ⟨⟨reconciliationState, appliedBlocks, lastApplied⟩, sessions⟩ := run
  cases reconciliationState <;> rfl

/-- The last applied index is the local index plus the number of blocks the session accepted. -/
theorem lastAppliedIndex_eq {state : ReconciliationState} {l : ℤ} {count : ℕ}
    (hl : |l| < 2 ^ 53) (hcount : l + count < 2 ^ 53)
    (hlocal : state.localIndex = .num (.ofInt l))
    (hkeys : run.engine.appliedBlocks.keys = indicesAfter l count) :
    run.engine.lastAppliedIndex state = .num (.ofInt (l + count)) := by
  have hsize : run.engine.appliedBlocks.size = count := by
    rw [← OrderedMap.length_keys, hkeys, length_indicesAfter]
  rw [EnclaveReconciliationEngine.lastAppliedIndex, hsize, hkeys, hlocal]
  cases count with
  | zero => simp
  | succ count =>
      rw [if_pos count.succ_pos, mathMax_indicesAfter hl (by omega)]
      congr 2
      omega

theorem index_of_accepts {state : ReconciliationState} {index : IndexKey} {block : JsValue}
    {l : ℤ} {count : ℕ}
    (h : EnclaveReconciliationEngine.Accepts sha256 run.engine state index block)
    (hl : |l| < 2 ^ 53) (hcount : l + count < 2 ^ 53)
    (hlocal : state.localIndex = .num (.ofInt l))
    (hkeys : run.engine.appliedBlocks.keys = indicesAfter l count) :
    index = .num (.ofInt (l + 1 + count)) := by
  obtain ⟨hlow, hhigh⟩ := abs_lt.1 hl
  have hexpected := h.expected
  rw [lastAppliedIndex_eq hl hcount hlocal hkeys, addOne,
    JsNumber.add_ofInt (abs_le.2 ⟨by omega, by omega⟩) (by norm_num)] at hexpected
  rw [← Option.some.inj hexpected, add_right_comm]

theorem not_mem_indicesAfter {l : ℤ} {count : ℕ} (hl : |l| < 2 ^ 53)
    (hcount : l + 1 + count ≤ 2 ^ 53) :
    IndexKey.num (.ofInt (l + 1 + count)) ∉ indicesAfter l count := by
  obtain ⟨hlow, hhigh⟩ := abs_lt.1 hl
  intro hmem
  obtain ⟨i, hi, heq⟩ := List.mem_map.1 hmem
  rw [List.mem_range] at hi
  rw [IndexKey.num.injEq, JsNumber.ofInt_inj (abs_le.2 ⟨by omega, by omega⟩)
    (abs_le.2 ⟨by omega, by omega⟩)] at heq
  omega

theorem linear_fresh : LinearChain sha256 .fresh where
  numbered := by simp [CatchUpRun.fresh]
  linked := trivial
  hashed := by simp [CatchUpRun.fresh, CatchUpRun.accepted]
  head := rfl
  state := fun _ h => by cases h

theorem cursor_fresh : Cursor .fresh where
  safe := fun _ h => by cases h
  text := ⟨"GENESIS_BLOCK", rfl⟩

theorem linear_begin {startedAt localIndex targetCommitIndex : JsNumber} {l : ℤ}
    (h : LinearChain sha256 run) (hl : |l| < 2 ^ 53) (hlocal : localIndex = .ofInt l) :
    LinearChain sha256
      (run.step sha256 (.beginReconciliation startedAt localIndex targetCommitIndex)) := by
  rw [step_begin]
  constructor
  · intro session hmem
    rcases List.mem_cons.1 hmem with rfl | hmem
    · exact ⟨l, hl, hlocal, rfl⟩
    · exact h.numbered session hmem
  · rw [accepted_begin]
    exact h.linked
  · rw [accepted_begin]
    exact h.hashed
  · rw [accepted_begin]
    exact h.head
  · rintro state hstate
    cases hstate
    exact ⟨_, _, rfl, rfl, rfl, rfl⟩

theorem cursor_begin {startedAt localIndex targetCommitIndex : JsNumber} {l : ℤ}
    (h : Cursor run) (hl : |l| < 2 ^ 53) (hlocal : localIndex = .ofInt l) :
    Cursor (run.step sha256 (.beginReconciliation startedAt localIndex targetCommitIndex)) := by
  rw [step_begin]
  constructor
  · rintro state hstate
    refine ⟨_, _, l, rfl, hl, hlocal, ?_, rfl⟩
    have := (abs_lt.1 hl).2
    simpa using this
  · exact h.text

/-- The session that an accepted block joins, begun at `l`, and the block's place in it. -/
structure Joins (run : CatchUpRun) (state : ReconciliationState) (index : IndexKey)
    (block : JsValue) (session : CatchUpSession) (sessions : List CatchUpSession) (l : ℤ) :
    Prop where
  sessions_eq : run.sessions = session :: sessions
  begun : |l| < 2 ^ 53
  localIndex : session.localIndex = .ofInt l
  stateLocalIndex : state.localIndex = .num session.localIndex
  blocksApplied : state.blocksApplied = session.accepted.length
  keys : run.engine.appliedBlocks.keys = indicesAfter l session.accepted.length
  index_eq : index = .num (.ofInt (l + 1 + session.accepted.length))
  blockIndex : block.get "index" = .num (.ofInt (l + 1 + session.accepted.length))
  below : l + 1 + session.accepted.length < 2 ^ 53

section Accepts

variable {state : ReconciliationState} {index : IndexKey} {block : JsValue}
  {session : CatchUpSession} {sessions : List CatchUpSession} {l : ℤ}

theorem exists_joins (h : LinearChain sha256 run) (hcursor : Cursor run)
    (haccepts : EnclaveReconciliationEngine.Accepts sha256 run.engine state index block)
    (hbelow : ∀ n, block.get "index" = .num n → n.lt (.ofInt (2 ^ 53)) = true) :
    ∃ session sessions l, Joins run state index block session sessions l := by
  obtain ⟨session, sessions, hsessions, hlocal, happlied, -⟩ := h.state state haccepts.active
  obtain ⟨session', sessions', l, hsessions', hl, hsafe, hcount, hkeys⟩ :=
    hcursor.safe state haccepts.active
  obtain ⟨rfl, rfl⟩ : session' = session ∧ sessions' = sessions := by
    rw [hsessions, List.cons.injEq] at hsessions'
    exact ⟨hsessions'.1.symm, hsessions'.2.symm⟩
  obtain ⟨hlow, hhigh⟩ := abs_lt.1 hl
  have hindex := index_of_accepts haccepts hl hcount (hsafe ▸ hlocal) hkeys
  have hblock : block.get "index" = .num (.ofInt (l + 1 + session'.accepted.length)) := by
    rw [haccepts.indexed, hindex]
    rfl
  have hlt : l + 1 + session'.accepted.length < 2 ^ 53 := by
    have := hbelow _ hblock
    rwa [JsNumber.lt_ofInt (abs_le.2 ⟨by omega, by omega⟩) (by norm_num)] at this
  exact ⟨session', sessions', l, hsessions, hl, hsafe, hlocal, happlied, hkeys, hindex, hblock, hlt⟩

theorem previousHash_of_accepts (h : LinearChain sha256 run) (hcursor : Cursor run)
    (haccepts : EnclaveReconciliationEngine.Accepts sha256 run.engine state index block) :
    previousHash block = HashChain.headFrom merkleHash genesisHash run.accepted := by
  obtain ⟨s, hs⟩ := hcursor.text
  rw [← h.head, hs]
  have hlinked := haccepts.linked
  rwa [hs, strictEq_str] at hlinked

theorem Joins.step_eq (hjoins : Joins run state index block session sessions l)
    (haccepts : EnclaveReconciliationEngine.Accepts sha256 run.engine state index block) :
    run.step sha256 (.applyCatchUpBlock block) =
      ⟨run.engine.recordBlock state index block,
        { session with accepted := session.accepted ++ [block] } :: sessions⟩ := by
  rw [step_of_accepts haccepts, hjoins.sessions_eq]
  rfl

theorem Joins.accepted_step (hjoins : Joins run state index block session sessions l)
    (haccepts : EnclaveReconciliationEngine.Accepts sha256 run.engine state index block) :
    (run.step sha256 (.applyCatchUpBlock block)).accepted = run.accepted ++ [block] := by
  rw [step_of_accepts haccepts, hjoins.sessions_eq, accepted_addAccepted, CatchUpRun.accepted,
    CatchUpRun.accepted, hjoins.sessions_eq]

/-- The block has the index that comes next in its session. -/
theorem Joins.numbered (hjoins : Joins run state index block session sessions l)
    (h : LinearChain sha256 run) :
    (session.accepted ++ [block]).map (fun block => block.get "index") =
      (indicesAfter l (session.accepted ++ [block]).length).map IndexKey.toJs := by
  obtain ⟨l', hl', hlocal', hmap⟩ :=
    h.numbered session (by rw [hjoins.sessions_eq]; exact List.mem_cons_self)
  obtain rfl : l' = l := by
    have hbegun := hjoins.localIndex
    rwa [hlocal', JsNumber.ofInt_inj hl'.le hjoins.begun.le] at hbegun
  rw [List.map_append, hmap, List.length_append, List.length_singleton, indicesAfter_succ,
    List.map_append, List.map_singleton, List.map_singleton, hjoins.blockIndex]
  rfl

theorem Joins.linear (hjoins : Joins run state index block session sessions l)
    (h : LinearChain sha256 run) (hcursor : Cursor run)
    (haccepts : EnclaveReconciliationEngine.Accepts sha256 run.engine state index block) :
    LinearChain sha256 (run.step sha256 (.applyCatchUpBlock block)) where
  numbered := by
    rw [hjoins.step_eq haccepts]
    intro other hmem
    rcases List.mem_cons.1 hmem with rfl | hmem
    · exact ⟨l, hjoins.begun, hjoins.localIndex, hjoins.numbered h⟩
    · exact h.numbered other (by rw [hjoins.sessions_eq]; exact List.mem_cons_of_mem session hmem)
  linked := by
    rw [hjoins.accepted_step haccepts, HashChain.linked_concat]
    exact ⟨h.linked, previousHash_of_accepts h hcursor haccepts⟩
  hashed := by
    rw [hjoins.accepted_step haccepts]
    intro b hb
    rcases List.mem_append.1 hb with hb | hb
    · exact h.hashed b hb
    · rw [List.mem_singleton.1 hb]
      exact haccepts.hashed
  head := by
    rw [hjoins.accepted_step haccepts, HashChain.headFrom_concat, step_of_accepts haccepts]
    rfl
  state := by
    rw [hjoins.step_eq haccepts]
    rintro state' hstate'
    cases hstate'
    refine ⟨_, _, rfl, hjoins.stateLocalIndex, ?_, rfl⟩
    simp [hjoins.blocksApplied]

theorem Joins.cursor (hjoins : Joins run state index block session sessions l)
    (haccepts : EnclaveReconciliationEngine.Accepts sha256 run.engine state index block) :
    Cursor (run.step sha256 (.applyCatchUpBlock block)) where
  safe := by
    have hbelow := hjoins.below
    rw [hjoins.step_eq haccepts]
    rintro state' -
    refine ⟨_, _, l, rfl, hjoins.begun, hjoins.localIndex, ?_, ?_⟩
    · simp only [List.length_append, List.length_singleton]
      push_cast
      omega
    · simp only [EnclaveReconciliationEngine.recordBlock, OrderedMap.keys_set, hjoins.keys,
        hjoins.index_eq, List.length_append, List.length_singleton, indicesAfter_succ]
      rw [if_neg (not_mem_indicesAfter hjoins.begun (by omega))]
  text := by
    rw [hjoins.step_eq haccepts]
    obtain ⟨hash, -, hmerkle⟩ := haccepts.hashed
    exact ⟨hash, hmerkle⟩

end Accepts

theorem invariant_complete (h : LinearChain sha256 run) (hcursor : Cursor run) :
    LinearChain sha256 (run.step sha256 .completeReconciliation) ∧
      Cursor (run.step sha256 .completeReconciliation) := by
  rw [step_complete]
  refine ⟨⟨h.numbered, h.linked, h.hashed, h.head, ?_⟩, ?_, hcursor.text⟩
  · rintro state hstate
    cases hstate
  · rintro state hstate
    cases hstate

theorem invariant_step {c : EnclaveReconciliationEngine.Call} (h : LinearChain sha256 run)
    (hcursor : Cursor run) (hc : BlockCatchUp c) :
    LinearChain sha256 (run.step sha256 c) ∧ Cursor (run.step sha256 c) := by
  cases c with
  | beginReconciliation startedAt localIndex targetCommitIndex =>
      obtain ⟨l, hl, hlocal⟩ := hc
      exact ⟨linear_begin h hl hlocal, cursor_begin hcursor hl hlocal⟩
  | applyCatchUpBlock block =>
      rcases EnclaveReconciliationEngine.applyCatchUpBlock_cases sha256 run.engine block with
        ⟨state, index, haccepts, -⟩ | ⟨failure, hrefused, -⟩
      · obtain ⟨session, sessions, l, hjoins⟩ := exists_joins h hcursor haccepts hc
        exact ⟨hjoins.linear h hcursor haccepts, hjoins.cursor haccepts⟩
      · rw [step_of_refused hrefused]
        exact ⟨h, hcursor⟩
  | applySnapshot snapshot => exact hc.elim
  | completeReconciliation => exact invariant_complete h hcursor

end Steps

open EnclaveReconciliationEngine in
/-- Every run of block catch-up keeps one linear chain, and a call that is refused or throws
changes nothing. -/
theorem catchUp_linear (sha256 : Sha256) (calls : List Call)
    (hcalls : ∀ c ∈ calls, BlockCatchUp c) :
    LinearChain sha256 (Run.run (CatchUpRun.step sha256) .fresh calls) ∧
      ∀ c failure,
        ((Run.run (CatchUpRun.step sha256) .fresh calls).engine.call sha256 c).1 =
            .error failure →
          ((Run.run (CatchUpRun.step sha256) .fresh calls).engine.call sha256 c).2 =
            (Run.run (CatchUpRun.step sha256) .fresh calls).engine := by
  refine ⟨?_, fun c failure h => call_of_error h⟩
  have hstep : ∀ run c, LinearChain sha256 run ∧ Cursor run → BlockCatchUp c →
      LinearChain sha256 (run.step sha256 c) ∧ Cursor (run.step sha256 c) :=
    fun run c h hc => invariant_step h.1 h.2 hc
  exact (Run.run_of_forall hstep ⟨linear_fresh, cursor_fresh⟩ hcalls).1

/-! ## A sample -/

def sampleBlock (index : ℤ) (entries : List JsValue) (merkleHash previousMerkleHash : String) :
    JsValue :=
  .obj [("blockId", "block"), ("index", .num (.ofInt index)), ("term", .num (.ofInt 1)),
    ("entries", .arr entries), ("merkleHash", merkleHash), ("signature", "sig"),
    ("previousMerkleHash", previousMerkleHash)]

/-- SHA-256 of `EMPTY`. -/
def emptyDigest : HexDigest :=
  ⟨"cc1d2f838445db7aec431df9ee8a871f40e7aa5e064fc056633ef8c60fab7b06", by decide⟩

/-- A session that takes an empty block and turns `null` down. -/
def sampleCalls : List EnclaveReconciliationEngine.Call :=
  [.beginReconciliation (.ofInt 0) (.ofInt 0) (.ofInt 5),
    .applyCatchUpBlock (sampleBlock 1 [] emptyDigest.text "GENESIS_BLOCK"),
    .applyCatchUpBlock .null,
    .completeReconciliation]

theorem catchUp_linear_sample :
    LinearChain (fun _ => emptyDigest)
        (Run.run (CatchUpRun.step fun _ => emptyDigest) .fresh sampleCalls) ∧
      ∀ c failure,
        ((Run.run (CatchUpRun.step fun _ => emptyDigest) .fresh sampleCalls).engine.call
            (fun _ => emptyDigest) c).1 = .error failure →
          ((Run.run (CatchUpRun.step fun _ => emptyDigest) .fresh sampleCalls).engine.call
              (fun _ => emptyDigest) c).2 =
            (Run.run (CatchUpRun.step fun _ => emptyDigest) .fresh sampleCalls).engine := by
  apply catchUp_linear
  intro c hc
  simp only [sampleCalls, List.mem_cons, List.not_mem_nil, or_false] at hc
  rcases hc with rfl | rfl | rfl | rfl
  · exact ⟨0, by norm_num, rfl⟩
  · rintro n hn
    cases hn
    exact (JsNumber.lt_ofInt (by norm_num) (by norm_num)).2 (by norm_num)
  · rintro n hn
    cases hn
  · trivial

end UniverEscrow.Consensus
