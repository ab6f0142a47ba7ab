import UniverEscrow.Consensus.ChainHead

/-!
# Restarting a session

`BEGIN` forgets the blocks of the session before and keeps their last hash, so a new session takes
up the chain where the last accepted block left it and nowhere else.
-/

namespace UniverEscrow.Consensus

open UniverEscrow.Js UniverEscrow.Merkle UniverEscrow.Lib

/-- Sessions of any extent in which only blocks of the chain are submitted. -/
def HonestCall (chain : List JsValue) : EnclaveReconciliationEngine.Call → Prop
  | .beginReconciliation _ _ _ => True
  | .applyCatchUpBlock block => block ∈ chain
  | .applySnapshot _ => False
  | .completeReconciliation => True

/-- The engine holds the hash of the block accepted last, in whichever session. -/
structure HoldsLastHash (run : CatchUpRun) : Prop where
  head : run.engine.lastAppliedMerkleHash =
    HashChain.headFrom merkleHash genesisHash run.accepted
  text : ∃ s, run.engine.lastAppliedMerkleHash = .str s
  session : ∀ state, run.engine.reconciliationState = some state → run.sessions ≠ []

variable {sha256 : Sha256} {run : CatchUpRun} {chain : List JsValue}

theorem holdsLastHash_fresh : HoldsLastHash .fresh where
  head := rfl
  text := ⟨"GENESIS_BLOCK", rfl⟩
  session := fun _ h => by cases h

theorem holdsLastHash_of_accepts {state : ReconciliationState} {index : IndexKey}
    {block : JsValue} (h : HoldsLastHash run)
    (haccepts : EnclaveReconciliationEngine.Accepts sha256 run.engine state index block) :
    HoldsLastHash (run.step sha256 (.applyCatchUpBlock block)) := by
  obtain ⟨session, sessions, hsessions⟩ :=
    List.exists_cons_of_ne_nil (h.session state haccepts.active)
  have haccepted : (run.step sha256 (.applyCatchUpBlock block)).accepted =
      run.accepted ++ [block] := by
    rw [step_of_accepts haccepts, hsessions, accepted_addAccepted, CatchUpRun.accepted,
      CatchUpRun.accepted, hsessions]
  obtain ⟨hash, -, hmerkle⟩ := haccepts.hashed
  constructor
  · rw [haccepted, HashChain.headFrom_concat, step_of_accepts haccepts]
    rfl
  · rw [step_of_accepts haccepts]
    exact ⟨hash, hmerkle⟩
  · rw [step_of_accepts haccepts, hsessions]
    rintro state' -
    exact List.cons_ne_nil _ _

theorem holdsLastHash_step {c : EnclaveReconciliationEngine.Call} (h : HoldsLastHash run)
    (hc : HonestCall chain c) : HoldsLastHash (run.step sha256 c) := by
  cases c with
  | beginReconciliation startedAt localIndex targetCommitIndex =>
      rw [step_begin]
      refine ⟨?_, h.text, fun _ _ => List.cons_ne_nil _ _⟩
      rw [accepted_begin]
      exact h.head
  | applyCatchUpBlock block =>
      rcases EnclaveReconciliationEngine.applyCatchUpBlock_cases sha256 run.engine block with
        ⟨state, index, haccepts, -⟩ | ⟨failure, hrefused, -⟩
      · exact holdsLastHash_of_accepts h haccepts
      · rw [step_of_refused hrefused]
        exact h
  | applySnapshot snapshot => exact hc.elim
  | completeReconciliation =>
      rw [step_complete]
      exact ⟨h.head, h.text, fun _ hstate => by cases hstate⟩

/-- A session begun at block `L` takes the rest of the chain exactly when nothing is left or the
engine holds the hash of block `L`. -/
theorem allApplied_begin_iff {engine : EnclaveReconciliationEngine}
    {startedAt targetCommitIndex : JsNumber} {L : ℕ} (hchain : ChainFrom sha256 0 genesisHash chain)
    (hlength : chain.length < 2 ^ 53) (hL : L ≤ chain.length)
    (htext : ∃ s, engine.lastAppliedMerkleHash = .str s) :
    AllApplied sha256 (engine.beginReconciliation startedAt (.ofInt L) targetCommitIndex)
        (chain.drop L) ↔
      L = chain.length ∨
        HashChain.headFrom merkleHash genesisHash (chain.take L) =
          engine.lastAppliedMerkleHash := by
  have hrest := chainFrom_drop hchain hL
  have hstands := standsAt_begin engine startedAt targetCommitIndex L
  rw [Nat.zero_add] at hrest
  constructor
  · intro hall
    cases hdrop : chain.drop L with
    | nil =>
        rw [List.drop_eq_nil_iff] at hdrop
        exact .inl (by omega)
    | cons next more =>
        have hlt : L < chain.length := by
          have := congrArg List.length hdrop
          rw [List.length_drop, List.length_cons] at this
          omega
        rw [hdrop] at hrest hall
        obtain ⟨s, hs⟩ := htext
        have hlinked := (applied_iff hstands (by omega) hrest.1).1 hall.1
        rw [hs, strictEq_str] at hlinked
        exact .inr (hlinked.trans hs.symm)
  · rintro (rfl | hhash)
    · rw [List.drop_length]
      trivial
    · rw [hhash] at hrest
      exact (allApplied_of_chainFrom hstands htext (by rw [List.length_drop]; omega) hrest).1

/-- After any sessions over one honest chain, a new one begun at block `L` catches up exactly when
block `L` has the hash of the block accepted last. -/
theorem restarted_session_iff (sha256 : Sha256) (chain : List JsValue)
    (calls : List EnclaveReconciliationEngine.Call) (startedAt targetCommitIndex : JsNumber) (L : ℕ)
    (hchain : ChainFrom sha256 0 genesisHash chain) (hlength : chain.length < 2 ^ 53)
    (hcalls : ∀ c ∈ calls, HonestCall chain c) (hL : L ≤ chain.length) :
    AllApplied sha256 ((Run.run (CatchUpRun.step sha256) .fresh calls).engine.beginReconciliation
        startedAt (.ofInt L) targetCommitIndex) (chain.drop L) ↔
      L = chain.length ∨
        HashChain.headFrom merkleHash genesisHash (chain.take L) =
          HashChain.headFrom merkleHash genesisHash
            (Run.run (CatchUpRun.step sha256) .fresh calls).accepted := by
  have hstep : ∀ run c, HoldsLastHash run → HonestCall chain c →
      HoldsLastHash (run.step sha256 c) :=
    fun run c h hc => holdsLastHash_step h hc
  have hholds := Run.run_of_forall hstep holdsLastHash_fresh hcalls
  rw [← hholds.head]
  exact allApplied_begin_iff hchain hlength hL hholds.text

/-- Submitting blocks within a session adds those that are accepted to it. -/
theorem run_applyCatchUpBlocks (engine : EnclaveReconciliationEngine) (session : CatchUpSession)
    (sessions : List CatchUpSession) (blocks : List JsValue) :
    Run.run (CatchUpRun.step sha256) ⟨engine, session :: sessions⟩
        (blocks.map EnclaveReconciliationEngine.Call.applyCatchUpBlock) =
      ⟨applyBlocks sha256 engine blocks,
        { session with accepted := session.accepted ++ acceptedOf sha256 engine blocks } ::
          sessions⟩ := by
  induction blocks generalizing engine session with
  | nil => simp [acceptedOf, applyBlocks]
  | cons block blocks ih =>
      rw [List.map_cons, Run.run_cons, applyBlocks, List.foldl_cons]
      rcases EnclaveReconciliationEngine.applyCatchUpBlock_cases sha256 engine block with
        ⟨state, index, haccepts, hok⟩ | ⟨failure, hrefused, herror⟩
      · rw [step_of_accepts haccepts, acceptedOf_cons_of_ok hok, hok, CatchUpRun.addAccepted, ih,
          List.append_assoc]
        rfl
      · rw [step_of_refused hrefused, acceptedOf_cons_of_error herror, herror, ih]
        rfl

/-- A session that takes the first two blocks of the sample chain. -/
def partlyCaughtUp : List EnclaveReconciliationEngine.Call :=
  .beginReconciliation (.ofInt 0) (.ofInt 0) (.ofInt 3) ::
    (sampleChain.take 2).map .applyCatchUpBlock

theorem honestCall_partlyCaughtUp : ∀ c ∈ partlyCaughtUp, HonestCall sampleChain c := by
  intro c hc
  rcases List.mem_cons.1 hc with rfl | hc
  · trivial
  · obtain ⟨block, hblock, rfl⟩ := List.mem_map.1 hc
    exact List.mem_of_mem_take hblock

theorem accepted_partlyCaughtUp :
    (Run.run (CatchUpRun.step catchUpSha256) .fresh partlyCaughtUp).accepted =
      sampleChain.take 2 := by
  have hchain : ChainFrom catchUpSha256 0 genesisHash (sampleChain.take 2) := by
    have hsplit := chainFrom_sampleChain
    rw [← List.take_append_drop 2 sampleChain, chainFrom_append] at hsplit
    exact hsplit.1
  have hall := (allApplied_of_chainFrom (standsAt_begin .getInstance (.ofInt 0) (.ofInt 3) 0)
    ⟨"GENESIS_BLOCK", rfl⟩ (by decide) hchain).1
  rw [partlyCaughtUp, Run.run_cons, step_begin, run_applyCatchUpBlocks]
  simp only [CatchUpRun.accepted, CatchUpRun.fresh, List.reverse_singleton,
    List.flatMap_singleton, List.nil_append]
  exact acceptedOf_of_allApplied hall

theorem restarted_session_iff_sample :
    AllApplied catchUpSha256
        ((Run.run (CatchUpRun.step catchUpSha256) .fresh partlyCaughtUp).engine.beginReconciliation
          (.ofInt 0) (.ofInt (1 : ℕ)) (.ofInt 3)) (sampleChain.drop 1) ↔
      1 = sampleChain.length ∨
        HashChain.headFrom merkleHash genesisHash (sampleChain.take 1) =
          HashChain.headFrom merkleHash genesisHash
            (Run.run (CatchUpRun.step catchUpSha256) .fresh partlyCaughtUp).accepted :=
  restarted_session_iff catchUpSha256 sampleChain partlyCaughtUp (.ofInt 0) (.ofInt 3) 1
    chainFrom_sampleChain (by decide) honestCall_partlyCaughtUp (by decide)

/-- After two accepted blocks a session begun at index 1 refuses block 2. -/
theorem restart_refused :
    ChainFrom catchUpSha256 0 genesisHash sampleChain ∧
      (∀ c ∈ partlyCaughtUp, HonestCall sampleChain c) ∧
      (Run.run (CatchUpRun.step catchUpSha256) .fresh partlyCaughtUp).accepted =
        sampleChain.take 2 ∧
      ¬ AllApplied catchUpSha256
        ((Run.run (CatchUpRun.step catchUpSha256) .fresh partlyCaughtUp).engine.beginReconciliation
          (.ofInt 0) (.ofInt (1 : ℕ)) (.ofInt 3)) (sampleChain.drop 1) := by
  refine ⟨chainFrom_sampleChain, honestCall_partlyCaughtUp, accepted_partlyCaughtUp, ?_⟩
  have hstep : ∀ run c, HoldsLastHash run → HonestCall sampleChain c →
      HoldsLastHash (run.step catchUpSha256 c) :=
    fun run c h hc => holdsLastHash_step h hc
  have hhead := Run.run_of_forall hstep holdsLastHash_fresh honestCall_partlyCaughtUp
  have hlast := hhead.head
  rw [accepted_partlyCaughtUp] at hlast
  rw [allApplied_begin_iff chainFrom_sampleChain (by decide) (by decide) hhead.text, hlast]
  rintro (hlength | hhash)
  · cases hlength
  · have htext : firstEntryDigest.text = secondEntryDigest.text := JsValue.str.inj hhash
    revert htext
    decide

end UniverEscrow.Consensus
