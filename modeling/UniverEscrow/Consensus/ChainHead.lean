import UniverEscrow.Consensus.SnapshotCatchUp

/-!
# What the head hash commits to

A block's hash covers its entries and nothing before them, so the head of a chain tells the
entries of its last block only.
-/

namespace UniverEscrow.Consensus

open UniverEscrow.Js UniverEscrow.Merkle UniverEscrow.Lib

variable (sha256 : Sha256)

/-- The blocks accepted when they are submitted in order. -/
def acceptedOf : EnclaveReconciliationEngine → List JsValue → List JsValue
  | _, [] => []
  | engine, block :: blocks =>
      match engine.applyCatchUpBlock sha256 block with
      | (.ok (), engine') => block :: acceptedOf engine' blocks
      | (.error _, engine') => acceptedOf engine' blocks

/-- The JSON texts of the entries a block is hashed over. -/
def textsOf (block : JsValue) : List String := (block.get "entries").entryTexts?.getD []

/-- A session of a fresh engine that begins at index 0. -/
def sessionFromZero (startedAt targetCommitIndex : JsNumber) : EnclaveReconciliationEngine :=
  EnclaveReconciliationEngine.getInstance.beginReconciliation startedAt (.ofInt 0)
    targetCommitIndex

variable {sha256} {engine : EnclaveReconciliationEngine} {blocks : List JsValue}

theorem acceptedOf_cons_of_ok {engine' : EnclaveReconciliationEngine} {block : JsValue}
    (h : engine.applyCatchUpBlock sha256 block = (.ok (), engine')) :
    acceptedOf sha256 engine (block :: blocks) = block :: acceptedOf sha256 engine' blocks := by
  rw [acceptedOf, h]

theorem acceptedOf_cons_of_error {failure : CatchUpFailure} {block : JsValue}
    (h : engine.applyCatchUpBlock sha256 block = (.error failure, engine)) :
    acceptedOf sha256 engine (block :: blocks) = acceptedOf sha256 engine blocks := by
  rw [acceptedOf, h]

theorem acceptedOf_of_allApplied (h : AllApplied sha256 engine blocks) :
    acceptedOf sha256 engine blocks = blocks := by
  induction blocks generalizing engine with
  | nil => rfl
  | cons block blocks ih =>
      rw [acceptedOf_cons_of_ok (Prod.ext h.1 rfl), ih h.2]

theorem hashedBlock_of_mem_acceptedOf :
    ∀ block ∈ acceptedOf sha256 engine blocks, HashedBlock sha256 block := by
  induction blocks generalizing engine with
  | nil => simp [acceptedOf]
  | cons block blocks ih =>
      rcases EnclaveReconciliationEngine.applyCatchUpBlock_cases sha256 engine block with
        ⟨state, index, haccepts, hok⟩ | ⟨failure, -, herror⟩
      · rw [acceptedOf_cons_of_ok hok]
        exact List.forall_mem_cons.2 ⟨haccepts.hashed, ih⟩
      · rw [acceptedOf_cons_of_error herror]
        exact ih

/-- The head is the hash of the last accepted block. -/
theorem lastAppliedMerkleHash_applyBlocks :
    (applyBlocks sha256 engine blocks).lastAppliedMerkleHash =
      HashChain.headFrom merkleHash engine.lastAppliedMerkleHash
        (acceptedOf sha256 engine blocks) := by
  induction blocks generalizing engine with
  | nil => rfl
  | cons block blocks ih =>
      rw [applyBlocks, List.foldl_cons]
      rcases EnclaveReconciliationEngine.applyCatchUpBlock_cases sha256 engine block with
        ⟨state, index, haccepts, hok⟩ | ⟨failure, -, herror⟩
      · rw [acceptedOf_cons_of_ok hok, hok, HashChain.headFrom_cons]
        exact ih
      · rw [acceptedOf_cons_of_error herror, herror]
        exact ih

/-- Two accepted blocks have one hash exactly when they have the same entries, unless SHA-256
collides. -/
theorem merkleHash_eq_iff {block block' : JsValue} (h : HashedBlock sha256 block)
    (h' : HashedBlock sha256 block')
    (hfree : CollisionFreeOn sha256
      (entryHashInputs sha256 (textsOf block) ++ entryHashInputs sha256 (textsOf block'))) :
    merkleHash block = merkleHash block' ↔ textsOf block = textsOf block' := by
  obtain ⟨hash, hcompute, hmerkle⟩ := h
  obtain ⟨hash', hcompute', hmerkle'⟩ := h'
  obtain ⟨texts, htexts, rfl⟩ := Option.map_eq_some_iff.1 hcompute
  obtain ⟨texts', htexts', rfl⟩ := Option.map_eq_some_iff.1 hcompute'
  rw [textsOf, textsOf, htexts, htexts'] at hfree ⊢
  rw [hmerkle, hmerkle', JsValue.str.injEq]
  constructor
  · intro heq
    apply entryTexts_eq_of_computeBlockMerkleHash_eq htexts htexts' hfree
    rw [hcompute, hcompute', heq]
  · intro heq
    rw [Option.getD_some, Option.getD_some] at heq
    rw [heq]

theorem map_eq_map_iff_of_forall {α β γ : Type*} {f : α → β} {g : α → γ} {xs ys : List α}
    (h : ∀ x ∈ xs, ∀ y ∈ ys, f x = f y ↔ g x = g y) :
    xs.map f = ys.map f ↔ xs.map g = ys.map g := by
  induction xs generalizing ys with
  | nil => simp
  | cons x xs ih =>
      cases ys with
      | nil => simp
      | cons y ys =>
          rw [List.map_cons, List.map_cons, List.map_cons, List.map_cons, List.cons.injEq,
            List.cons.injEq, h x List.mem_cons_self y List.mem_cons_self,
            ih fun x' hx' y' hy' =>
              h x' (List.mem_cons_of_mem x hx') y' (List.mem_cons_of_mem y hy')]

/-- The head commits to the last block; the whole history agrees exactly when every block's hash
does. -/
theorem head_commits_to_last_block (sha256 : Sha256)
    (startedAt targetCommitIndex startedAt' targetCommitIndex' : JsNumber)
    (blocks blocks' accepted accepted' : List JsValue)
    (haccepted : acceptedOf sha256 (sessionFromZero startedAt targetCommitIndex) blocks = accepted)
    (haccepted' : acceptedOf sha256 (sessionFromZero startedAt' targetCommitIndex') blocks' =
      accepted')
    (hlength : accepted.length = accepted'.length)
    (hfree : CollisionFreeOn sha256
      ((accepted ++ accepted').flatMap fun b => entryHashInputs sha256 (textsOf b)))
    (hhead : (applyBlocks sha256 (sessionFromZero startedAt targetCommitIndex)
        blocks).lastAppliedMerkleHash =
      (applyBlocks sha256 (sessionFromZero startedAt' targetCommitIndex')
        blocks').lastAppliedMerkleHash) :
    accepted.getLast?.map textsOf = accepted'.getLast?.map textsOf ∧
      (accepted.map textsOf = accepted'.map textsOf ↔
        accepted.map merkleHash = accepted'.map merkleHash) := by
  rw [lastAppliedMerkleHash_applyBlocks, lastAppliedMerkleHash_applyBlocks, haccepted,
    haccepted'] at hhead
  have hiff : ∀ b ∈ accepted, ∀ b' ∈ accepted',
      (textsOf b = textsOf b' ↔ merkleHash b = merkleHash b') := by
    intro b hb b' hb'
    have hhashed : HashedBlock sha256 b :=
      hashedBlock_of_mem_acceptedOf b (by rw [haccepted]; exact hb)
    have hhashed' : HashedBlock sha256 b' :=
      hashedBlock_of_mem_acceptedOf b' (by rw [haccepted']; exact hb')
    refine (merkleHash_eq_iff hhashed hhashed' (hfree.mono ?_)).symm
    intro text htext
    rw [List.mem_flatMap]
    rcases List.mem_append.1 htext with htext | htext
    · exact ⟨b, List.mem_append_left accepted' hb, htext⟩
    · exact ⟨b', List.mem_append_right accepted hb', htext⟩
  refine ⟨?_, map_eq_map_iff_of_forall hiff⟩
  rcases List.eq_nil_or_concat' accepted with rfl | ⟨init, b, rfl⟩
  · rw [List.length_eq_zero_iff.1 hlength.symm]
  · rcases List.eq_nil_or_concat' accepted' with rfl | ⟨init', b', rfl⟩
    · simp at hlength
    · rw [HashChain.headFrom_concat, HashChain.headFrom_concat] at hhead
      rw [List.getLast?_concat, List.getLast?_concat, Option.map_some, Option.map_some,
        (hiff b (by simp) b' (by simp)).2 hhead]

/-! ## A sample -/

/-- An empty second block after a first one of one entry. -/
def chainStartingWith (transactionId : String) (digest : HexDigest) : List JsValue :=
  [sampleBlock 1 [sampleEntry transactionId] digest.text "GENESIS_BLOCK",
    sampleBlock 2 [] emptyDigest.text digest.text]

def sampleSession : EnclaveReconciliationEngine := sessionFromZero (.ofInt 0) (.ofInt 2)

theorem allApplied_chainStartingWith {transactionId : String} {digest : HexDigest}
    (hhash : computeBlockMerkleHash catchUpSha256 (.arr [sampleEntry transactionId]) =
      some digest.text) :
    AllApplied catchUpSha256 sampleSession (chainStartingWith transactionId digest) := by
  have hempty : computeBlockMerkleHash catchUpSha256 (.arr []) = some emptyDigest.text := by
    decide +kernel
  have hchain : ChainFrom catchUpSha256 0 genesisHash (chainStartingWith transactionId digest) :=
    ⟨⟨rfl, rfl, ⟨_, hhash, rfl⟩, "sig", rfl, by decide⟩,
      ⟨rfl, rfl, ⟨_, hempty, rfl⟩, "sig", rfl, by decide⟩, trivial⟩
  exact (allApplied_of_chainFrom (standsAt_begin .getInstance (.ofInt 0) (.ofInt 2) 0)
    ⟨"GENESIS_BLOCK", rfl⟩ (by simp [chainStartingWith]) hchain).1

theorem acceptedOf_tx1 :
    acceptedOf catchUpSha256 sampleSession (chainStartingWith "tx-1" firstEntryDigest) =
      chainStartingWith "tx-1" firstEntryDigest :=
  acceptedOf_of_allApplied (allApplied_chainStartingWith (by decide +kernel))

theorem acceptedOf_tx2 :
    acceptedOf catchUpSha256 sampleSession (chainStartingWith "tx-2" secondEntryDigest) =
      chainStartingWith "tx-2" secondEntryDigest :=
  acceptedOf_of_allApplied (allApplied_chainStartingWith (by decide +kernel))

theorem applyBlocks_chains_head :
    (applyBlocks catchUpSha256 sampleSession
        (chainStartingWith "tx-1" firstEntryDigest)).lastAppliedMerkleHash =
      (applyBlocks catchUpSha256 sampleSession
        (chainStartingWith "tx-2" secondEntryDigest)).lastAppliedMerkleHash := by
  rw [lastAppliedMerkleHash_applyBlocks, lastAppliedMerkleHash_applyBlocks, acceptedOf_tx1,
    acceptedOf_tx2]
  rfl

theorem collisionFreeOn_chains :
    CollisionFreeOn catchUpSha256
      ((chainStartingWith "tx-1" firstEntryDigest ++
        chainStartingWith "tx-2" secondEntryDigest).flatMap
          fun b => entryHashInputs catchUpSha256 (textsOf b)) := by
  decide +kernel

theorem head_commits_to_last_block_sample :
    (chainStartingWith "tx-1" firstEntryDigest).getLast?.map textsOf =
        (chainStartingWith "tx-2" secondEntryDigest).getLast?.map textsOf ∧
      ((chainStartingWith "tx-1" firstEntryDigest).map textsOf =
          (chainStartingWith "tx-2" secondEntryDigest).map textsOf ↔
        (chainStartingWith "tx-1" firstEntryDigest).map merkleHash =
          (chainStartingWith "tx-2" secondEntryDigest).map merkleHash) :=
  head_commits_to_last_block catchUpSha256 (.ofInt 0) (.ofInt 2) (.ofInt 0) (.ofInt 2)
    (chainStartingWith "tx-1" firstEntryDigest) (chainStartingWith "tx-2" secondEntryDigest)
    _ _ acceptedOf_tx1 acceptedOf_tx2 rfl collisionFreeOn_chains applyBlocks_chains_head

/-- Two histories of two blocks that differ in the first one and end on one head. -/
theorem head_misses_first_block :
    acceptedOf catchUpSha256 sampleSession (chainStartingWith "tx-1" firstEntryDigest) =
        chainStartingWith "tx-1" firstEntryDigest ∧
      acceptedOf catchUpSha256 sampleSession (chainStartingWith "tx-2" secondEntryDigest) =
        chainStartingWith "tx-2" secondEntryDigest ∧
      CollisionFreeOn catchUpSha256
        ((chainStartingWith "tx-1" firstEntryDigest ++
          chainStartingWith "tx-2" secondEntryDigest).flatMap
            fun b => entryHashInputs catchUpSha256 (textsOf b)) ∧
      (applyBlocks catchUpSha256 sampleSession
          (chainStartingWith "tx-1" firstEntryDigest)).lastAppliedMerkleHash =
        (applyBlocks catchUpSha256 sampleSession
          (chainStartingWith "tx-2" secondEntryDigest)).lastAppliedMerkleHash ∧
      (chainStartingWith "tx-1" firstEntryDigest).map textsOf ≠
        (chainStartingWith "tx-2" secondEntryDigest).map textsOf :=
  ⟨acceptedOf_tx1, acceptedOf_tx2, collisionFreeOn_chains, applyBlocks_chains_head,
    by decide +kernel⟩

end UniverEscrow.Consensus
