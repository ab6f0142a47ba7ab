import UniverEscrow.Consensus.HonestChain

/-!
# Catching up by snapshot

A snapshot's root is the fold over all entries up to its index; a block names the fold over the
entries of the block before it alone.
-/

namespace UniverEscrow.Consensus

open UniverEscrow.Js UniverEscrow.Merkle UniverEscrow.Lib

/-- The block's entries are an array of records. -/
def RecordBlock (block : JsValue) : Prop :=
  ∃ items, block.get "entries" = .arr items ∧ ∀ item ∈ items, item.isObject = true

def blockEntries (block : JsValue) : List JsValue :=
  match block.get "entries" with
  | .arr items => items
  | _ => []

def blockTexts (block : JsValue) : List String := (blockEntries block).map JsValue.stringify

/-- The entries of the first `k` blocks. -/
def ledgerUpTo (blocks : List JsValue) (k : ℕ) : List JsValue :=
  (blocks.take k).flatMap blockEntries

def ledgerTexts (blocks : List JsValue) (k : ℕ) : List String :=
  (ledgerUpTo blocks k).map JsValue.stringify

variable (sha256 : Sha256)

/-- The engine takes the snapshot and the blocks after it, and ends on the hash it ends on when it
takes all blocks. -/
structure SnapshotAgrees (engine : EnclaveReconciliationEngine) (snapshot : JsValue) (k : ℕ)
    (blocks : List JsValue) : Prop where
  taken : (engine.applySnapshot snapshot).1 = .ok ()
  rest : AllApplied sha256 (engine.applySnapshot snapshot).2 (blocks.drop k)
  head : (applyBlocks sha256 (engine.applySnapshot snapshot).2
      (blocks.drop k)).lastAppliedMerkleHash =
    (applyBlocks sha256 engine blocks).lastAppliedMerkleHash

variable {sha256} {block : JsValue} {blocks : List JsValue} {k : ℕ}

theorem jsonText?_of_isObject {v : JsValue} (h : v.isObject = true) :
    v.jsonText? = some v.stringify := by
  cases v with
  | arr items => rfl
  | obj members => rfl
  | _ => cases h

theorem mapM_jsonText? {items : List JsValue} (h : ∀ item ∈ items, item.isObject = true) :
    items.mapM JsValue.jsonText? = some (items.map JsValue.stringify) := by
  rw [JsValue.mapM_eq_some_iff, List.map_map]
  apply List.map_congr_left
  intro item hitem
  exact jsonText?_of_isObject (h item hitem)

theorem RecordBlock.isObject (h : RecordBlock block) :
    ∀ item ∈ blockEntries block, item.isObject = true := by
  obtain ⟨items, hitems, hobjects⟩ := h
  rw [blockEntries, hitems]
  exact hobjects

theorem RecordBlock.entryTexts (h : RecordBlock block) :
    (block.get "entries").entryTexts? = some (blockTexts block) := by
  have hobject := h.isObject
  obtain ⟨items, hitems, -⟩ := h
  rw [blockTexts, ← mapM_jsonText? hobject, blockEntries, hitems]
  rfl

theorem merkleHash_of_recordBlock (h : RecordBlock block) (hhashed : HashedBlock sha256 block) :
    merkleHash block = .str (foldEntryTexts sha256 (blockTexts block)).text := by
  obtain ⟨hash, hcompute, hmerkle⟩ := hhashed
  rw [computeBlockMerkleHash, h.entryTexts, Option.map_some, Option.some.injEq] at hcompute
  rw [hmerkle, hcompute]

theorem isObject_of_mem_ledgerUpTo (h : ∀ block ∈ blocks, RecordBlock block) :
    ∀ item ∈ ledgerUpTo blocks k, item.isObject = true := by
  intro item hitem
  obtain ⟨block, hblock, hitem⟩ := List.mem_flatMap.1 hitem
  exact (h block (List.mem_of_mem_take hblock)).isObject item hitem

theorem exists_createSnapshot (sha256 : Sha256) (k : ℕ) (manager : EnclaveSnapshotManager)
    (snapshotId : String) (timestamp latestTerm index : JsNumber) (signatures : List JsValue)
    (h : ∀ block ∈ blocks, RecordBlock block) :
    ∃ snapshot manager', manager.createSnapshot sha256 snapshotId timestamp index latestTerm
        (ledgerUpTo blocks k) signatures = some (snapshot, manager') ∧
      snapshot.quorumSignatures = signatures ∧ snapshot.metadata.latestIndex = index ∧
      snapshot.metadata.merkleRootHash =
        (foldEntryTexts sha256 (ledgerTexts blocks k)).text := by
  have hmap := mapM_jsonText? (isObject_of_mem_ledgerUpTo (k := k) h)
  rw [EnclaveSnapshotManager.createSnapshot, EnclaveSnapshotManager.computeMerkleRoot,
    EnclaveSnapshotManager.computeMerklePath, hmap]
  exact ⟨_, _, rfl, rfl, rfl, rfl⟩

/-! ## The engine after a snapshot -/

theorem accepts_toJs {snapshot : EpochStateSnapshot} (htwo : 2 ≤ snapshot.quorumSignatures.length)
    (hformat : ∀ sig ∈ snapshot.quorumSignatures,
      EnclaveSnapshotManager.hasSignatureFormat sig = true) :
    EnclaveSnapshotManager.accepts snapshot.toJs = true :=
  EnclaveSnapshotManager.accepts_iff.2 ⟨_, rfl, rfl, htwo, hformat, rfl⟩

theorem standsAt_applySnapshot (engine : EnclaveReconciliationEngine)
    {snapshot : EpochStateSnapshot} (startedAt localIndex targetCommitIndex : JsNumber)
    (hvalid : EnclaveSnapshotManager.accepts snapshot.toJs = true)
    (hindex : snapshot.metadata.latestIndex = .ofInt k) :
    ((engine.beginReconciliation startedAt localIndex targetCommitIndex).applySnapshot
        snapshot.toJs).1 = .ok () ∧
      StandsAt ((engine.beginReconciliation startedAt localIndex targetCommitIndex).applySnapshot
        snapshot.toJs).2 k (.str snapshot.metadata.merkleRootHash) := by
  rw [EnclaveReconciliationEngine.applySnapshot_of_accepts ⟨rfl, rfl, hvalid⟩]
  refine ⟨rfl, _, rfl, rfl, ?_, rfl⟩
  rw [← hindex]
  rfl

/-- The block at the end of the first `k`. -/
theorem exists_take_eq_concat (hk : 1 ≤ k) (hkn : k < blocks.length) :
    ∃ block ∈ blocks, blocks.take k = blocks.take (k - 1) ++ [block] := by
  have hlt : k - 1 < blocks.length := by omega
  refine ⟨blocks[k - 1], List.getElem_mem hlt, ?_⟩
  have htake := List.take_concat_get' blocks (k - 1) hlt
  rw [Nat.sub_add_cancel hk] at htake
  exact htake.symm

/-- The snapshot serves as well as the blocks exactly when its root is the hash of the last block
it covers. -/
theorem snapshotAgrees_iff_root (engine : EnclaveReconciliationEngine)
    {snapshot : EpochStateSnapshot} {startedAt targetCommitIndex : JsNumber}
    (hchain : ChainFrom sha256 0 engine.lastAppliedMerkleHash blocks)
    (htext : ∃ s, engine.lastAppliedMerkleHash = .str s)
    (hlength : blocks.length < 2 ^ 53) (hkn : k < blocks.length)
    (hlast : blocks.take k = blocks.take (k - 1) ++ [block])
    (hvalid : EnclaveSnapshotManager.accepts snapshot.toJs = true)
    (hindex : snapshot.metadata.latestIndex = .ofInt k) :
    SnapshotAgrees sha256 (engine.beginReconciliation startedAt (.ofInt 0) targetCommitIndex)
        snapshot.toJs k blocks ↔
      merkleHash block = .str snapshot.metadata.merkleRootHash := by
  obtain ⟨hok, hstands⟩ :=
    standsAt_applySnapshot engine startedAt (.ofInt 0) targetCommitIndex hvalid hindex
  have hrest : ChainFrom sha256 k (merkleHash block) (blocks.drop k) := by
    have hdrop := chainFrom_drop hchain hkn.le
    rwa [Nat.zero_add, hlast, HashChain.headFrom_concat] at hdrop
  have hend : (applyBlocks sha256 (engine.beginReconciliation startedAt (.ofInt 0)
      targetCommitIndex) blocks).lastAppliedMerkleHash =
        HashChain.headFrom merkleHash (merkleHash block) (blocks.drop k) := by
    obtain ⟨-, -, -, -, -, hhead⟩ := allApplied_of_chainFrom
      (standsAt_begin engine startedAt targetCommitIndex 0) htext (by omega) hchain
    rw [← List.take_append_drop k blocks, HashChain.headFrom_append, hlast,
      HashChain.headFrom_concat, ← hlast, List.take_append_drop] at hhead
    exact hhead
  constructor
  · intro h
    cases hdrop : blocks.drop k with
    | nil =>
        rw [List.drop_eq_nil_iff] at hdrop
        omega
    | cons next more =>
        have happlied := h.rest
        rw [hdrop] at hrest happlied
        exact strictEq_str.1 ((applied_iff hstands (by omega) hrest.1).1 happlied.1)
  · intro hroot
    rw [← hroot] at hstands
    obtain ⟨hall, -, -, -, -, hhead⟩ := allApplied_of_chainFrom hstands ⟨_, hroot⟩
      (by rw [List.length_drop]; omega) hrest
    exact ⟨hok, hall, hhead.trans hend.symm⟩

/-! ## When the root is the block's hash -/

theorem ledgerTexts_eq_append (hlast : blocks.take k = blocks.take (k - 1) ++ [block]) :
    ledgerTexts blocks k = ledgerTexts blocks (k - 1) ++ blockTexts block := by
  rw [ledgerTexts, ledgerUpTo, hlast, List.flatMap_append, List.map_append, List.flatMap_singleton]
  rfl

theorem ledgerTexts_eq_nil_iff (h : ∀ block ∈ blocks, RecordBlock block) (j : ℕ) :
    ledgerTexts blocks j = [] ↔ ∀ block ∈ blocks.take j, block.get "entries" = .arr [] := by
  rw [ledgerTexts, List.map_eq_nil_iff, ledgerUpTo, List.flatMap_eq_nil_iff]
  apply forall₂_congr
  intro block hblock
  obtain ⟨items, hitems, -⟩ := h block (List.mem_of_mem_take hblock)
  rw [blockEntries, hitems, JsValue.arr.injEq]

/-- Unless SHA-256 collides, one fold over all entries is the fold over the last block's only if
the blocks before it have none. -/
theorem fold_ledgerTexts_eq_iff (h : ∀ block ∈ blocks, RecordBlock block) (hmem : block ∈ blocks)
    (hlast : blocks.take k = blocks.take (k - 1) ++ [block])
    (hfree : CollisionFreeOn sha256 (entryHashInputs sha256 (ledgerTexts blocks k) ++
      blocks.flatMap fun b => entryHashInputs sha256 (blockTexts b))) :
    foldEntryTexts sha256 (blockTexts block) = foldEntryTexts sha256 (ledgerTexts blocks k) ↔
      ∀ b ∈ blocks.take (k - 1), b.get "entries" = .arr [] := by
  rw [← ledgerTexts_eq_nil_iff h]
  constructor
  · intro hfold
    have hledger : (JsValue.arr (ledgerUpTo blocks k)).entryTexts? = some (ledgerTexts blocks k) :=
      mapM_jsonText? (isObject_of_mem_ledgerUpTo h)
    have hsub : entryHashInputs sha256 (blockTexts block) ++
        entryHashInputs sha256 (ledgerTexts blocks k) ⊆
          entryHashInputs sha256 (ledgerTexts blocks k) ++
            blocks.flatMap fun b => entryHashInputs sha256 (blockTexts b) := by
      intro text htext
      rw [List.mem_append] at htext ⊢
      rcases htext with htext | htext
      · exact .inr (List.mem_flatMap.2 ⟨block, hmem, htext⟩)
      · exact .inl htext
    have htexts : blockTexts block = ledgerTexts blocks k := by
      apply entryTexts_eq_of_computeBlockMerkleHash_eq (h block hmem).entryTexts hledger
        (hfree.mono hsub)
      rw [computeBlockMerkleHash, computeBlockMerkleHash, (h block hmem).entryTexts, hledger,
        Option.map_some, Option.map_some, hfold]
    rw [ledgerTexts_eq_append hlast] at htexts
    have hlength := congrArg List.length htexts
    rw [List.length_append] at hlength
    exact List.length_eq_zero_iff.1 (by omega)
  · intro hnil
    rw [ledgerTexts_eq_append hlast, hnil, List.nil_append]

/-- Whatever the split into blocks, the snapshot of the first `k` blocks lets the rest be applied
exactly when all of the snapshot's entries are those of its last block. -/
theorem snapshot_catchUp_iff (sha256 : Sha256) (manager : EnclaveSnapshotManager)
    (snapshotId : String) (startedAt targetCommitIndex timestamp latestTerm : JsNumber)
    (signatures blocks : List JsValue) (k : ℕ) (hchain : ChainFrom sha256 0 genesisHash blocks)
    (hrecords : ∀ block ∈ blocks, RecordBlock block) (hk : 1 ≤ k) (hkn : k < blocks.length)
    (hlength : blocks.length < 2 ^ 53) (htwo : 2 ≤ signatures.length)
    (hformat : ∀ sig ∈ signatures, EnclaveSnapshotManager.hasSignatureFormat sig = true)
    (hfree : CollisionFreeOn sha256 (entryHashInputs sha256 (ledgerTexts blocks k) ++
      blocks.flatMap fun b => entryHashInputs sha256 (blockTexts b))) :
    ∃ snapshot manager',
      manager.createSnapshot sha256 snapshotId timestamp (.ofInt k) latestTerm
          (ledgerUpTo blocks k) signatures = some (snapshot, manager') ∧
        AllApplied sha256 (EnclaveReconciliationEngine.getInstance.beginReconciliation startedAt
          (.ofInt 0) targetCommitIndex) blocks ∧
        (SnapshotAgrees sha256 (EnclaveReconciliationEngine.getInstance.beginReconciliation
            startedAt (.ofInt 0) targetCommitIndex) snapshot.toJs k blocks ↔
          ∀ block ∈ blocks.take (k - 1), block.get "entries" = .arr []) := by
  obtain ⟨snapshot, manager', hcreate, hsignatures, hindex, hroot⟩ :=
    exists_createSnapshot sha256 k manager snapshotId timestamp latestTerm
      (.ofInt k) signatures hrecords
  obtain ⟨block, hmem, hlast⟩ := exists_take_eq_concat hk hkn
  have hvalid : EnclaveSnapshotManager.accepts snapshot.toJs = true :=
    accepts_toJs (by rwa [hsignatures]) (by rwa [hsignatures])
  have hgenesis : ∃ s, genesisHash = .str s := ⟨"GENESIS_BLOCK", rfl⟩
  obtain ⟨first, g, hnext⟩ := nextBlock_of_mem hchain hmem
  refine ⟨snapshot, manager', hcreate, ?_, ?_⟩
  · exact (allApplied_of_chainFrom (standsAt_begin .getInstance startedAt targetCommitIndex 0)
      hgenesis (by omega) hchain).1
  · rw [snapshotAgrees_iff_root .getInstance hchain hgenesis hlength hkn hlast hvalid
      hindex, merkleHash_of_recordBlock (hrecords block hmem) hnext.hashed, hroot,
      JsValue.str.injEq, ← fold_ledgerTexts_eq_iff hrecords hmem hlast hfree]
    exact ⟨hexDigest_ext, congrArg HexDigest.text⟩

/-! ## A sample -/

def sampleEntry (transactionId : String) : JsValue := .obj [("transactionId", transactionId)]

def firstEntryDigest : HexDigest :=
  ⟨"d6692d5e65af024828761fe95728fee9b48cf2b69548567b475201ea6b147e12", by decide⟩

def secondEntryDigest : HexDigest :=
  ⟨"4323946badb7a55de83b8f69d7e367249b9481dc14109dffbe7780bcb041c77f", by decide⟩

/-- SHA-256 on the texts of the two entries, of no entries and of the two entries in a row. -/
def catchUpSha256 : Sha256 := fun text =>
  if text = (sampleEntry "tx-1").stringify then firstEntryDigest
  else if text = (sampleEntry "tx-2").stringify then secondEntryDigest
  else if text = "EMPTY" then emptyDigest
  else ⟨"c14105b51dfa0f476c35dc2e94da22df35901e0533e3ce8c594fa3396e20918a", by decide⟩

/-- Two blocks of one entry each and an empty one. -/
def sampleChain : List JsValue :=
  [sampleBlock 1 [sampleEntry "tx-1"] firstEntryDigest.text "GENESIS_BLOCK",
    sampleBlock 2 [sampleEntry "tx-2"] secondEntryDigest.text firstEntryDigest.text,
    sampleBlock 3 [] emptyDigest.text secondEntryDigest.text]

theorem chainFrom_sampleChain : ChainFrom catchUpSha256 0 genesisHash sampleChain := by
  refine ⟨⟨rfl, rfl, ⟨_, ?_, rfl⟩, "sig", rfl, by decide⟩,
    ⟨rfl, rfl, ⟨_, ?_, rfl⟩, "sig", rfl, by decide⟩,
    ⟨rfl, rfl, ⟨_, ?_, rfl⟩, "sig", rfl, by decide⟩, trivial⟩
  · decide
  · decide
  · decide

theorem recordBlock_sampleChain : ∀ block ∈ sampleChain, RecordBlock block := by
  intro block hblock
  simp only [sampleChain, List.mem_cons, List.not_mem_nil, or_false] at hblock
  rcases hblock with rfl | rfl | rfl
  · exact ⟨_, rfl, by simp [sampleEntry, JsValue.isObject]⟩
  · exact ⟨_, rfl, by simp [sampleEntry, JsValue.isObject]⟩
  · exact ⟨_, rfl, by simp⟩

def sampleSignatures : List JsValue := [sampleSignatureOf "node_1", sampleSignatureOf "node_2"]

theorem snapshot_catchUp_iff_sample :
    ∃ snapshot manager',
      EnclaveSnapshotManager.getInstance.createSnapshot catchUpSha256 "snapshot-1" (.ofInt 0)
          (.ofInt (2 : ℕ)) (.ofInt 1) (ledgerUpTo sampleChain 2) sampleSignatures =
        some (snapshot, manager') ∧
      AllApplied catchUpSha256 (EnclaveReconciliationEngine.getInstance.beginReconciliation
        (.ofInt 0) (.ofInt 0) (.ofInt 3)) sampleChain ∧
      (SnapshotAgrees catchUpSha256 (EnclaveReconciliationEngine.getInstance.beginReconciliation
          (.ofInt 0) (.ofInt 0) (.ofInt 3)) snapshot.toJs 2 sampleChain ↔
        ∀ block ∈ sampleChain.take (2 - 1), block.get "entries" = .arr []) :=
  snapshot_catchUp_iff catchUpSha256 .getInstance "snapshot-1" (.ofInt 0) (.ofInt 3) (.ofInt 0)
    (.ofInt 1) sampleSignatures sampleChain 2 chainFrom_sampleChain recordBlock_sampleChain
    (by decide) (by decide) (by decide) (by decide) (by decide) (by decide)

/-- After the snapshot of the first two blocks the third one is refused. -/
theorem block_after_snapshot_refused :
    ChainFrom catchUpSha256 0 genesisHash sampleChain ∧
      (∀ block ∈ sampleChain, RecordBlock block) ∧
      ∃ snapshot manager',
        EnclaveSnapshotManager.getInstance.createSnapshot catchUpSha256 "snapshot-1" (.ofInt 0)
            (.ofInt (2 : ℕ)) (.ofInt 1) (ledgerUpTo sampleChain 2) sampleSignatures =
          some (snapshot, manager') ∧
        ¬ SnapshotAgrees catchUpSha256
          (EnclaveReconciliationEngine.getInstance.beginReconciliation (.ofInt 0) (.ofInt 0)
            (.ofInt 3)) snapshot.toJs 2 sampleChain := by
  obtain ⟨snapshot, manager', hcreate, hsignatures, hindex, hroot⟩ :=
    exists_createSnapshot catchUpSha256 2 .getInstance "snapshot-1" (.ofInt 0)
      (.ofInt 1) (.ofInt (2 : ℕ)) sampleSignatures recordBlock_sampleChain
  refine ⟨chainFrom_sampleChain, recordBlock_sampleChain, snapshot, manager', hcreate, ?_⟩
  have hvalid : EnclaveSnapshotManager.accepts snapshot.toJs = true :=
    accepts_toJs (by rw [hsignatures]; decide) (by rw [hsignatures]; decide)
  have hlast : sampleChain.take 2 = sampleChain.take (2 - 1) ++
      [sampleBlock 2 [sampleEntry "tx-2"] secondEntryDigest.text firstEntryDigest.text] := rfl
  rw [snapshotAgrees_iff_root .getInstance chainFrom_sampleChain ⟨_, rfl⟩ (by decide) (by decide)
    hlast hvalid hindex, hroot]
  intro heq
  have hroots : secondEntryDigest.text =
      (foldEntryTexts catchUpSha256 (ledgerTexts sampleChain 2)).text := JsValue.str.inj heq
  revert hroots
  decide

/-! ## Blocks by their hash -/

/-- All that is hashed for a list of entries. -/
def hashedStrings (sha256 : Sha256) (entries : List JsValue) : List String :=
  ((entries.mapM JsValue.jsonText?).map (entryHashInputs sha256)).getD []

theorem hashedStrings_of_mapM {entries : List JsValue} {texts : List String}
    (h : entries.mapM JsValue.jsonText? = some texts) :
    hashedStrings sha256 entries = entryHashInputs sha256 texts := by
  rw [hashedStrings, h]
  rfl

theorem exists_texts_of_computeBlockMerkleHash {entries : List JsValue} {hash : String}
    (h : computeBlockMerkleHash sha256 (.arr entries) = some hash) :
    ∃ texts, entries.mapM JsValue.jsonText? = some texts := by
  obtain ⟨texts, htexts, -⟩ := Option.map_eq_some_iff.1 h
  exact ⟨texts, htexts⟩

/-- The entry with a member that JSON leaves out. -/
def unsetEntry (transactionId : String) : JsValue :=
  .obj [("transactionId", transactionId), ("settledAt", .undefined)]

theorem stringify_unsetEntry (transactionId : String) :
    (unsetEntry transactionId).stringify = (sampleEntry transactionId).stringify := by
  simp [unsetEntry, sampleEntry, JsValue.stringify, JsValue.memberJsons]

theorem mapM_singleton {entry : JsValue} (h : entry.isObject = true) :
    [entry].mapM JsValue.jsonText? = some [entry.stringify] :=
  mapM_jsonText? (List.forall_mem_singleton.2 h)

theorem computeBlockMerkleHash_singleton {entry : JsValue} (h : entry.isObject = true) :
    computeBlockMerkleHash sha256 (.arr [entry]) = some (sha256 entry.stringify).text := by
  have hread : (JsValue.arr [entry]).entryTexts? = some [entry.stringify] := mapM_singleton h
  rw [computeBlockMerkleHash, hread, Option.map_some]
  rfl

end UniverEscrow.Consensus
