import UniverEscrow.Bootstrap.KeptRecords
import UniverEscrow.Js.ParsedValue
import UniverEscrow.Lib.LastOccurrence
import UniverEscrow.Merkle.EnclaveMerkleAccumulator

/-!
# The routes that serve proofs

One route searches the records from the front and takes the proof from a map filled from the
front, another builds the proof in the accumulator.  Where an id is stored twice, what they
prove is the last record of it.
-/

namespace UniverEscrow.Router

open UniverEscrow.Js UniverEscrow.Ledger UniverEscrow.Merkle UniverEscrow.Bootstrap
open UniverEscrow.Lib.LastOccurrence UniverEscrow.Lib.Run

/-! ## GET /records -/

def Node.withStore (node : Node) (store : Store) : Node :=
  { node with auditor := { node.auditor with store := store } }

def recordsBody (records : List StoredRecord) : JsValue :=
  .arr (records.map StoredRecord.item)

/-- The read does not throw, so the handler's `catch` is never reached. -/
def listRecords (node : Node) : Node × Response :=
  let (records, store) := getAllRecords node.auditor.store
  (node.withStore store, ⟨200, recordsBody records⟩)

/-! ## GET /verify-proof/:transactionId -/

def proofToJs (proof : MerkleProof) : JsValue :=
  .obj [("siblings", .arr (proof.siblings.map .str)),
    ("leafIndex", .num (.ofInt proof.leafIndex)), ("leafCount", .num (.ofInt proof.leafCount))]

/-- The notary's state, if it could be fetched and is of the root just proved. -/
def servedAttestation (root : String) (fetched : Option NotaryAuthoritativeState) : JsValue :=
  match fetched with
  | none => .null
  | some attestation =>
      if attestation.root ≠ root then .null
      else .obj [("sequenceNumber", .num attestation.sequenceNumber),
        ("anchoringTimestamp", attestation.anchoringTimestamp),
        ("witnessSignatures", .arr (attestation.witnessSignatures.map Admin.witnessToJs))]

def proofResponse (transactionId : String) (leafIndex : ℕ) (leafHash : String)
    (proof : MerkleProof) (root : String) (attestation : JsValue) : Response :=
  ⟨200, .obj [("status", "SUCCESS"), ("transactionId", transactionId),
    ("leafIndex", .num (.ofInt leafIndex)), ("leafHash", leafHash), ("proof", proofToJs proof),
    ("root", root), ("attestation", attestation)]⟩

def proofNotFound : Response := failed 404 "Transaction element not found in ledger."

def verifyProof (platform : Platform) (replies : ℕ → NotaryReply) (transactionId : String)
    (node : Node) : Node × Response :=
  let (records, store) := getAllRecords node.auditor.store
  let ledger := merkleOfStored platform.sha256 records
  let node := node.withStore store
  match (records.map StoredRecord.record).findIdx? fun r => r.transactionId = transactionId with
  | none => (node, proofNotFound)
  | some matchIndex =>
      match ledger.proofByTransactionId.get? transactionId with
      | none => (node, failed 500 "Merkle proof construction failed for transaction.")
      | some (proof, leafHash) =>
          (node, proofResponse transactionId matchIndex leafHash proof ledger.root
            (servedAttestation ledger.root (fetchAuthoritativeState replies)))

/-! ## GET /audit/ledger-root -/

/-- What an accumulator keeps between calls. -/
structure AccumulatorCache where
  cachedRoot : Option String
  cachedLeafCount : Option ℕ
  cachedAt : Option String
  cachedProofsByTxId : Option (OrderedMap String (String × MerkleProof))

def newAccumulator : AccumulatorCache := ⟨none, none, none, none⟩

/-- `getRootHash`; the ledger is read a second time for the proofs, with nothing in between. -/
def getRootHash (sha256 : Sha256) (cache : AccumulatorCache) (store : Store) :
    String × AccumulatorCache × Store :=
  let (built, store) := EnclaveMerkleAccumulator.buildFromLedger sha256 store
  let fresh : String × AccumulatorCache × Store :=
    let (again, store) := EnclaveMerkleAccumulator.buildFromLedger sha256 store
    (built.root, ⟨some built.root, some built.leafCount, some built.snapshotFingerprint,
      some again.proofByTxId⟩, store)
  match cache.cachedRoot, cache.cachedLeafCount, cache.cachedAt with
  | some root, some _, some fingerprint =>
      if root ≠ "" ∧ fingerprint ≠ "" ∧ fingerprint = built.snapshotFingerprint then
        (root, cache, store)
      else fresh
  | _, _, _ => fresh

def rootResponse (root : String) : Response :=
  ⟨200, .obj [("status", "SUCCESS"), ("merkleRootHash", root)]⟩

/-- Every request makes an accumulator of its own. -/
def ledgerRoot (platform : Platform) (node : Node) : Node × Response :=
  let (root, _, store) := getRootHash platform.sha256 newAccumulator node.auditor.store
  (node.withStore store, rootResponse root)

/-! ## POST /audit/verify-inclusion -/

def receiptToJs (receipt : ZkInclusionReceipt) : JsValue :=
  .obj [("verified", .bool receipt.verified), ("computedRootHash", receipt.computedRootHash)]

def inclusionReceipt (sha256 : Sha256) (inclusion : InclusionResult) : ZkInclusionReceipt :=
  ZkInclusionVerifier.verify sha256 inclusion.leafHash inclusion.merkleRootHash
    inclusion.proof.toJs

def inclusionResponse (transactionId : String) (inclusion : InclusionResult)
    (receipt : ZkInclusionReceipt) : Response :=
  if !receipt.verified then
    ⟨403, .obj [("status", "FAILED"), ("verified", .bool false), ("receipt", receiptToJs receipt)]⟩
  else
    ⟨200, .obj [("status", "SUCCESS"), ("verified", .bool true), ("receipt", receiptToJs receipt),
      ("transactionId", transactionId), ("leafHash", inclusion.leafHash),
      ("proof", inclusion.proof.toJs)]⟩

def verifyInclusion (platform : Platform) (body : JsValue) (node : Node) : Node × Response :=
  match (body.get "transactionId").asString? with
  | none => (node, failed 400 "Missing transactionId")
  | some transactionId =>
      if transactionId = "" then (node, failed 400 "Missing transactionId")
      else
        match EnclaveMerkleAccumulator.getInclusionProof platform.sha256 transactionId
          node.auditor.store with
        | (.error message, store) => (node.withStore store, failed 500 message)
        | (.ok inclusion, store) =>
            (node.withStore store,
              inclusionResponse transactionId inclusion
                (inclusionReceipt platform.sha256 inclusion))

/-! ## What the maps hold -/

section Lookups

variable (sha256 : Sha256) {records : List EscrowRecord} {transactionId : String}

/-- Leaf hash and proof of the record at the index. -/
def leafOf (record : EscrowRecord) : String := escrowRecordLeafHash sha256 record.toRow

def proofAt (records : List EscrowRecord) (i : ℕ) : MerkleProof where
  siblings := proofSiblings (merkleOfRecords sha256 records).tree.layers i
  leafIndex := i
  leafCount := records.length

theorem tree_buildFromRecords (records : List EscrowRecord) :
    (EnclaveMerkleAccumulator.buildFromRecords sha256 records).tree =
      (merkleOfRecords sha256 records).tree := by
  simp [EnclaveMerkleAccumulator.buildFromRecords, merkleOfRecords, buildMerkleForLedger,
    Function.comp_def]

theorem proofByTransactionId_merkleOfRecords (records : List EscrowRecord) :
    (merkleOfRecords sha256 records).proofByTransactionId =
      .ofPairs (records.zipIdx.map fun (record, i) =>
        (record.transactionId, (proofAt sha256 records i, leafOf sha256 record))) := by
  have hmap := @filterMap_getProof sha256 _ _ (records.map EscrowRecord.toRow)
    (escrowRecordLeafHash sha256) fun row leaf proof => (row.transactionId, (proof, leaf))
  refine (congrArg OrderedMap.ofPairs hmap).trans (congrArg OrderedMap.ofPairs ?_)
  rw [List.zipIdx_map, List.map_map, List.length_map]
  rfl

theorem proofByTxId_buildFromRecords (records : List EscrowRecord) :
    (EnclaveMerkleAccumulator.buildFromRecords sha256 records).proofByTxId =
      .ofPairs (records.zipIdx.map fun (record, i) =>
        (record.transactionId, (leafOf sha256 record, proofAt sha256 records i))) := by
  have hmap := @filterMap_getProof sha256 _ _ records
    (fun record => escrowRecordLeafHash sha256 record.toRow)
    fun record leaf proof => (record.transactionId, (leaf, proof))
  refine (congrArg OrderedMap.ofPairs hmap).trans (congrArg OrderedMap.ofPairs ?_)
  have htree := tree_buildFromRecords sha256 records
  simp only [EnclaveMerkleAccumulator.buildFromRecords] at htree
  simp only [htree, proofAt, leafOf]

/-- Both maps hold the last record of an id, with the proof at its index. -/
theorem lookups_last (hmem : transactionId ∈ records.map EscrowRecord.transactionId) :
    ∃ i record, LastAt EscrowRecord.transactionId transactionId records i record ∧
      (merkleOfRecords sha256 records).proofByTransactionId.get? transactionId =
        some (proofAt sha256 records i, leafOf sha256 record) ∧
      (EnclaveMerkleAccumulator.buildFromRecords sha256 records).proofByTxId.get? transactionId =
        some (leafOf sha256 record, proofAt sha256 records i) := by
  obtain ⟨i, record, hlast, hfind⟩ := find?_reverse_zipIdx
    (fun record i => (proofAt sha256 records i, leafOf sha256 record)) hmem
  obtain ⟨j, record', hlast', hfind'⟩ := find?_reverse_zipIdx
    (fun record i => (leafOf sha256 record, proofAt sha256 records i)) hmem
  obtain ⟨rfl, rfl⟩ := hlast.unique hlast'
  refine ⟨i, record, hlast, ?_, ?_⟩
  · rw [proofByTransactionId_merkleOfRecords, OrderedMap.get?_ofPairs, hfind]
    rfl
  · rw [proofByTxId_buildFromRecords, OrderedMap.get?_ofPairs, hfind']
    rfl

theorem lookup_none (hmem : transactionId ∉ records.map EscrowRecord.transactionId) :
    (EnclaveMerkleAccumulator.buildFromRecords sha256 records).proofByTxId.get? transactionId =
      none := by
  rw [proofByTxId_buildFromRecords, OrderedMap.get?_ofPairs, Option.map_eq_none_iff,
    List.find?_eq_none]
  intro p hp hkey
  obtain ⟨⟨record, i⟩, hmember, rfl⟩ := List.mem_map.1 (List.mem_reverse.1 hp)
  apply hmem
  rw [← of_decide_eq_true hkey]
  exact List.mem_map_of_mem (List.fst_mem_of_mem_zipIdx hmember)

theorem verifyProof_proofAt {i : ℕ} {record : EscrowRecord} (hget : records[i]? = some record) :
    MerkleTree.verifyProof sha256 (leafOf sha256 record) (proofAt sha256 records i) =
      (merkleOfRecords sha256 records).root := by
  obtain ⟨hlt, rfl⟩ := List.getElem?_eq_some_iff.1 hget
  have hleaves := @leaves_merkleOfRecords sha256 records
  have hi : i < (records.map fun r => sha256Hex sha256 (leafText r)).length := by simpa using hlt
  have hverify := verifyProof_proofSiblings sha256 hi records.length
  rw [← hleaves] at hverify
  simpa [proofAt, leafOf, escrowRecordLeafHash, sha256HexFromJsonStable, leafText] using hverify

theorem receipt_proofAt {i : ℕ} {record : EscrowRecord} (hget : records[i]? = some record) :
    ZkInclusionVerifier.verify sha256 (leafOf sha256 record) (merkleOfRecords sha256 records).root
      (InclusionMatrix.toJs ⟨(proofAt sha256 records i).siblings,
        EnclaveMerkleAccumulator.leftRightMarkers (proofAt sha256 records i).siblings.length i, i,
        records.length⟩) =
      ⟨true, (merkleOfRecords sha256 records).root⟩ := by
  obtain ⟨hlt, rfl⟩ := List.getElem?_eq_some_iff.1 hget
  have hi : i < (EnclaveMerkleAccumulator.buildFromRecords sha256 records).leaves.length := by
    simpa [EnclaveMerkleAccumulator.buildFromRecords] using hlt
  have hverify := EnclaveMerkleAccumulator.verify_proofSiblings sha256
    (EnclaveMerkleAccumulator.hexLeaves_buildFromRecords records) hi
    records.length
  have htree := tree_buildFromRecords sha256 records
  simp only [EnclaveMerkleAccumulator.buildFromRecords] at htree hverify
  simpa [htree, proofAt, leafOf] using hverify

end Lookups

/-! ## What the routes answer -/

section Answers

variable (platform : Platform) (replies : ℕ → NotaryReply) (node : Node) (transactionId : String)

def ledgerRecords (node : Node) : List EscrowRecord :=
  (getAllRecords node.auditor.store).1.map StoredRecord.record

def servedRoot (platform : Platform) (node : Node) : String :=
  (merkleOfRecords platform.sha256 (ledgerRecords node)).root

def inclusionOf (sha256 : Sha256) (records : List EscrowRecord) (i : ℕ) (record : EscrowRecord) :
    InclusionResult where
  merkleRootHash := (merkleOfRecords sha256 records).root
  leafHash := leafOf sha256 record
  proof := {
    siblings := (proofAt sha256 records i).siblings
    leftRight := EnclaveMerkleAccumulator.leftRightMarkers
      (proofAt sha256 records i).siblings.length i
    leafIndex := i
    leafCount := records.length }

theorem storedRecord_eq_find? :
    storedRecord transactionId node =
      (ledgerRecords node).find? fun r => r.transactionId = transactionId := by
  unfold storedRecord ledgerRecords getAllRecords
  cases hread : readAllRecordsInternal (initializeStore node.auditor.store) with
  | none => simp [storedUnder, getRecord, hread]
  | some stored =>
      rw [storedUnder_eq_find? hread]
      simp only [hread, Option.getD_some]

theorem ledgerRoot_eq : (ledgerRoot platform node).2 = rootResponse (servedRoot platform node) := by
  have hroot := EnclaveMerkleAccumulator.root_buildFromRecords platform.sha256 (ledgerRecords node)
  exact congrArg rootResponse hroot

theorem getInclusionProof_eq (sha256 : Sha256) (store : Store) (hne : transactionId ≠ "") :
    (EnclaveMerkleAccumulator.getInclusionProof sha256 transactionId store).1 =
      match (EnclaveMerkleAccumulator.buildFromRecords sha256
        ((getAllRecords store).1.map StoredRecord.record)).proofByTxId.get? transactionId with
      | none => .error "TRANSACTION_NOT_FOUND"
      | some (leafHash, proof) => .ok ⟨(merkleOfRecords sha256
          ((getAllRecords store).1.map StoredRecord.record)).root, leafHash,
          proof.siblings, EnclaveMerkleAccumulator.leftRightMarkers proof.siblings.length
            proof.leafIndex, proof.leafIndex, proof.leafCount⟩ := by
  simp only [EnclaveMerkleAccumulator.getInclusionProof, if_neg hne,
    EnclaveMerkleAccumulator.buildFromLedger]
  rw [EnclaveMerkleAccumulator.root_buildFromRecords]
  cases (EnclaveMerkleAccumulator.buildFromRecords sha256
      ((getAllRecords store).1.map StoredRecord.record)).proofByTxId.get? transactionId with
  | none => rfl
  | some entry => rfl

theorem verifyInclusion_eq (hne : transactionId ≠ "") :
    (verifyInclusion platform (.obj [("transactionId", transactionId)]) node).2 =
      match (EnclaveMerkleAccumulator.getInclusionProof platform.sha256 transactionId
        node.auditor.store).1 with
      | .error message => failed 500 message
      | .ok inclusion =>
          inclusionResponse transactionId inclusion
            (inclusionReceipt platform.sha256 inclusion) := by
  have hid : ((JsValue.obj [("transactionId", .str transactionId)]).get "transactionId").asString? =
      some transactionId := rfl
  simp only [verifyInclusion, hid, if_neg hne]
  split <;> rename_i h <;> rw [h]

end Answers

/-- A reader who keeps what passes the guard gets from the body of `/records`, as JSON, the
records the proofs are about. -/
theorem readRecords_listRecords (node : Node) :
    ∃ items, (listRecords node).2.body.viaJson = .arr items ∧
      items.filterMap EscrowRecord.ofJs? = ledgerRecords node := by
  refine ⟨((getAllRecords node.auditor.store).1.map StoredRecord.item).map JsValue.viaJson, ?_, ?_⟩
  · simp only [listRecords, recordsBody, JsValue.viaJson, itemsViaJson_eq_map]
  rw [List.map_map, List.filterMap_map, ledgerRecords]
  have hitem : ∀ stored : StoredRecord,
      EscrowRecord.ofJs? stored.item.viaJson = some stored.record :=
    fun stored => EscrowRecord.ofJs?_viaJson stored.guard
  simp only [Function.comp_def, hitem]
  exact congrFun (List.filterMap_eq_map (f := StoredRecord.record)) _

/-! ## An accumulator that is kept -/

section Cache

variable (sha256 : Sha256)

def storeRecords (store : Store) : List EscrowRecord :=
  (getAllRecords store).1.map StoredRecord.record

def snapshotText (records : List EscrowRecord) : String :=
  JsValue.stringify (.obj [("root", (merkleOfRecords sha256 records).root),
    ("leafCount", .num (.ofInt records.length))])

def cacheStep (cache : AccumulatorCache) (store : Store) : AccumulatorCache :=
  (getRootHash sha256 cache store).2.1

/-- The cache is empty or holds the root of one of the ledgers, under its fingerprint. -/
def CachedFrom (ledgers : List (List EscrowRecord)) (cache : AccumulatorCache) : Prop :=
  cache = newAccumulator ∨ ∃ records ∈ ledgers,
    cache.cachedRoot = some (merkleOfRecords sha256 records).root ∧
    cache.cachedAt = some (sha256Hex sha256 (snapshotText sha256 records))

theorem root_eq_of_snapshotText {xs ys : List EscrowRecord}
    (h : snapshotText sha256 xs = snapshotText sha256 ys) :
    (merkleOfRecords sha256 xs).root = (merkleOfRecords sha256 ys).root := by
  have horder : ∀ records : List EscrowRecord,
      InOrder (.obj [("root", (merkleOfRecords sha256 records).root),
        ("leafCount", .num (.ofInt records.length))]) := by
    intro records
    refine .obj (by simp) ?_ ?_
    · have henumerates : enumerates "root" "leafCount" = true := by decide
      simpa using henumerates
    · intro m hm
      rcases List.mem_pair.1 hm with rfl | rfl
      · exact .str _
      · exact .num _
  have hjson := congrArg (fun v => v.get "root")
    (viaJson_eq_of_stringify_eq (horder xs) (horder ys) h)
  have hroot : ∀ records : List EscrowRecord,
      (JsValue.obj [("root", (merkleOfRecords sha256 records).root),
        ("leafCount", .num (.ofInt records.length))]).viaJson.get "root" =
        .str (merkleOfRecords sha256 records).root := fun records =>
    get_viaJson (v := .str (merkleOfRecords sha256 records).root) ⟨_, rfl⟩ rfl (by simp)
  simp only [hroot] at hjson
  exact JsValue.str.inj hjson

theorem snapshotFingerprint_eq (store : Store) :
    (EnclaveMerkleAccumulator.buildFromLedger sha256 store).1.snapshotFingerprint =
      sha256Hex sha256 (snapshotText sha256 (storeRecords store)) := by
  have hroot := EnclaveMerkleAccumulator.root_buildFromRecords sha256 (storeRecords store)
  have hcount : (EnclaveMerkleAccumulator.buildFromRecords sha256
      (storeRecords store)).tree.getLeafCount = (storeRecords store).length := by
    rw [tree_buildFromRecords, getLeafCount_merkleOfRecords]
  simp only [snapshotText, ← hroot, ← hcount]
  rfl

/-- One call either answers from the cache, under an equal fingerprint, or builds afresh. -/
theorem getRootHash_cases (cache : AccumulatorCache) (store : Store) :
    (∃ root, cache.cachedRoot = some root ∧
        cache.cachedAt = some (sha256Hex sha256 (snapshotText sha256 (storeRecords store))) ∧
        (getRootHash sha256 cache store).1 = root ∧ cacheStep sha256 cache store = cache) ∨
      ((getRootHash sha256 cache store).1 = (merkleOfRecords sha256 (storeRecords store)).root ∧
        (cacheStep sha256 cache store).cachedRoot =
          some (merkleOfRecords sha256 (storeRecords store)).root ∧
        (cacheStep sha256 cache store).cachedAt =
          some (sha256Hex sha256 (snapshotText sha256 (storeRecords store)))) := by
  have hroot : (EnclaveMerkleAccumulator.buildFromLedger sha256 store).1.root =
      (merkleOfRecords sha256 (storeRecords store)).root :=
    EnclaveMerkleAccumulator.root_buildFromRecords sha256 (storeRecords store)
  have hprint := snapshotFingerprint_eq sha256 store
  unfold cacheStep getRootHash
  dsimp only
  rw [hprint, hroot]
  split
  · rename_i root count fingerprint hcached _ hat
    split_ifs with hhit
    · exact .inl ⟨root, hcached, by rw [hat, hhit.2.2], rfl, rfl⟩
    · exact .inr ⟨rfl, rfl, rfl⟩
  · exact .inr ⟨rfl, rfl, rfl⟩

end Cache

end UniverEscrow.Router
