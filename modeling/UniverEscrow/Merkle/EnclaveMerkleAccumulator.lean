import UniverEscrow.Ledger.DatabaseService
import UniverEscrow.Merkle.ZkInclusionVerifier

/-!
# The Merkle accumulator

Inclusion proofs are built from the ledger as it is read.  The prover writes the side of each
level as a marker, the tree's own verifier reads it off the leaf index; both walk the same path.
-/

namespace UniverEscrow.Merkle

open UniverEscrow.Js UniverEscrow.Ledger UniverEscrow.Lib

structure AccumulatorBuild where
  root : String
  tree : MerkleTree
  leaves : List String
  /-- Leaf hash and proof of each record. -/
  proofByTxId : OrderedMap String (String × MerkleProof)
  leafCount : ℕ
  snapshotFingerprint : String

structure InclusionMatrix where
  siblings : List String
  leftRight : List String
  leafIndex : ℕ
  leafCount : ℕ

structure InclusionResult where
  merkleRootHash : String
  leafHash : String
  proof : InclusionMatrix

def InclusionMatrix.toJs (matrix : InclusionMatrix) : JsValue :=
  .obj [("siblings", .arr (matrix.siblings.map .str)),
    ("leftRight", .arr (matrix.leftRight.map .str)),
    ("leafIndex", .num (.ofInt matrix.leafIndex)),
    ("leafCount", .num (.ofInt matrix.leafCount))]

namespace EnclaveMerkleAccumulator

variable (sha256 : Sha256)

/-- Every index of the loop has a proof, so no entry is missing. -/
def buildFromRecords (records : List EscrowRecord) : AccumulatorBuild :=
  let leaves := records.map fun record => escrowRecordLeafHash sha256 record.toRow
  let tree := MerkleTree.new sha256 leaves
  let root := tree.getRoot
  { root := root
    tree := tree
    leaves := leaves
    proofByTxId := .ofPairs ((records.zip leaves).zipIdx.filterMap fun ((record, leaf), i) =>
      (tree.getProof i).map fun proof => (record.transactionId, (leaf, proof)))
    leafCount := tree.getLeafCount
    snapshotFingerprint := sha256Hex sha256 (JsValue.stringify
      (.obj [("root", root), ("leafCount", .num (.ofInt tree.getLeafCount))])) }

def buildFromLedger (store : Store) : AccumulatorBuild × Store :=
  let (records, store) := getAllRecords store
  (buildFromRecords sha256 (records.map StoredRecord.record), store)

/-- `'R'` where the node is a right child. -/
def leftRightMarkers : ℕ → ℕ → List String
  | 0, _ => []
  | levels + 1, idx => (if idx % 2 = 1 then "R" else "L") :: leftRightMarkers levels (idx / 2)

/-- The result or the message of the error, with the store as the call leaves it. -/
def getInclusionProof (transactionId : JsValue) (store : Store) :
    Except String InclusionResult × Store :=
  match transactionId with
  | .str id =>
      if id = "" then (.error "transactionId must be a non-empty string", store)
      else
        let (built, store) := buildFromLedger sha256 store
        match built.proofByTxId.get? id with
        | none => (.error "TRANSACTION_NOT_FOUND", store)
        | some (leafHash, proof) =>
            (.ok {
              merkleRootHash := built.root
              leafHash := leafHash
              proof := {
                siblings := proof.siblings
                leftRight := leftRightMarkers proof.siblings.length proof.leafIndex
                leafIndex := proof.leafIndex
                leafCount := proof.leafCount } }, store)
  | _ => (.error "transactionId must be a non-empty string", store)

variable {sha256}

/-! ## The matrix of a proof -/

theorem level?_eq {s : String} (hs : isHex64 s = true) (right : Bool) :
    ZkInclusionVerifier.level? (.str s) (.str (if right = true then "R" else "L")) =
      some (right, s) := by
  cases right <;> simp [ZkInclusionVerifier.level?, hs, JsValue.isStr, JsValue.asString?]

theorem levels?_markers {siblings : List String} (h : ∀ s ∈ siblings, isHex64 s = true) (idx : ℕ) :
    ZkInclusionVerifier.levels? ((siblings.map JsValue.str).zip
        ((leftRightMarkers siblings.length idx).map JsValue.str)) =
      some ((PairTree.parities siblings.length idx).zip siblings) := by
  induction siblings generalizing idx with
  | nil => rfl
  | cons s siblings ih =>
      have hhead := level?_eq (h s List.mem_cons_self) (decide (idx % 2 = 1))
      have htail := ih (fun t ht => h t (List.mem_cons_of_mem _ ht)) (idx / 2)
      simp only [decide_eq_true_eq] at hhead
      simp only [List.length_cons, leftRightMarkers, List.map_cons, List.zip_cons_cons,
        ZkInclusionVerifier.levels?, PairTree.parities, hhead, htail]
      rfl

@[simp] theorem length_leftRightMarkers (levels idx : ℕ) :
    (leftRightMarkers levels idx).length = levels := by
  induction levels generalizing idx with
  | zero => rfl
  | succ levels ih => rw [leftRightMarkers, List.length_cons, ih]

theorem path?_toJs {siblings : List String} (h : ∀ s ∈ siblings, isHex64 s = true)
    (leafIndex leafCount : ℕ) :
    ZkInclusionVerifier.path? (InclusionMatrix.toJs
        ⟨siblings, leftRightMarkers siblings.length leafIndex, leafIndex, leafCount⟩) =
      some ((PairTree.parities siblings.length leafIndex).zip siblings) := by
  simp [ZkInclusionVerifier.path?, InclusionMatrix.toJs, JsValue.get, levels?_markers h]

/-! ## Prover and verifier -/

theorem verify_proofSiblings (sha256 : Sha256) {leaves : List String} (hhex : HexLeaves leaves)
    {i : ℕ} (hi : i < leaves.length) (leafCount : ℕ) :
    ZkInclusionVerifier.verify sha256 (leaves.get ⟨i, hi⟩)
        (MerkleTree.new sha256 leaves).getRoot
        (InclusionMatrix.toJs ⟨proofSiblings (MerkleTree.new sha256 leaves).layers i,
          leftRightMarkers (proofSiblings (MerkleTree.new sha256 leaves).layers i).length i, i,
          leafCount⟩) =
      ⟨true, (MerkleTree.new sha256 leaves).getRoot⟩ := by
  have hne : leaves ≠ [] := List.length_pos_iff.1 (Nat.zero_lt_of_lt hi)
  have hpath := path?_toJs (isHex64_of_mem_proofSiblings sha256 hhex hi) i leafCount
  have hclimb := climb_proofSiblings sha256 hi
  rw [← length_proofSiblings _ i] at hclimb
  rw [ZkInclusionVerifier.verify_of_path? (hhex _ (List.get_mem _ _))
    (isHex64_getRoot sha256 hne hhex) hpath, hclimb]
  simp

theorem hexLeaves_buildFromRecords (records : List EscrowRecord) :
    HexLeaves (buildFromRecords sha256 records).leaves := by
  intro s hs
  obtain ⟨record, -, rfl⟩ := List.mem_map.1 hs
  exact isHex64_sha256Hex sha256 _

theorem root_buildFromRecords (sha256 : Sha256) (records : List EscrowRecord) :
    (buildFromRecords sha256 records).root = (merkleOfRecords sha256 records).root := by
  simp [buildFromRecords, merkleOfRecords, buildMerkleForLedger, Function.comp_def]

/-- The entry of an id is the leaf and the proof of some record with it. -/
theorem proofByTxId_get? (sha256 : Sha256) {records : List EscrowRecord} {id : String}
    (hid : ∃ record ∈ records, record.transactionId = id) :
    ∃ (i : ℕ) (hi : i < (buildFromRecords sha256 records).leaves.length),
      (buildFromRecords sha256 records).proofByTxId.get? id =
        some ((buildFromRecords sha256 records).leaves.get ⟨i, hi⟩,
          ⟨proofSiblings (buildFromRecords sha256 records).tree.layers i, i,
            (buildFromRecords sha256 records).leaves.length⟩) := by
  obtain ⟨record, hrecord, rfl⟩ := hid
  have hmap : (buildFromRecords sha256 records).proofByTxId = .ofPairs _ :=
    congrArg OrderedMap.ofPairs (filterMap_getProof records
      (fun record => escrowRecordLeafHash sha256 record.toRow)
      fun record leaf proof => (record.transactionId, (leaf, proof)))
  have hkey : record.transactionId ∈ (records.zipIdx.map fun (record, i) =>
      (record.transactionId, escrowRecordLeafHash sha256 record.toRow,
        (⟨proofSiblings (buildFromRecords sha256 records).tree.layers i, i,
          records.length⟩ : MerkleProof))).map Prod.fst := by
    obtain ⟨i, hi⟩ := List.getElem?_of_mem hrecord
    have hentry := List.mk_mem_zipIdx_iff_getElem?.2 hi
    exact List.mem_map.2 ⟨_, List.mem_map_of_mem hentry, rfl⟩
  obtain ⟨v, hv⟩ := OrderedMap.exists_get?_ofPairs hkey
  have hmem := OrderedMap.mem_of_get?_ofPairs hv
  simp only [List.mem_map, Prod.exists, Prod.mk.injEq] at hmem
  obtain ⟨found, i, hi, -, rfl⟩ := hmem
  have hfound := List.mk_mem_zipIdx_iff_getElem?.1 hi
  obtain ⟨hlt, hget⟩ := List.getElem?_eq_some_iff.1 hfound
  refine ⟨i, by simpa [buildFromRecords] using hlt, ?_⟩
  rw [hmap]
  refine hv.trans ?_
  simp [buildFromRecords, hget]

/-- The result for an id is the leaf and the matrix of some record with it. -/
theorem getInclusionProof_ok (sha256 : Sha256) {store : Store} {transactionId : String}
    (hne : transactionId ≠ "") {records : List EscrowRecord}
    (hrecords : (getAllRecords store).1.map StoredRecord.record = records)
    (hid : ∃ record ∈ records, record.transactionId = transactionId) :
    ∃ (i : ℕ) (hi : i < (buildFromRecords sha256 records).leaves.length),
      (getInclusionProof sha256 transactionId store).1 =
        .ok ⟨(buildFromRecords sha256 records).root,
          (buildFromRecords sha256 records).leaves.get ⟨i, hi⟩,
          proofSiblings (buildFromRecords sha256 records).tree.layers i,
          leftRightMarkers
            (proofSiblings (buildFromRecords sha256 records).tree.layers i).length i,
          i, (buildFromRecords sha256 records).leaves.length⟩ := by
  obtain ⟨i, hi, hget⟩ := proofByTxId_get? sha256 hid
  refine ⟨i, hi, ?_⟩
  simp only [getInclusionProof, if_neg hne, buildFromLedger, hrecords, hget]

/-- A ledger that holds one locked record. -/
def sampleLedger : Store :=
  writeLedger [sampleRecord.toRow.toEntry]
    { ledger := none, checkpoint := none, storeInitialized := true }

theorem sampleRecord_mem_getAllRecords :
    ∃ stored ∈ (getAllRecords sampleLedger).1,
      stored.record.transactionId = sampleRecord.transactionId := by
  obtain ⟨stored, hread, hrecords⟩ := readAllRecordsInternal_writeLedger
    (.cons (toEntry_toRow_holds sampleRecord) .nil)
    { ledger := none, checkpoint := none, storeInitialized := true }
  have hall : (getAllRecords sampleLedger).1 = stored := by
    change (readAllRecordsInternal sampleLedger).getD [] = stored
    rw [sampleLedger, hread, Option.getD_some]
  have hmem : sampleRecord ∈ stored.map StoredRecord.record := by simp [hrecords]
  obtain ⟨r, hr, hrecord⟩ := List.mem_map.1 hmem
  rw [hall]
  exact ⟨r, hr, by rw [hrecord]⟩

end EnclaveMerkleAccumulator

end UniverEscrow.Merkle
