import UniverEscrow.Js.OrderedMap
import UniverEscrow.Ledger.EscrowRecord
import UniverEscrow.Merkle.MerkleTree

/-!
# Merkle tree of the ledger

A leaf hashes the stable JSON text of five of a record's seven fields.
-/

namespace UniverEscrow.Merkle

open UniverEscrow.Js UniverEscrow.Ledger

variable (sha256 : Sha256)

def leafObject (row : LedgerRow) : JsValue :=
  .obj [("domain", "ESCROW_LEDGER_LEAF"),
    ("v", .obj [("transactionId", row.transactionId),
      ("escrowRecordLeafHash", row.escrowRecordLeafHash),
      ("signature", row.signature),
      ("status", row.status),
      ("timestamp", row.timestamp)])]

def escrowRecordLeafHash (row : LedgerRow) : String :=
  sha256HexFromJsonStable sha256 (leafObject row)

structure LedgerMerkle where
  tree : MerkleTree
  root : String
  /-- Proof and leaf hash of each record. -/
  proofByTransactionId : OrderedMap String (MerkleProof × String)

/-- Every index below the leaf count has a proof, so no entry is missing. -/
def buildMerkleForLedger (rows : List LedgerRow) : LedgerMerkle :=
  let leaves := rows.map (escrowRecordLeafHash sha256)
  let tree := MerkleTree.new sha256 leaves
  { tree := tree
    root := tree.getRoot
    proofByTransactionId := .ofPairs ((rows.zip leaves).zipIdx.filterMap fun ((row, leaf), i) =>
      (tree.getProof i).map fun proof => (row.transactionId, (proof, leaf))) }

def merkleOfRecords (records : List EscrowRecord) : LedgerMerkle :=
  buildMerkleForLedger sha256 (records.map EscrowRecord.toRow)

def leafText (record : EscrowRecord) : String :=
  (stableStringify (leafObject record.toRow)).getD "undefined"

def ledgerHashedTexts (records : List EscrowRecord) : List String :=
  records.map leafText ++
    hashedNodes sha256 (records.map fun r => sha256Hex sha256 (leafText r))

/-- The part of a record its leaf covers. -/
def hashedFields (r : EscrowRecord) : String × String × String × EscrowStatus × String :=
  (r.transactionId, r.escrowRecordLeafHash, r.signature, r.status, r.timestamp)

/-- The part of a record its leaf leaves out. -/
def timeLocks (r : EscrowRecord) : Binary64 × Binary64 := (r.validAfterMs, r.validUntilMs)

theorem leaves_merkleOfRecords (records : List EscrowRecord) :
    (merkleOfRecords sha256 records).tree =
      MerkleTree.new sha256 (records.map fun r => sha256Hex sha256 (leafText r)) := by
  simp [merkleOfRecords, buildMerkleForLedger, escrowRecordLeafHash, sha256HexFromJsonStable,
    leafText, Function.comp_def]

@[simp] theorem root_merkleOfRecords (records : List EscrowRecord) :
    (merkleOfRecords sha256 records).root = (merkleOfRecords sha256 records).tree.getRoot := rfl

@[simp] theorem getLeafCount_merkleOfRecords (records : List EscrowRecord) :
    (merkleOfRecords sha256 records).tree.getLeafCount = records.length := by
  rw [leaves_merkleOfRecords]
  simp

theorem digestLength_leaves (records : List EscrowRecord) :
    DigestLength (records.map fun r => sha256Hex sha256 (leafText r)) := by
  intro s hs
  obtain ⟨r, -, rfl⟩ := List.mem_map.1 hs
  exact length_sha256Hex sha256 _

theorem root_merkleOfRecords_ne_empty (records : List EscrowRecord) :
    (merkleOfRecords sha256 records).root ≠ "" := by
  intro h
  have hlen := length_getRoot sha256 (digestLength_leaves sha256 records)
  rw [← leaves_merkleOfRecords, ← root_merkleOfRecords, h] at hlen
  cases hlen

/-! ## What a leaf text determines -/

theorem sortByKey_leafMembers {β : Type*} (tx leaf sig status time : β) :
    JsValue.sortByKey [("transactionId", tx), ("escrowRecordLeafHash", leaf), ("signature", sig),
        ("status", status), ("timestamp", time)] =
      [("escrowRecordLeafHash", leaf), ("signature", sig), ("status", status),
        ("timestamp", time), ("transactionId", tx)] := by
  simp [JsValue.sortByKey, List.insertionSort, List.orderedInsert,
    show JsValue.keyLe "transactionId" "escrowRecordLeafHash" = false by decide,
    show JsValue.keyLe "transactionId" "signature" = false by decide,
    show JsValue.keyLe "transactionId" "status" = false by decide,
    show JsValue.keyLe "transactionId" "timestamp" = false by decide,
    show JsValue.keyLe "escrowRecordLeafHash" "signature" = true by decide,
    show JsValue.keyLe "signature" "status" = true by decide,
    show JsValue.keyLe "status" "timestamp" = true by decide]

/-- The leaf text, with keys and values as string literals. -/
theorem leafText_eq (r : EscrowRecord) :
    leafText r =
      "\x7b" ++ (quote "domain" ++ ":" ++ quote "ESCROW_LEDGER_LEAF" ++ "," ++
        (quote "v" ++ ":" ++ ("\x7b" ++
          (quote "escrowRecordLeafHash" ++ ":" ++ quote r.escrowRecordLeafHash ++ "," ++
            (quote "signature" ++ ":" ++ quote r.signature ++ "," ++
              (quote "status" ++ ":" ++ quote r.status.text ++ "," ++
                (quote "timestamp" ++ ":" ++ quote r.timestamp ++ "," ++
                  (quote "transactionId" ++ ":" ++ quote r.transactionId))))) ++ "\x7d"))) ++
        "\x7d" := by
  have hdomain : ∀ a b : String, JsValue.sortByKey [("domain", a), ("v", b)] =
      [("domain", a), ("v", b)] := fun a b => by
    simp [JsValue.sortByKey, List.insertionSort,
      show JsValue.keyLe "domain" "v" = true by decide]
  simp [leafText, leafObject, EscrowRecord.toRow, stableStringify, stableMembers,
    sortByKey_leafMembers, hdomain]

theorem hashedFields_eq_of_leafText_eq {a b : EscrowRecord} (h : leafText a = leafText b) :
    hashedFields a = hashedFields b := by
  have hchars := congrArg String.toList h
  simp only [leafText_eq, String.toList_append, List.append_assoc, List.append_cancel_left_eq]
    at hchars
  obtain ⟨hleaf, h⟩ := quote_append_inj hchars
  simp only [List.append_cancel_left_eq] at h
  obtain ⟨hsig, h⟩ := quote_append_inj h
  simp only [List.append_cancel_left_eq] at h
  obtain ⟨hstatus, h⟩ := quote_append_inj h
  simp only [List.append_cancel_left_eq] at h
  obtain ⟨htime, h⟩ := quote_append_inj h
  simp only [List.append_cancel_left_eq] at h
  obtain ⟨htx, -⟩ := quote_append_inj h
  simp [hashedFields, hleaf, hsig, EscrowStatus.text_injective hstatus, htime, htx]

theorem leafText_eq_iff {a b : EscrowRecord} :
    leafText a = leafText b ↔ hashedFields a = hashedFields b := by
  constructor
  · exact hashedFields_eq_of_leafText_eq
  · intro h
    simp only [hashedFields, Prod.mk.injEq] at h
    obtain ⟨htx, hleaf, hsig, hstatus, htime⟩ := h
    rw [leafText_eq, leafText_eq, htx, hleaf, hsig, hstatus, htime]

theorem map_leafText_eq_iff {xs ys : List EscrowRecord} :
    xs.map leafText = ys.map leafText ↔ xs.map hashedFields = ys.map hashedFields := by
  induction xs generalizing ys with
  | nil => cases ys <;> simp
  | cons x xs ih =>
      cases ys with
      | nil => simp
      | cons y ys => simp [leafText_eq_iff, ih]

/-! ## What the root binds -/

/-- The ledgers agree in everything the leaves cover and differ in a time lock. -/
def DifferOnlyInTimeLocks (xs ys : List EscrowRecord) : Prop :=
  xs.map hashedFields = ys.map hashedFields ∧ xs.map timeLocks ≠ ys.map timeLocks

instance (xs ys : List EscrowRecord) : Decidable (DifferOnlyInTimeLocks xs ys) :=
  inferInstanceAs (Decidable (_ ∧ _))

theorem eq_of_fields_eq {xs ys : List EscrowRecord} (hfields : xs.map hashedFields =
    ys.map hashedFields) (hlocks : xs.map timeLocks = ys.map timeLocks) : xs = ys := by
  induction xs generalizing ys with
  | nil =>
      cases ys with
      | nil => rfl
      | cons y ys => simp at hfields
  | cons x xs ih =>
      cases ys with
      | nil => simp at hfields
      | cons y ys =>
          simp only [List.map_cons, List.cons.injEq] at hfields hlocks
          have hxy : x = y := by
            obtain ⟨hf, -⟩ := hfields
            obtain ⟨hl, -⟩ := hlocks
            cases x
            cases y
            simp_all [hashedFields, timeLocks]
          rw [hxy, ih hfields.2 hlocks.2]

theorem hashedFields_eq_of_root_eq {xs ys : List EscrowRecord}
    (hfree : CollisionFreeOn sha256 (ledgerHashedTexts sha256 xs ++ ledgerHashedTexts sha256 ys))
    (hcount : (merkleOfRecords sha256 xs).tree.getLeafCount =
      (merkleOfRecords sha256 ys).tree.getLeafCount)
    (hroot : (merkleOfRecords sha256 xs).root = (merkleOfRecords sha256 ys).root) :
    xs.map hashedFields = ys.map hashedFields := by
  rw [getLeafCount_merkleOfRecords, getLeafCount_merkleOfRecords] at hcount
  rw [root_merkleOfRecords, root_merkleOfRecords, leaves_merkleOfRecords,
    leaves_merkleOfRecords] at hroot
  have hleaves := leaves_eq_of_getRoot_eq sha256 (by simpa using hcount)
    (digestLength_leaves sha256 xs) (digestLength_leaves sha256 ys)
    (hfree.mono (by
      intro s hs
      simp only [ledgerHashedTexts, List.mem_append] at hs ⊢
      tauto)) hroot
  have htexts : CollisionFreeOn sha256 (xs.map leafText ++ ys.map leafText) := hfree.mono (by
    intro s hs
    simp only [ledgerHashedTexts, List.mem_append] at hs ⊢
    tauto)
  rw [← map_leafText_eq_iff]
  apply htexts.eq_of_map_eq
  simpa [Function.comp_def] using hleaves

theorem tree_eq_of_hashedFields_eq {xs ys : List EscrowRecord}
    (h : xs.map hashedFields = ys.map hashedFields) :
    (merkleOfRecords sha256 xs).tree = (merkleOfRecords sha256 ys).tree := by
  have htexts := map_leafText_eq_iff.2 h
  have hleaves := congrArg (List.map (sha256Hex sha256)) htexts
  rw [leaves_merkleOfRecords, leaves_merkleOfRecords]
  simpa [Function.comp_def] using congrArg (MerkleTree.new sha256) hleaves

/-- Root and leaf count bind two ledgers completely unless they differ in their time locks
alone. -/
theorem root_binds_ledger_iff (xs ys : List EscrowRecord)
    (hfree : CollisionFreeOn sha256 (ledgerHashedTexts sha256 xs ++ ledgerHashedTexts sha256 ys)) :
    ((merkleOfRecords sha256 xs).root = (merkleOfRecords sha256 ys).root ∧
        (merkleOfRecords sha256 xs).tree.getLeafCount =
          (merkleOfRecords sha256 ys).tree.getLeafCount → xs = ys) ↔
      ¬ DifferOnlyInTimeLocks xs ys := by
  constructor
  · rintro hbind ⟨hfields, hlocks⟩
    have htree := tree_eq_of_hashedFields_eq sha256 hfields
    have hxy := hbind ⟨by rw [root_merkleOfRecords, root_merkleOfRecords, htree], by rw [htree]⟩
    exact hlocks (by rw [hxy])
  · rintro hlocks ⟨hroot, hcount⟩
    have hfields := hashedFields_eq_of_root_eq sha256 hfree hcount hroot
    exact eq_of_fields_eq hfields (not_not.1 fun h => hlocks ⟨hfields, h⟩)

def sampleRecord : EscrowRecord where
  transactionId := "tx_746e742d313a6163632d373a3530"
  escrowRecordLeafHash := "PENDING"
  signature := "9f3a"
  status := .LOCKED
  validAfterMs := ⟨_, isBinary64_intCast (n := 0) (by norm_num)⟩
  validUntilMs := ⟨_, isBinary64_intCast (n := 1767225600000) (by norm_num)⟩
  timestamp := "2025-06-01T12:00:00.000Z"

def sampleReleased : EscrowRecord := { sampleRecord with status := .RELEASED }

def sampleExtended : EscrowRecord :=
  { sampleRecord with validUntilMs := ⟨_, isBinary64_intCast (n := 4102444800000) (by norm_num)⟩ }

/-- The leaf hash of `sampleRecord`, the root of the ledger that holds it alone. -/
def sampleRoot : HexDigest :=
  ⟨"52113efc39170ff5798a29aa2321ba2b8f4b3aff343dec803cf167409caa6ec4", by decide⟩

/-- SHA-256 on the leaf texts of `sampleRecord` and `sampleReleased`. -/
def sampleSha256 : Sha256 := fun text =>
  if text = leafText sampleReleased then
    ⟨"03800acad90bb296ce07ed4eaf09e2ef38b74c3c14cf1bcf3d122f3a7224355e", by decide⟩
  else sampleRoot

theorem root_binds_ledger_iff_sample :
    ((merkleOfRecords sampleSha256 [sampleRecord]).root =
          (merkleOfRecords sampleSha256 [sampleReleased]).root ∧
        (merkleOfRecords sampleSha256 [sampleRecord]).tree.getLeafCount =
          (merkleOfRecords sampleSha256 [sampleReleased]).tree.getLeafCount →
      [sampleRecord] = [sampleReleased]) ↔
      ¬ DifferOnlyInTimeLocks [sampleRecord] [sampleReleased] :=
  root_binds_ledger_iff sampleSha256 [sampleRecord] [sampleReleased] (by decide +kernel)

/-- Moving the end of a time lock changes neither root nor leaf count, under any hash. -/
theorem timeLock_change_keeps_root :
    [sampleRecord] ≠ [sampleExtended] ∧
      ∀ sha256 : Sha256,
        CollisionFreeOn sha256
            (ledgerHashedTexts sha256 [sampleRecord] ++ ledgerHashedTexts sha256 [sampleExtended]) ∧
          (merkleOfRecords sha256 [sampleRecord]).root =
            (merkleOfRecords sha256 [sampleExtended]).root ∧
          (merkleOfRecords sha256 [sampleRecord]).tree.getLeafCount =
            (merkleOfRecords sha256 [sampleExtended]).tree.getLeafCount := by
  refine ⟨by decide, fun sha256 => ?_⟩
  have htree := tree_eq_of_hashedFields_eq sha256
    (show [sampleRecord].map hashedFields = [sampleExtended].map hashedFields from rfl)
  refine ⟨?_, by rw [root_merkleOfRecords, root_merkleOfRecords, htree], by rw [htree]⟩
  have hone : ledgerHashedTexts sha256 [sampleRecord] ++ ledgerHashedTexts sha256 [sampleExtended] =
      [leafText sampleRecord, leafText sampleRecord] := rfl
  rw [hone]
  intro a ha b hb _
  simp only [List.mem_cons, List.not_mem_nil, or_false, or_self] at ha hb
  rw [ha, hb]

end UniverEscrow.Merkle
