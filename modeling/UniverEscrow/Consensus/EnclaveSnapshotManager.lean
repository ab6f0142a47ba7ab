import UniverEscrow.Consensus.EntryHash
import UniverEscrow.Js.OrderedMap

/-!
# State snapshots

A snapshot carries the fold over the ledger entries it stands for, the hash of each entry and the
signatures of the nodes that approved it.
-/

namespace UniverEscrow.Consensus

open UniverEscrow.Js UniverEscrow.Merkle

structure SnapshotMetadata where
  snapshotId : String
  timestamp : JsNumber
  latestIndex : JsNumber
  latestTerm : JsNumber
  merkleRootHash : String
  committedTransactionCount : ℕ

structure EpochStateSnapshot where
  metadata : SnapshotMetadata
  quorumSignatures : List JsValue
  merklePath : List String
  latestEntry : JsValue

def SnapshotMetadata.toJs (metadata : SnapshotMetadata) : JsValue :=
  .obj [("snapshotId", metadata.snapshotId),
    ("timestamp", .num metadata.timestamp),
    ("latestIndex", .num metadata.latestIndex),
    ("latestTerm", .num metadata.latestTerm),
    ("merkleRootHash", metadata.merkleRootHash),
    ("committedTransactionCount", .num (.ofInt metadata.committedTransactionCount))]

def EpochStateSnapshot.toJs (snapshot : EpochStateSnapshot) : JsValue :=
  .obj [("metadata", snapshot.metadata.toJs),
    ("quorumSignatures", .arr snapshot.quorumSignatures),
    ("merklePath", .arr (snapshot.merklePath.map JsValue.str)),
    ("latestEntry", snapshot.latestEntry)]

structure SnapshotValidationResult where
  valid : Bool
  reason : Option String
  quorumMet : Option Bool
  signatureVerified : Option Bool

structure EnclaveSnapshotManager where
  snapshots : OrderedMap String EpochStateSnapshot
  snapshotHistory : List EpochStateSnapshot

namespace EnclaveSnapshotManager

def getInstance : EnclaveSnapshotManager where
  snapshots := .empty
  snapshotHistory := []

def maxSnapshotHistory : ℕ := 10

def signatureDomainSeparator : String := "ENCLAVE_SNAPSHOT_QUORUM_SHARE_V1"

/-! ## Creating -/

variable (sha256 : Sha256)

def computeMerkleRoot (entries : List JsValue) : Option String :=
  (entries.mapM JsValue.jsonText?).map fun texts => (foldEntryTexts sha256 texts).text

def computeMerklePath (entries : List JsValue) : Option (List String) :=
  (entries.mapM JsValue.jsonText?).map fun texts => texts.map (sha256Hex sha256)

/-- The history keeps the last ten; the oldest one leaves the index with it. -/
def remember (manager : EnclaveSnapshotManager) (snapshot : EpochStateSnapshot) :
    EnclaveSnapshotManager :=
  let snapshots := manager.snapshots.set snapshot.metadata.snapshotId snapshot
  let snapshotHistory := manager.snapshotHistory ++ [snapshot]
  if maxSnapshotHistory < snapshotHistory.length then
    match snapshotHistory with
    | oldest :: history => ⟨snapshots.erase oldest.metadata.snapshotId, history⟩
    | [] => ⟨snapshots, []⟩
  else ⟨snapshots, snapshotHistory⟩

/-- `snapshotId` and `timestamp` are the fresh UUID and the clock; `none` where hashing an entry
throws. -/
def createSnapshot (manager : EnclaveSnapshotManager) (snapshotId : String)
    (timestamp latestIndex latestTerm : JsNumber) (ledgerEntries quorumSignatures : List JsValue) :
    Option (EpochStateSnapshot × EnclaveSnapshotManager) := do
  let merkleRootHash ← computeMerkleRoot sha256 ledgerEntries
  let merklePath ← computeMerklePath sha256 ledgerEntries
  let snapshot : EpochStateSnapshot := {
    metadata := {
      snapshotId := snapshotId
      timestamp := timestamp
      latestIndex := latestIndex
      latestTerm := latestTerm
      merkleRootHash := merkleRootHash
      committedTransactionCount := ledgerEntries.length }
    quorumSignatures := quorumSignatures
    merklePath := merklePath
    latestEntry := ledgerEntries.getLast?.getD .undefined }
  return (snapshot, manager.remember snapshot)

def getSnapshot (manager : EnclaveSnapshotManager) (snapshotId : String) :
    Option EpochStateSnapshot :=
  manager.snapshots.get? snapshotId

def getLatestSnapshot (manager : EnclaveSnapshotManager) : Option EpochStateSnapshot :=
  manager.snapshotHistory.getLast?

def getSnapshotHistory (manager : EnclaveSnapshotManager) : List EpochStateSnapshot :=
  manager.snapshotHistory

/-! ## Validating -/

def hasSignatureFormat (sig : JsValue) : Bool :=
  (sig.get "nodeId").asString?.isSome && (sig.get "signature").asString?.any (· ≠ "") &&
    (sig.get "term").asNumber?.isSome

/-- `every` stops at the first signature that fails; reading a missing one throws. -/
def everySignature : List JsValue → Option Bool
  | [] => some true
  | sig :: sigs =>
      if sig.isNullish then none
      else if hasSignatureFormat sig then everySignature sigs
      else some false

/-- `Math.max(2, Math.ceil((count * 2) / 3))`. -/
def quorumThreshold (count : ℕ) : ℕ := max 2 ((count * 2 + 2) / 3)

def rejected (reason : String) : SnapshotValidationResult where
  valid := false
  reason := some reason
  quorumMet := none
  signatureVerified := none

/-- The checks on a list of signatures and on the path beside them. -/
def validateSignatures (signatures : List JsValue) (merklePath : JsValue) :
    Option SnapshotValidationResult :=
  let threshold := quorumThreshold signatures.length
  if signatures.length < threshold then
    some { rejected ("Insufficient quorum: " ++ toString signatures.length ++ " < " ++
      toString threshold) with quorumMet := some false }
  else (everySignature signatures).map fun signaturesValid =>
    if !signaturesValid then
      { rejected "Invalid signature format" with signatureVerified := some false }
    else if !merklePath.isArray then rejected "Invalid Merkle path format"
    else {
      valid := true
      reason := none
      quorumMet := some true
      signatureVerified := some true }

/-- `none` where reading the snapshot throws. -/
def validateSnapshot (snapshot : JsValue) : Option SnapshotValidationResult :=
  if snapshot.isNullish then none
  else if !(snapshot.get "metadata").truthy || !(snapshot.get "quorumSignatures").truthy then
    some (rejected "Missing required snapshot fields")
  else
    match snapshot.get "quorumSignatures" with
    | .arr signatures =>
        if signatures.length = 0 then some (rejected "No quorum signatures present")
        else validateSignatures signatures (snapshot.get "merklePath")
    | _ => some (rejected "No quorum signatures present")

def accepts (snapshot : JsValue) : Bool := (validateSnapshot snapshot).any (·.valid)

/-- All that validation looks at. -/
structure WellFormedSnapshot (snapshot : JsValue) (signatures : List JsValue) : Prop where
  metadata : (snapshot.get "metadata").truthy = true
  quorumSignatures : snapshot.get "quorumSignatures" = .arr signatures
  two_le : 2 ≤ signatures.length
  format : ∀ sig ∈ signatures, hasSignatureFormat sig = true
  merklePath : (snapshot.get "merklePath").isArray = true

theorem not_isNullish_of_hasSignatureFormat {sig : JsValue} (h : hasSignatureFormat sig = true) :
    sig.isNullish = false := by
  cases sig with
  | undefined => cases h
  | null => cases h
  | bool b => rfl
  | num n => rfl
  | str s => rfl
  | arr items => rfl
  | obj members => rfl

theorem everySignature_eq_true {sigs : List JsValue} :
    everySignature sigs = some true ↔ ∀ sig ∈ sigs, hasSignatureFormat sig = true := by
  induction sigs with
  | nil => simp [everySignature]
  | cons sig sigs ih =>
      rw [everySignature, List.forall_mem_cons, ← ih]
      cases hformat : hasSignatureFormat sig with
      | true => simp [not_isNullish_of_hasSignatureFormat hformat]
      | false => cases sig.isNullish <;> simp

theorem lt_quorumThreshold_iff (count : ℕ) : count < quorumThreshold count ↔ count < 2 := by
  unfold quorumThreshold
  omega

theorem not_isNullish_of_truthy_get {v : JsValue} {key : String} (h : (v.get key).truthy = true) :
    v.isNullish = false := by
  apply JsValue.isNullish_of_get_ne
  intro hundefined
  rw [hundefined] at h
  cases h

theorem any_validateSignatures {signatures : List JsValue} {merklePath : JsValue} :
    (validateSignatures signatures merklePath).any (·.valid) = true ↔
      2 ≤ signatures.length ∧ (∀ sig ∈ signatures, hasSignatureFormat sig = true) ∧
        merklePath.isArray = true := by
  rw [validateSignatures, ← everySignature_eq_true, ← not_lt, ← lt_quorumThreshold_iff]
  by_cases hlength : signatures.length < quorumThreshold signatures.length
  · simp [hlength, rejected]
  · cases hevery : everySignature signatures with
    | none => simp [hlength]
    | some valid =>
        cases valid with
        | false => simp [hlength, rejected]
        | true => cases hpath : merklePath.isArray <;> simp [hlength, rejected]

theorem accepts_iff {snapshot : JsValue} :
    accepts snapshot = true ↔ ∃ signatures, WellFormedSnapshot snapshot signatures := by
  unfold accepts validateSnapshot
  constructor
  · intro h
    split_ifs at h with hnull hmissing
    · cases h
    · cases h
    · simp only [Bool.or_eq_true, Bool.not_eq_true', not_or, Bool.not_eq_false] at hmissing
      cases hq : snapshot.get "quorumSignatures" with
      | arr signatures =>
          rw [hq] at h
          by_cases hzero : signatures.length = 0
          · simp [hzero, rejected] at h
          · simp only [if_neg hzero, any_validateSignatures] at h
            exact ⟨signatures, hmissing.1, hq, h.1, h.2.1, h.2.2⟩
      | undefined => rw [hq] at h; cases h
      | null => rw [hq] at h; cases h
      | bool b => rw [hq] at h; cases h
      | num n => rw [hq] at h; cases h
      | str s => rw [hq] at h; cases h
      | obj members => rw [hq] at h; cases h
  · rintro ⟨signatures, h⟩
    have hzero : ¬ signatures.length = 0 := by
      have := h.two_le
      omega
    rw [not_isNullish_of_truthy_get h.metadata, h.metadata, h.quorumSignatures]
    change (if signatures.length = 0 then some (rejected "No quorum signatures present")
      else validateSignatures signatures (snapshot.get "merklePath")).any (·.valid) = true
    rw [if_neg hzero, any_validateSignatures]
    exact ⟨h.two_le, h.format, h.merklePath⟩

end EnclaveSnapshotManager

end UniverEscrow.Consensus
