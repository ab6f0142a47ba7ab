import UniverEscrow.Ledger.DatabaseService
import UniverEscrow.Ledger.NotaryAnchorService

/-!
# The ledger auditor

An audit compares three sources: the checkpoint file, the notary and the ledger file.  It is
given twice: as one function, for an audit with nothing else running, and as the steps
between its awaits, for interleavings.  The two agree.
-/

namespace UniverEscrow.Ledger

open UniverEscrow.Js UniverEscrow.Merkle

structure Auditor where
  store : Store
  frozen : Bool
  /-- The reason in `ledger-frozen.marker`. -/
  marker : Option String

def Auditor.isFrozen (auditor : Auditor) : Bool := auditor.frozen

def Auditor.freeze (auditor : Auditor) (reason : String) : Auditor :=
  if auditor.frozen then auditor else { auditor with frozen := true, marker := some reason }

/-! ## Reasons -/

def rootMismatchReason (remote : NotaryAuthoritativeState) : String :=
  "State-omission/checkpoint-override detected: localRoot!=notaryRoot (seq=" ++
    remote.sequenceNumber.toText ++ ")"

def unreachableReason : String :=
  "EMERGENCY_SYSTEM_FREEZE: Remote consensus unreachable. Reason=" ++ notaryUnreachable

def corruptedReason : String := "Ledger store file is corrupted or not an array"

def unreadableReason : String := "Unable to read ledger store from disk"

variable (sha256 : Sha256)

/-- Why the records read differ from the checkpoint. -/
def ledgerMismatch? (checkpoint : LedgerCheckpoint) (records : List StoredRecord) :
    Option String :=
  let merkle := merkleOfStored sha256 records
  let leafCount := merkle.tree.getLeafCount
  if !(JsNumber.ofInt leafCount).strictEq checkpoint.leafCount then
    some ("Ledger tamper detected: leafCount mismatch (expected " ++
      checkpoint.leafCount.toText ++ ", got " ++ (JsNumber.ofInt leafCount).toText ++ ")")
  else if merkle.root ≠ checkpoint.root then
    some ("Ledger tamper detected: root mismatch. fp=" ++
      sha256Hex sha256 ("AUDIT_MISMATCH|" ++ checkpoint.root ++ "|" ++ merkle.root))
  else none

/-! ## One audit -/

def Auditor.settle (auditor : Auditor) (mismatch? : Option String) : Auditor × Bool :=
  match mismatch? with
  | some reason => (auditor.freeze reason, true)
  | none => (auditor, false)

def Auditor.compareLedger (auditor : Auditor) (checkpoint : LedgerCheckpoint) : Auditor :=
  let (records, store) := getAllRecords auditor.store
  (Auditor.settle { auditor with store := store } (ledgerMismatch? sha256 checkpoint records)).1

/-- The audit of a checkpoint once the notary has answered, or has not. -/
def Auditor.verifyCheckpoint (auditor : Auditor) (checkpoint : LedgerCheckpoint)
    (remoteState : Option NotaryAuthoritativeState) : Auditor :=
  match remoteState with
  | none => auditor.freeze unreachableReason
  | some remote =>
      if remote.root ≠ checkpoint.root then auditor.freeze (rootMismatchReason remote)
      else
        match parseLedgerFile auditor.store.ledger with
        | some (.arr _) => auditor.compareLedger sha256 checkpoint
        | some _ => auditor.freeze corruptedReason
        | none => auditor.freeze unreadableReason

def Auditor.establishCheckpoint (auditor : Auditor) (now : IsoTime) : Auditor :=
  let (records, store) := getAllRecords auditor.store
  let merkle := merkleOfStored sha256 records
  { auditor with store := writeCheckpoint merkle.root merkle.tree.getLeafCount now store }

/-- `auditOnce` with nothing else running. -/
def auditOnce (now : IsoTime) (replies : ℕ → NotaryReply) (auditor : Auditor) : Auditor :=
  if auditor.frozen then auditor
  else
    match readCheckpoint auditor.store with
    | none => auditor.establishCheckpoint sha256 now
    | some checkpoint =>
        auditor.verifyCheckpoint sha256 checkpoint (fetchAuthoritativeState replies)

/-- `unfreezeIfClean` with nothing else running: the flag is cleared for the audit, which may
set it again. -/
def unfreezeIfClean (now : IsoTime) (replies : ℕ → NotaryReply) (auditor : Auditor) :
    Auditor × Bool :=
  if !auditor.frozen then (auditor, true)
  else
    let audited := auditOnce sha256 now replies { auditor with frozen := false }
    if audited.frozen then (audited, false) else ({ audited with marker := none }, true)

/-! ## The steps between the awaits -/

/-- Where a running audit waits. -/
inductive AuditPc where
  | awaitNotary (checkpoint : LedgerCheckpoint) (attempt : ℕ)
  | awaitInit (checkpoint : LedgerCheckpoint)
  | awaitRecords (checkpoint : LedgerCheckpoint) (records : List StoredRecord)
  | establishInit
  | establishRecords (records : List StoredRecord)
  | done (froze : Bool)

def startAudit (auditor : Auditor) : Auditor × AuditPc :=
  if auditor.frozen then (auditor, .done false)
  else
    match readCheckpoint auditor.store with
    | none => ({ auditor with store := initializeStore auditor.store }, .establishInit)
    | some checkpoint => (auditor, .awaitNotary checkpoint 1)

/-- The step that takes up the notary's answer. -/
def resumeWithRemote (remote : NotaryAuthoritativeState) (checkpoint : LedgerCheckpoint)
    (auditor : Auditor) : Auditor × AuditPc :=
  if remote.root ≠ checkpoint.root then
    (auditor.freeze (rootMismatchReason remote), .done true)
  else
    match parseLedgerFile auditor.store.ledger with
    | some (.arr _) =>
        ({ auditor with store := initializeStore auditor.store }, .awaitInit checkpoint)
    | some _ => (auditor.freeze corruptedReason, .done true)
    | none => (auditor.freeze unreadableReason, .done true)

/-- From one await to the next; `reply` answers the notary attempt the audit waits for. -/
def resumeAudit (now : IsoTime) (reply : NotaryReply) (auditor : Auditor) :
    AuditPc → Auditor × AuditPc
  | .awaitNotary checkpoint attempt =>
      match getAuthoritativeState reply with
      | some remote => resumeWithRemote remote checkpoint auditor
      | none =>
          if attempt < maxAttempts then (auditor, .awaitNotary checkpoint (attempt + 1))
          else (auditor.freeze unreachableReason, .done true)
  | .awaitInit checkpoint =>
      (auditor, .awaitRecords checkpoint ((readAllRecordsInternal auditor.store).getD []))
  | .awaitRecords checkpoint records =>
      let (auditor, froze) := auditor.settle (ledgerMismatch? sha256 checkpoint records)
      (auditor, .done froze)
  | .establishInit => (auditor, .establishRecords ((readAllRecordsInternal auditor.store).getD []))
  | .establishRecords records =>
      let merkle := merkleOfStored sha256 records
      ({ auditor with
          store := writeCheckpoint merkle.root merkle.tree.getLeafCount now auditor.store },
        .done false)
  | .done froze => (auditor, .done froze)

/-! ## The steps make up the audit -/

def replyFor (replies : ℕ → NotaryReply) : AuditPc → NotaryReply
  | .awaitNotary _ attempt => replies attempt
  | _ => .failed

def driveAudit (now : IsoTime) (replies : ℕ → NotaryReply) : ℕ → Auditor × AuditPc →
    Auditor × AuditPc
  | 0, state => state
  | fuel + 1, state =>
      driveAudit now replies fuel
        (resumeAudit sha256 now (replyFor replies state.2) state.1 state.2)

variable {sha256} {now : IsoTime} {replies : ℕ → NotaryReply}

theorem driveAudit_succ (fuel : ℕ) (state : Auditor × AuditPc) :
    driveAudit sha256 now replies (fuel + 1) state =
      driveAudit sha256 now replies fuel
        (resumeAudit sha256 now (replyFor replies state.2) state.1 state.2) := rfl

theorem resumeAudit_awaitNotary (reply : NotaryReply) (auditor : Auditor)
    (checkpoint : LedgerCheckpoint) (attempt : ℕ) :
    resumeAudit sha256 now reply auditor (.awaitNotary checkpoint attempt) =
      match getAuthoritativeState reply with
      | some remote => resumeWithRemote remote checkpoint auditor
      | none =>
          if attempt < maxAttempts then (auditor, .awaitNotary checkpoint (attempt + 1))
          else (auditor.freeze unreachableReason, .done true) := rfl

@[simp] theorem driveAudit_done (fuel : ℕ) (auditor : Auditor) (froze : Bool) :
    driveAudit sha256 now replies fuel (auditor, .done froze) = (auditor, .done froze) := by
  induction fuel with
  | zero => rfl
  | succ fuel ih => rw [driveAudit_succ]; exact ih

theorem driveAudit_awaitInit (auditor : Auditor) (checkpoint : LedgerCheckpoint) (fuel : ℕ) :
    ∃ froze, driveAudit sha256 now replies (fuel + 2)
        ({ auditor with store := initializeStore auditor.store }, .awaitInit checkpoint) =
      (auditor.compareLedger sha256 checkpoint, .done froze) :=
  ⟨_, driveAudit_done fuel _ _⟩

theorem driveAudit_resumeWithRemote (auditor : Auditor) (checkpoint : LedgerCheckpoint)
    (remote : NotaryAuthoritativeState) (fuel : ℕ) :
    ∃ froze, driveAudit sha256 now replies (fuel + 2)
        (resumeWithRemote remote checkpoint auditor) =
      (auditor.verifyCheckpoint sha256 checkpoint (some remote), .done froze) := by
  unfold resumeWithRemote Auditor.verifyCheckpoint
  by_cases hroot : remote.root ≠ checkpoint.root
  · rw [if_pos hroot]
    simp only [if_pos hroot]
    exact ⟨true, driveAudit_done _ _ _⟩
  · rw [if_neg hroot]
    simp only [if_neg hroot]
    split
    · exact driveAudit_awaitInit auditor checkpoint fuel
    · exact ⟨true, driveAudit_done _ _ _⟩
    · exact ⟨true, driveAudit_done _ _ _⟩

theorem driveAudit_awaitNotary (auditor : Auditor) (checkpoint : LedgerCheckpoint)
    {attempt remaining : ℕ} (h : attempt + remaining = maxAttempts) :
    ∃ froze, driveAudit sha256 now replies (remaining + 3)
        (auditor, .awaitNotary checkpoint attempt) =
      (auditor.verifyCheckpoint sha256 checkpoint (fetchFrom replies attempt (remaining + 1)),
        .done froze) := by
  induction remaining generalizing attempt with
  | zero =>
      have hlast : ¬ attempt < maxAttempts := by omega
      rw [driveAudit_succ]
      simp only [resumeAudit_awaitNotary, replyFor, fetchFrom]
      cases getAuthoritativeState (replies attempt) with
      | none =>
          simp only [if_neg hlast]
          exact ⟨true, driveAudit_done _ _ _⟩
      | some remote => exact driveAudit_resumeWithRemote auditor checkpoint remote 0
  | succ remaining ih =>
      have hmore : attempt < maxAttempts := by omega
      rw [driveAudit_succ, fetchFrom]
      simp only [resumeAudit_awaitNotary, replyFor]
      cases getAuthoritativeState (replies attempt) with
      | none =>
          simp only [if_pos hmore]
          exact ih (by omega)
      | some remote => exact driveAudit_resumeWithRemote auditor checkpoint remote (remaining + 1)

/-- The steps of an audit, one after another, are the audit. -/
theorem driveAudit_startAudit (auditor : Auditor) :
    ∃ froze, driveAudit sha256 now replies 5 (startAudit auditor) =
      (auditOnce sha256 now replies auditor, .done froze) := by
  unfold startAudit auditOnce
  by_cases hfrozen : auditor.frozen = true
  · rw [if_pos hfrozen, if_pos hfrozen]
    exact ⟨false, driveAudit_done _ _ _⟩
  · rw [if_neg hfrozen, if_neg hfrozen]
    cases readCheckpoint auditor.store with
    | none => exact ⟨false, rfl⟩
    | some checkpoint =>
        exact driveAudit_awaitNotary auditor checkpoint (show 1 + 2 = maxAttempts from rfl)

/-! ## What a clean audit means -/

@[simp] theorem Auditor.frozen_freeze (auditor : Auditor) (reason : String) :
    (auditor.freeze reason).frozen = true := by
  unfold Auditor.freeze
  split_ifs with h
  · exact h
  · rfl

@[simp] theorem Auditor.store_freeze (auditor : Auditor) (reason : String) :
    (auditor.freeze reason).store = auditor.store := by
  unfold Auditor.freeze
  split_ifs <;> rfl

theorem Auditor.frozen_settle {auditor : Auditor} {mismatch? : Option String}
    (h : (auditor.settle mismatch?).1.frozen = false) : mismatch? = none := by
  cases mismatch? with
  | none => rfl
  | some reason => simp [Auditor.settle] at h

theorem ledgerMismatch?_eq_none {checkpoint : LedgerCheckpoint} {records : List StoredRecord} :
    ledgerMismatch? sha256 checkpoint records = none ↔
      (JsNumber.ofInt (merkleOfStored sha256 records).tree.getLeafCount).strictEq
          checkpoint.leafCount = true ∧
        (merkleOfStored sha256 records).root = checkpoint.root := by
  unfold ledgerMismatch?
  dsimp only
  split_ifs with hcount hroot
  · simp_all
  · simp_all
  · simp_all

theorem IsArrayFile.getAllRecords {store : Store} (h : IsArrayFile store) :
    readAllRecordsInternal store = some (getAllRecords store).1 := by
  obtain ⟨items, hitems⟩ := h
  have hread := IsArrayFile.initializeStore ⟨items, hitems⟩
  simp only [Ledger.getAllRecords, hread.2]
  simp [readAllRecordsInternal, hitems]

@[simp] theorem Auditor.store_settle (auditor : Auditor) (mismatch? : Option String) :
    (auditor.settle mismatch?).1.store = auditor.store := by
  cases mismatch? with
  | none => rfl
  | some reason => exact auditor.store_freeze reason

theorem verifyCheckpoint_dataFiles {auditor : Auditor} {checkpoint : LedgerCheckpoint}
    {remoteState : Option NotaryAuthoritativeState} (hsettled : auditor.store.Settled) :
    (auditor.verifyCheckpoint sha256 checkpoint remoteState).store.dataFiles =
      auditor.store.dataFiles := by
  unfold Auditor.verifyCheckpoint
  split
  · rw [Auditor.store_freeze]
  · split_ifs
    · rw [Auditor.store_freeze]
    · split
      · simp only [Auditor.compareLedger, Auditor.store_settle]
        exact hsettled.initializeStore
      · rw [Auditor.store_freeze]
      · rw [Auditor.store_freeze]

/-- An audit after which the auditor is frozen has written no file. -/
theorem auditOnce_dataFiles {auditor : Auditor} (hsettled : auditor.store.Settled)
    (hfrozen : (auditOnce sha256 now replies auditor).frozen = true) :
    (auditOnce sha256 now replies auditor).store.dataFiles = auditor.store.dataFiles := by
  unfold auditOnce at hfrozen ⊢
  split_ifs at hfrozen ⊢ with hbefore
  · rfl
  · split at hfrozen
    · exact absurd hfrozen hbefore
    · exact verifyCheckpoint_dataFiles hsettled

theorem unfreezeIfClean_dataFiles {auditor : Auditor} (hsettled : auditor.store.Settled)
    (hfrozen : (unfreezeIfClean sha256 now replies auditor).1.frozen = true) :
    (unfreezeIfClean sha256 now replies auditor).1.store.dataFiles = auditor.store.dataFiles := by
  have hcleared : ({ auditor with frozen := false } : Auditor).store.Settled := hsettled
  unfold unfreezeIfClean at hfrozen ⊢
  dsimp only at hfrozen ⊢
  split_ifs at hfrozen ⊢ with hclear haudited
  · rfl
  · exact auditOnce_dataFiles hcleared haudited
  · exact absurd hfrozen haudited

/-- An audit of a checkpoint stays unfrozen only if notary and ledger agree with it. -/
theorem verifyCheckpoint_unfrozen {auditor : Auditor} {checkpoint : LedgerCheckpoint}
    {remoteState : Option NotaryAuthoritativeState}
    (h : (auditor.verifyCheckpoint sha256 checkpoint remoteState).frozen = false) :
    ∃ remote records, remoteState = some remote ∧ remote.root = checkpoint.root ∧
      readAllRecordsInternal auditor.store = some records ∧
      (merkleOfStored sha256 records).root = checkpoint.root ∧
      (JsNumber.ofInt (merkleOfStored sha256 records).tree.getLeafCount).strictEq
        checkpoint.leafCount = true := by
  cases remoteState with
  | none => simp [Auditor.verifyCheckpoint] at h
  | some remote =>
      simp only [Auditor.verifyCheckpoint] at h
      by_cases hroot : remote.root ≠ checkpoint.root
      · simp [hroot] at h
      · rw [if_neg hroot] at h
        split at h
        · rename_i items hitems
          obtain ⟨hcount, hledger⟩ := ledgerMismatch?_eq_none.1 (Auditor.frozen_settle h)
          exact ⟨remote, _, rfl, not_not.1 hroot, IsArrayFile.getAllRecords ⟨items, hitems⟩,
            hledger, hcount⟩
        · simp at h
        · simp at h

/-- An audit that starts and stays unfrozen: where a checkpoint could be read, its root is the
notary's, and root and leaf count are those of the ledger on disk; where there is no
checkpoint file, the audit writes the checkpoint of the ledger. -/
theorem auditOnce_unfrozen (sha256 : Sha256) (now : IsoTime) (replies : ℕ → NotaryReply)
    (auditor : Auditor) (hstart : auditor.isFrozen = false)
    (hend : (auditOnce sha256 now replies auditor).isFrozen = false) :
    (∀ checkpoint, readCheckpoint auditor.store = some checkpoint →
      ∃ remote records, fetchAuthoritativeState replies = some remote ∧
        checkpoint.root = remote.root ∧
        readAllRecordsInternal auditor.store = some records ∧
        checkpoint.root = (merkleOfStored sha256 records).root ∧
        checkpoint.leafCount = .ofInt (merkleOfStored sha256 records).tree.getLeafCount) ∧
    (auditor.store.checkpoint = none →
      auditOnce sha256 now replies auditor =
        { auditor with
          store := writeCheckpoint (merkleOfStored sha256 (getAllRecords auditor.store).1).root
            (getAllRecords auditor.store).1.length now (initializeStore auditor.store) }) := by
  have hstart' : auditor.frozen = false := hstart
  constructor
  · intro checkpoint hread
    have hverify : (auditor.verifyCheckpoint sha256 checkpoint
        (fetchAuthoritativeState replies)).frozen = false := by
      simpa [auditOnce, Auditor.isFrozen, hstart', hread] using hend
    obtain ⟨remote, records, hremote, hroot, hrecords, hledger, hcount⟩ :=
      verifyCheckpoint_unfrozen hverify
    refine ⟨remote, records, hremote, hroot.symm, hrecords, hledger.symm, ?_⟩
    simp only [JsNumber.strictEq, Bool.and_eq_true, decide_eq_true_eq] at hcount
    exact hcount.2.symm
  · intro hnone
    have hread : readCheckpoint auditor.store = none := by simp [readCheckpoint, hnone]
    simp [auditOnce, hstart', hread, Auditor.establishCheckpoint, getAllRecords, merkleOfStored]

def notaryWithRoot (root : String) : ℕ → NotaryReply := fun _ =>
  .body (.obj [("root", root), ("sequenceNumber", .num (.ofInt 1)),
    ("anchoringTimestamp", "2025-06-01T12:00:00.000Z"), ("witnessSignatures", .arr [])])

def sampleTime : IsoTime := ⟨"2025-06-01T12:00:00.000Z", by decide⟩

/-- SHA-256 of the empty text, the root of an empty ledger. -/
def emptyRoot : HexDigest :=
  ⟨"e3b0c44298fc1c149afbf4c8996fb92427ae41e4649b934ca495991b7852b855", by decide⟩

def emptyAuditor : Auditor where
  store := writeCheckpoint emptyRoot.text 0 sampleTime
    { ledger := some (.json (.arr [])), checkpoint := none, storeInitialized := true }
  frozen := false
  marker := none

theorem auditOnce_unfrozen_empty :
    (∀ checkpoint, readCheckpoint emptyAuditor.store = some checkpoint →
      ∃ remote records, fetchAuthoritativeState (notaryWithRoot emptyRoot.text) = some remote ∧
        checkpoint.root = remote.root ∧
        readAllRecordsInternal emptyAuditor.store = some records ∧
        checkpoint.root = (merkleOfStored (fun _ => emptyRoot) records).root ∧
        checkpoint.leafCount =
          .ofInt (merkleOfStored (fun _ => emptyRoot) records).tree.getLeafCount) ∧
    (emptyAuditor.store.checkpoint = none →
      auditOnce (fun _ => emptyRoot) sampleTime (notaryWithRoot emptyRoot.text) emptyAuditor =
        { emptyAuditor with
          store := writeCheckpoint
            (merkleOfStored (fun _ => emptyRoot) (getAllRecords emptyAuditor.store).1).root
            (getAllRecords emptyAuditor.store).1.length sampleTime
            (initializeStore emptyAuditor.store) }) :=
  auditOnce_unfrozen (fun _ => emptyRoot) sampleTime (notaryWithRoot emptyRoot.text) emptyAuditor
    rfl (by decide +kernel)

def freshAuditor : Auditor where
  store := { ledger := some (.json (.arr [])), checkpoint := none, storeInitialized := true }
  frozen := false
  marker := none

/-- Without a checkpoint file the audit stays unfrozen, also with the notary unreachable. -/
theorem audit_without_checkpoint_stays_unfrozen :
    freshAuditor.isFrozen = false ∧ readCheckpoint freshAuditor.store = none ∧
      fetchAuthoritativeState (fun _ => .failed) = none ∧
      ∀ (sha256 : Sha256) (now : IsoTime),
        (auditOnce sha256 now (fun _ => .failed) freshAuditor).isFrozen = false :=
  ⟨rfl, rfl, rfl, fun _ _ => rfl⟩

end UniverEscrow.Ledger
