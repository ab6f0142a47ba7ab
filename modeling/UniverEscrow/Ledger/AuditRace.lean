import UniverEscrow.Ledger.LedgerAuditor
import UniverEscrow.Lib.Run

/-!
# An audit among saves

One audit and any number of saves of well-formed records interleave at their awaits.  A save
initialises the store, enters the write queue, reads the ledger in its turn, and then writes
ledger and checkpoint at once; only one save is between its read and its write.
-/

namespace UniverEscrow.Ledger

open UniverEscrow.Js UniverEscrow.Merkle UniverEscrow.Lib.Run

structure RaceSystem where
  auditor : Auditor
  /-- `none` before the audit is called. -/
  audit : Option AuditPc
  /-- Saves that have initialised the store. -/
  pending : List EscrowRecord
  /-- The write queue. -/
  queue : List EscrowRecord
  /-- The save inside the write lock, with the records it has read. -/
  active : Option (EscrowRecord × List StoredRecord)
  /-- The roots of the checkpoint in force when the audit started and of those written since. -/
  anchored : List String

inductive RaceEvent where
  | save (record : EscrowRecord)
  | enqueue (i : ℕ)
  | acquire
  | commit (now : IsoTime)
  | startAudit
  | resumeAudit (reply : NotaryReply) (now : IsoTime)

namespace RaceSystem

def start (store : Store) : RaceSystem where
  auditor := { store := store, frozen := false, marker := none }
  audit := none
  pending := []
  queue := []
  active := none
  anchored := []

def setStore (sys : RaceSystem) (store : Store) : RaceSystem :=
  { sys with auditor := { sys.auditor with store := store } }

def currentRoot (sys : RaceSystem) : Option String :=
  (readCheckpoint sys.auditor.store).map LedgerCheckpoint.root

variable (sha256 : Sha256)

/-- The store after the save inside the lock has written; `none` if it throws. -/
def committed? (sys : RaceSystem) (now : IsoTime) : Option Store :=
  sys.active.bind fun (record, existing) =>
    commitRecord sha256 now existing record.toRow.toJs sys.auditor.store

def step (sys : RaceSystem) : RaceEvent → RaceSystem
  | .save record =>
      { sys.setStore (initializeStore sys.auditor.store) with pending := sys.pending ++ [record] }
  | .enqueue i =>
      match sys.pending[i]? with
      | some record =>
          { sys with pending := sys.pending.eraseIdx i, queue := sys.queue ++ [record] }
      | none => sys
  | .acquire =>
      match sys.active, sys.queue with
      | none, record :: queue =>
          { sys with
            queue := queue
            -- an unreadable ledger makes the save throw and leaves the lock free
            active := (readAllRecordsInternal sys.auditor.store).map fun existing =>
              (record, existing) }
      | _, _ => sys
  | .commit now =>
      match sys.committed? sha256 now with
      | some saved =>
          { sys.setStore saved with
            active := none
            anchored := sys.anchored ++ (sys.setStore saved).currentRoot.toList }
      | none => { sys with active := none }
  | .startAudit =>
      match sys.audit with
      | some _ => sys
      | none =>
          let (auditor, pc) := Ledger.startAudit sys.auditor
          { sys with auditor := auditor, audit := some pc, anchored := sys.currentRoot.toList }
  | .resumeAudit reply now =>
      match sys.audit with
      | none => sys
      | some pc =>
          let (auditor, next) := Ledger.resumeAudit sha256 now reply sys.auditor pc
          { sys with auditor := auditor, audit := some next }

/-- The notary answers an attempt of the audit with the root of a checkpoint in force at the
start of the audit or written since. -/
def notaryAnswers (sys : RaceSystem) (event : RaceEvent) : Bool :=
  match sys.audit, event with
  | some (.awaitNotary _ _), .resumeAudit reply _ =>
      (getAuthoritativeState reply).any fun remote => remote.root ∈ sys.anchored
  | _, _ => true

/-- The audit has read the checkpoint and not yet the ledger. -/
def inWindow (sys : RaceSystem) : Bool :=
  match sys.audit with
  | some (.awaitNotary _ _) | some (.awaitInit _) => true
  | _ => false

def rootAndCount (store : Store) : Option (String × JsNumber) :=
  (readCheckpoint store).map fun checkpoint => (checkpoint.root, checkpoint.leafCount)

/-- A save that writes between the audit's two reads leaves root and leaf count unchanged. -/
def commitKeepsRoot (sys : RaceSystem) (event : RaceEvent) : Bool :=
  match event with
  | .commit now => !sys.inWindow || (sys.committed? sha256 now).all fun saved =>
      rootAndCount saved = rootAndCount sys.auditor.store
  | _ => true

/-! ## The audit finds what it expects -/

/-- What a waiting audit relies on, with `checkpoint` the one in force. -/
def AuditOnCourse (audit : Option AuditPc) (anchored : List String)
    (checkpoint : LedgerCheckpoint) : Prop :=
  match audit with
  | none => True
  | some (.awaitNotary expected _) =>
      (expected.root = checkpoint.root ∧ expected.leafCount = checkpoint.leafCount) ∧
        ∀ root ∈ anchored, root = checkpoint.root
  | some (.awaitInit expected) =>
      expected.root = checkpoint.root ∧ expected.leafCount = checkpoint.leafCount
  | some (.awaitRecords expected records) => ledgerMismatch? sha256 expected records = none
  | some (.done froze) => froze = false
  | some .establishInit | some (.establishRecords _) => False

structure Invariant (sys : RaceSystem) : Prop where
  clear : sys.auditor.frozen = false
  coherent : ∃ checkpoint, Coherent sha256 sys.auditor.store checkpoint ∧
    AuditOnCourse sha256 sys.audit sys.anchored checkpoint
  active : ∀ record existing, sys.active = some (record, existing) →
    (JsNumber.ofInt existing.length).isInteger = true

variable {sha256}

/-- Between its two reads an audit relies on root and leaf count alone; before and after them
on nothing in the store. -/
theorem AuditOnCourse.of_commit (sys : RaceSystem) {audit : Option AuditPc}
    {anchored : List String} {before after : LedgerCheckpoint}
    (h : AuditOnCourse sha256 audit anchored before)
    (hkeep : ({ sys with audit := audit } : RaceSystem).inWindow = true →
      after.root = before.root ∧ after.leafCount = before.leafCount) :
    AuditOnCourse sha256 audit (anchored ++ [after.root]) after := by
  rcases audit with - | (⟨expected, attempt⟩ | expected | ⟨expected, records⟩ | - | records | froze)
  · trivial
  · obtain ⟨hroot, hcount⟩ := hkeep rfl
    obtain ⟨⟨hexp, hexpCount⟩, hanchored⟩ := h
    refine ⟨⟨hexp.trans hroot.symm, hexpCount.trans hcount.symm⟩, fun root hmem => ?_⟩
    rcases List.mem_append.1 hmem with hmem | hmem
    · exact (hanchored root hmem).trans hroot.symm
    · exact List.mem_singleton.1 hmem
  · obtain ⟨hroot, hcount⟩ := hkeep rfl
    exact ⟨h.1.trans hroot.symm, h.2.trans hcount.symm⟩
  · exact h
  · exact h
  · exact h
  · exact h

variable {sys : RaceSystem}

theorem rootAndCount_of_coherent {store : Store} {checkpoint : LedgerCheckpoint}
    (h : Coherent sha256 store checkpoint) :
    rootAndCount store = some (checkpoint.root, checkpoint.leafCount) := by
  rw [rootAndCount, h.checkpoint_eq]
  rfl

theorem Invariant.commit (h : sys.Invariant sha256) (now : IsoTime)
    (hkeep : sys.commitKeepsRoot sha256 (.commit now) = true) :
    (sys.step sha256 (.commit now)).Invariant sha256 := by
  obtain ⟨checkpoint, hcoherent, hcourse⟩ := h.coherent
  simp only [step]
  cases hcommitted : sys.committed? sha256 now with
  | none => exact ⟨h.clear, ⟨checkpoint, hcoherent, hcourse⟩, by simp⟩
  | some saved =>
      obtain ⟨⟨record, existing⟩, hactive, hcommit⟩ := Option.bind_eq_some_iff.1 hcommitted
      obtain ⟨after, hafter⟩ := commitRecord_coherent (get_transactionId_toRow record)
        (normalizeRecord_toRow record) (h.active record existing hactive) hcommit
      have hroot : (sys.setStore saved).currentRoot = some after.root := by
        simp [currentRoot, setStore, hafter.checkpoint_eq]
      refine ⟨h.clear, ⟨after, hafter, ?_⟩, by simp⟩
      change AuditOnCourse sha256 sys.audit
        (sys.anchored ++ (sys.setStore saved).currentRoot.toList) after
      rw [hroot]
      refine AuditOnCourse.of_commit sys hcourse fun hwindow => ?_
      have hsame : rootAndCount saved = rootAndCount sys.auditor.store := by
        simpa [commitKeepsRoot, hcommitted, show sys.inWindow = true from hwindow] using hkeep
      rw [rootAndCount_of_coherent hafter, rootAndCount_of_coherent hcoherent] at hsame
      simpa using hsame

/-- The records of a coherent store match any checkpoint with its root and leaf count. -/
theorem ledgerMismatch?_of_coherent {store : Store} {checkpoint expected : LedgerCheckpoint}
    (h : Coherent sha256 store checkpoint) (hroot : expected.root = checkpoint.root)
    (hcount : expected.leafCount = checkpoint.leafCount) :
    ledgerMismatch? sha256 expected ((readAllRecordsInternal store).getD []) = none := by
  obtain ⟨stored, hstored, hledgerRoot, hledgerCount⟩ := h.agrees
  have hnan : expected.leafCount ≠ .nan := by
    intro hnan
    have := expected.leafCount_isInteger
    rw [hnan] at this
    cases this
  rw [ledgerMismatch?_eq_none, hstored, Option.getD_some]
  refine ⟨?_, (hroot.trans hledgerRoot).symm⟩
  rw [← hledgerCount, ← hcount]
  simp [JsNumber.strictEq, hnan]

theorem Invariant.resumeAudit (h : sys.Invariant sha256) (reply : NotaryReply) (now : IsoTime)
    (hnotary : sys.notaryAnswers (.resumeAudit reply now) = true) :
    (sys.step sha256 (.resumeAudit reply now)).Invariant sha256 := by
  obtain ⟨checkpoint, hcoherent, hcourse⟩ := h.coherent
  obtain ⟨items, hitems⟩ := hcoherent.isArrayFile
  simp only [step]
  rcases haudit : sys.audit with - | pc
  · exact h
  rw [haudit] at hcourse
  cases pc with
  | awaitNotary expected attempt =>
      obtain ⟨⟨hroot, hcount⟩, hanchored⟩ := hcourse
      simp only [notaryAnswers, haudit, Option.any_eq_true, decide_eq_true_eq] at hnotary
      obtain ⟨remote, hremote, hmem⟩ := hnotary
      have hremoteRoot : ¬ remote.root ≠ expected.root :=
        not_not.2 ((hanchored remote.root hmem).trans hroot.symm)
      simp only [resumeAudit_awaitNotary, hremote, resumeWithRemote, if_neg hremoteRoot, hitems]
      exact ⟨h.clear, ⟨checkpoint, hcoherent.initializeStore, hroot, hcount⟩, h.active⟩
  | awaitInit expected =>
      obtain ⟨hroot, hcount⟩ := hcourse
      exact ⟨h.clear, ⟨checkpoint, hcoherent, ledgerMismatch?_of_coherent hcoherent hroot hcount⟩,
        h.active⟩
  | awaitRecords expected records =>
      have hmismatch : ledgerMismatch? sha256 expected records = none := hcourse
      simp only [Ledger.resumeAudit, hmismatch, Auditor.settle]
      exact ⟨h.clear, ⟨checkpoint, hcoherent, rfl⟩, h.active⟩
  | establishInit => exact hcourse.elim
  | establishRecords records => exact hcourse.elim
  | done froze => exact ⟨h.clear, ⟨checkpoint, hcoherent, hcourse⟩, h.active⟩

theorem Invariant.startAudit (h : sys.Invariant sha256) :
    (sys.step sha256 .startAudit).Invariant sha256 := by
  obtain ⟨checkpoint, hcoherent, -⟩ := h.coherent
  rcases haudit : sys.audit with - | pc
  · have hroot : sys.currentRoot = some checkpoint.root := by
      simp [currentRoot, hcoherent.checkpoint_eq]
    have hstart : Ledger.startAudit sys.auditor = (sys.auditor, .awaitNotary checkpoint 1) := by
      simp [Ledger.startAudit, h.clear, hcoherent.checkpoint_eq]
    simp only [step, haudit, hstart, hroot]
    exact ⟨h.clear, ⟨checkpoint, hcoherent, ⟨rfl, rfl⟩, by simp⟩, h.active⟩
  · simpa only [step, haudit] using h

theorem Invariant.acquire (h : sys.Invariant sha256) :
    (sys.step sha256 .acquire).Invariant sha256 := by
  obtain ⟨checkpoint, hcoherent, hcourse⟩ := h.coherent
  simp only [step]
  split
  · refine ⟨h.clear, ⟨checkpoint, hcoherent, hcourse⟩, ?_⟩
    obtain ⟨stored, hstored, -, hcount⟩ := hcoherent.agrees
    intro record existing hactive
    simp only [hstored, Option.map_some, Option.some.injEq, Prod.mk.injEq] at hactive
    have hlen : (merkleOfStored sha256 stored).tree.getLeafCount = existing.length := by
      rw [merkleOfStored, getLeafCount_merkleOfRecords, List.length_map, hactive.2]
    rw [← hlen, ← hcount]
    exact checkpoint.leafCount_isInteger
  · exact h

/-- What one step preserves under the notary's promise, if no save in the window moves the
root. -/
theorem Invariant.step (h : sys.Invariant sha256) (event : RaceEvent)
    (hnotary : sys.notaryAnswers event = true)
    (hkeep : sys.commitKeepsRoot sha256 event = true) :
    (sys.step sha256 event).Invariant sha256 := by
  cases event with
  | save record =>
      obtain ⟨checkpoint, hcoherent, hcourse⟩ := h.coherent
      exact ⟨h.clear, ⟨checkpoint, hcoherent.initializeStore, hcourse⟩, h.active⟩
  | enqueue i =>
      simp only [RaceSystem.step]
      split
      · exact ⟨h.clear, h.coherent, h.active⟩
      · exact h
  | acquire => exact h.acquire
  | commit now => exact h.commit now hkeep
  | startAudit => exact h.startAudit
  | resumeAudit reply now => exact h.resumeAudit reply now hnotary

end RaceSystem

/-- From a coherent store, with a notary that answers with a root anchored during the audit,
the audit never freezes, provided every save that writes between the audit's reads of
checkpoint and ledger leaves root and leaf count unchanged. -/
theorem audit_never_freezes (sha256 : Sha256) (store : Store) (checkpoint : LedgerCheckpoint)
    (events : List RaceEvent) (hstore : Coherent sha256 store checkpoint)
    (hnotary : EachStep (RaceSystem.step sha256) (fun sys event => sys.notaryAnswers event = true)
      (.start store) events)
    (hkeep : EachStep (RaceSystem.step sha256)
      (fun sys event => sys.commitKeepsRoot sha256 event = true) (.start store) events) :
    Throughout (RaceSystem.step sha256) (fun sys => sys.auditor.isFrozen = false)
      (.start store) events := by
  have hinit : (RaceSystem.start store).Invariant sha256 :=
    ⟨rfl, ⟨checkpoint, hstore, trivial⟩, by rintro record existing ⟨⟩⟩
  exact (throughout_of_step (fun sys event h hevent => h.step event hevent.1 hevent.2) hinit
    (hnotary.and hkeep)).mono fun sys h => h.clear

/-! ## A save during the notary fetch -/

def raceSha256 : Sha256 := fun text => if text = "" then emptyRoot else sampleRoot

theorem coherent_emptyAuditor :
    ∃ checkpoint, Coherent raceSha256 emptyAuditor.store checkpoint := by
  obtain ⟨checkpoint, hread, hroot, hcount⟩ := readCheckpoint_writeCheckpoint
    emptyRoot.text 0 sampleTime
    { ledger := some (.json (.arr [])), checkpoint := none, storeInitialized := true }
    (by decide) (isInteger_ofInt (by norm_num))
  exact ⟨checkpoint, ⟨[], rfl⟩, hread, [], rfl, hroot, hcount⟩

def auditAfterSave : List RaceEvent :=
  [.save sampleRecord, .enqueue 0, .acquire, .commit sampleTime, .startAudit,
    .resumeAudit (notaryWithRoot sampleRoot.text 1) sampleTime, .resumeAudit .failed sampleTime,
    .resumeAudit .failed sampleTime]

theorem audit_never_freezes_after_save :
    Throughout (RaceSystem.step raceSha256) (fun sys => sys.auditor.isFrozen = false)
      (.start emptyAuditor.store) auditAfterSave := by
  obtain ⟨checkpoint, hstore⟩ := coherent_emptyAuditor
  exact audit_never_freezes raceSha256 emptyAuditor.store checkpoint auditAfterSave hstore
    (by decide +kernel) (by decide +kernel)

/-- An audit reads the checkpoint, a new record is saved, and the notary answers with the root
anchored for it. -/
def saveDuringAudit : List RaceEvent :=
  [.startAudit, .save sampleRecord, .enqueue 0, .acquire, .commit sampleTime,
    .resumeAudit (notaryWithRoot sampleRoot.text 1) sampleTime]

/-- The audit of `saveDuringAudit` freezes although every file change is a save's. -/
theorem save_during_audit_freezes :
    (∃ checkpoint, Coherent raceSha256 emptyAuditor.store checkpoint) ∧
      EachStep (RaceSystem.step raceSha256) (fun sys event => sys.notaryAnswers event = true)
        (.start emptyAuditor.store) saveDuringAudit ∧
      ¬ Throughout (RaceSystem.step raceSha256) (fun sys => sys.auditor.isFrozen = false)
        (.start emptyAuditor.store) saveDuringAudit := by
  refine ⟨coherent_emptyAuditor, by decide +kernel, fun h => ?_⟩
  have hend : (run (RaceSystem.step raceSha256) (.start emptyAuditor.store)
      saveDuringAudit).auditor.isFrozen = true := by decide +kernel
  rw [h.run] at hend
  cases hend

end UniverEscrow.Ledger
