import UniverEscrow.Ledger.AuditRace
import UniverEscrow.Merkle.InclusionProof

/-!
# The ledger as a keyed list

The saves of one process interleave at their awaits, and an audit with them.  A history keeps
what the callers see: which saves were issued, in which order they entered the write queue, and
how each of them ended.  The ledger is at any time the keyed list of the resolved saves.
-/

namespace UniverEscrow.Ledger

open UniverEscrow.Js UniverEscrow.Merkle UniverEscrow.Lib.Run UniverEscrow.Lib.KeyedList

structure SaveHistory where
  system : RaceSystem
  issued : List EscrowRecord
  /-- The saves in the order they entered the write queue. -/
  queued : List EscrowRecord
  /-- The saves that have left the queue, and whether they resolved. -/
  outcomes : List (EscrowRecord × Bool)

namespace SaveHistory

def start (store : Store) : SaveHistory where
  system := .start store
  issued := []
  queued := []
  outcomes := []

def store (history : SaveHistory) : Store := history.system.auditor.store

/-- The resolved saves, in the order of the write queue. -/
def saved (history : SaveHistory) : List EscrowRecord :=
  (history.outcomes.filter Prod.snd).map Prod.fst

/-- No save is under way. -/
def Quiescent (history : SaveHistory) : Prop :=
  history.system.pending = [] ∧ history.system.queue = [] ∧ history.system.active = none

end SaveHistory

namespace RaceSystem

def issuedBy : RaceEvent → List EscrowRecord
  | .save record => [record]
  | _ => []

def queuedBy (sys : RaceSystem) : RaceEvent → List EscrowRecord
  | .enqueue i => sys.pending[i]?.toList
  | _ => []

variable (sha256 : Sha256)

/-- A save leaves the queue when it has written, and where reading the ledger or writing it
throws. -/
def outcomeOf (sys : RaceSystem) : RaceEvent → List (EscrowRecord × Bool)
  | .acquire =>
      match sys.active, sys.queue with
      | none, record :: _ =>
          if (readAllRecordsInternal sys.auditor.store).isSome then [] else [(record, false)]
      | _, _ => []
  | .commit now =>
      match sys.active with
      | some (record, _) => [(record, (sys.committed? sha256 now).isSome)]
      | none => []
  | _ => []

end RaceSystem

variable (sha256 : Sha256)

def SaveHistory.step (history : SaveHistory) (event : RaceEvent) : SaveHistory where
  system := history.system.step sha256 event
  issued := history.issued ++ RaceSystem.issuedBy event
  queued := history.queued ++ history.system.queuedBy event
  outcomes := history.outcomes ++ history.system.outcomeOf sha256 event

variable {sha256}

/-- The history of the events, from the store they start on. -/
def SaveHistory.after (sha256 : Sha256) (store : Store) (events : List RaceEvent) : SaveHistory :=
  run (SaveHistory.step sha256) (.start store) events

/-! ## What an audit does to the ledger -/

theorem initializeStore_writeCheckpoint (root : String) (leafCount : ℕ) (updatedAt : IsoTime)
    (store : Store) :
    initializeStore (writeCheckpoint root leafCount updatedAt store) =
      writeCheckpoint root leafCount updatedAt (initializeStore store) := by
  have hledger : (writeCheckpoint root leafCount updatedAt store).ledger = store.ledger := rfl
  have hinit : (writeCheckpoint root leafCount updatedAt store).storeInitialized =
      store.storeInitialized := rfl
  rw [initializeStore, initializeStore, hledger, hinit]
  split_ifs
  · rfl
  · split <;> rfl

/-- An audit's step leaves the store alone, initialises it, or writes the checkpoint. -/
inductive AuditEffect (store : Store) : Store → Prop
  | same : AuditEffect store store
  | initialized : AuditEffect store (initializeStore store)
  | anchored (root : String) (leafCount : ℕ) (updatedAt : IsoTime) :
      AuditEffect store (writeCheckpoint root leafCount updatedAt store)

theorem startAudit_effect (auditor : Auditor) :
    AuditEffect auditor.store (startAudit auditor).1.store := by
  unfold startAudit
  split_ifs
  · exact .same
  · split
    · exact .initialized
    · exact .same

theorem resumeAudit_effect (now : IsoTime) (reply : NotaryReply) (auditor : Auditor)
    (pc : AuditPc) :
    AuditEffect auditor.store (resumeAudit sha256 now reply auditor pc).1.store := by
  cases pc with
  | awaitNotary checkpoint attempt =>
      rw [resumeAudit_awaitNotary]
      split
      · unfold resumeWithRemote
        split_ifs
        · rw [Auditor.store_freeze]
          exact .same
        · split
          · exact .initialized
          · rw [Auditor.store_freeze]
            exact .same
          · rw [Auditor.store_freeze]
            exact .same
      · split_ifs
        · exact .same
        · rw [Auditor.store_freeze]
          exact .same
  | awaitInit checkpoint => exact .same
  | awaitRecords checkpoint records =>
      simp only [resumeAudit, Auditor.store_settle]
      exact .same
  | establishInit => exact .same
  | establishRecords records => exact .anchored _ _ now
  | done froze => exact .same

/-- The records a reader finds in the initialised store. -/
def LedgerIs (records : List EscrowRecord) (store : Store) : Prop :=
  ∃ stored, readAllRecordsInternal (initializeStore store) = some stored ∧
    stored.map StoredRecord.record = records

theorem LedgerIs.initializeStore {records : List EscrowRecord} {store : Store}
    (h : LedgerIs records store) : LedgerIs records (initializeStore store) := by
  unfold LedgerIs
  rw [initializeStore_of_initialized (storeInitialized_initializeStore store)]
  exact h

theorem LedgerIs.auditEffect {records : List EscrowRecord} {store after : Store}
    (h : LedgerIs records store) (heffect : AuditEffect store after) : LedgerIs records after := by
  cases heffect with
  | same => exact h
  | initialized => exact h.initializeStore
  | anchored root leafCount updatedAt =>
      obtain ⟨stored, hread, hrecords⟩ := h
      refine ⟨stored, ?_, hrecords⟩
      rw [initializeStore_writeCheckpoint, readAllRecordsInternal_writeCheckpoint, hread]

theorem AuditEffect.storeInitialized {store after : Store} (heffect : AuditEffect store after)
    (h : store.storeInitialized = true) : after.storeInitialized = true := by
  cases heffect with
  | same => exact h
  | initialized => exact storeInitialized_initializeStore store
  | anchored root leafCount updatedAt => exact h

/-! ## The invariant of a history -/

namespace SaveHistory

/-- The keyed list of the resolved saves. -/
def ledger (history : SaveHistory) : List EscrowRecord :=
  upsertAll EscrowRecord.transactionId [] history.saved

/-- The saves leave the queue in the order they entered it, and none is lost on the way. -/
structure Ordered (history : SaveHistory) : Prop where
  order : history.outcomes.map Prod.fst ++ (history.system.active.map Prod.fst).toList ++
    history.system.queue = history.queued
  issued : history.issued.Perm (history.system.pending ++ history.queued)
  initialized : history.issued ≠ [] → history.store.storeInitialized = true

structure Invariant (history : SaveHistory) : Prop where
  order : history.outcomes.map Prod.fst ++ (history.system.active.map Prod.fst).toList ++
    history.system.queue = history.queued
  issued : history.issued.Perm (history.system.pending ++ history.queued)
  initialized : history.issued ≠ [] → history.store.storeInitialized = true
  ledgerIs : LedgerIs history.ledger history.store
  /-- The save inside the lock has read the ledger as it still is. -/
  active : ∀ record existing, history.system.active = some (record, existing) →
    existing.map StoredRecord.record = history.ledger
  /-- Only a ledger at the length limit of arrays turns a save away. -/
  full : (∃ outcome ∈ history.outcomes, outcome.2 = false) →
    maxArrayLength ≤ history.ledger.length

variable {history : SaveHistory}

theorem Invariant.ordered (h : history.Invariant) : history.Ordered :=
  ⟨h.order, h.issued, h.initialized⟩

theorem start_ordered (store : Store) : (start store).Ordered where
  order := rfl
  issued := .nil
  initialized := fun h => absurd rfl h

theorem Ordered.initialized_of_queued (h : history.Ordered) (hqueued : history.queued ≠ []) :
    history.store.storeInitialized = true := by
  apply h.initialized
  intro hnone
  have hperm := h.issued
  rw [hnone] at hperm
  exact hqueued (List.append_eq_nil_iff.1 hperm.symm.eq_nil).2

theorem start_invariant {store : Store}
    (hempty : readAllRecordsInternal (initializeStore store) = some []) :
    (start store).Invariant where
  order := rfl
  issued := .nil
  initialized := fun h => absurd rfl h
  ledgerIs := ⟨[], hempty, rfl⟩
  active := by rintro record existing ⟨⟩
  full := by rintro ⟨outcome, hmem, -⟩; cases hmem

/-- An audit's step changes nothing a history keeps. -/
theorem Invariant.audit (h : history.Invariant) {auditor : Auditor} {audit : Option AuditPc}
    {anchored : List String} (heffect : AuditEffect history.store auditor.store) :
    Invariant { history with
      system := { history.system with
        auditor := auditor, audit := audit, anchored := anchored } } where
  order := h.order
  issued := h.issued
  initialized := fun hissued => heffect.storeInitialized (h.initialized hissued)
  ledgerIs := h.ledgerIs.auditEffect heffect
  active := h.active
  full := h.full

/-- A save is in the queue or inside the lock. -/
theorem Ordered.initialized_of_open (h : history.Ordered)
    (hopen : history.system.active ≠ none ∨ history.system.queue ≠ []) :
    history.store.storeInitialized = true := by
  apply h.initialized_of_queued
  rw [← h.order]
  rcases hopen with hactive | hqueue
  · obtain ⟨save, hsave⟩ := Option.ne_none_iff_exists'.1 hactive
    simp [hsave]
  · simp [hqueue]

/-! ## What an event does to a history -/

/-- An event that no caller of a save notices. -/
theorem step_of_unseen {event : RaceEvent} {system : RaceSystem}
    (hsystem : history.system.step sha256 event = system)
    (hissued : RaceSystem.issuedBy event = []) (hqueued : history.system.queuedBy event = [])
    (houtcomes : history.system.outcomeOf sha256 event = []) :
    history.step sha256 event = { history with system := system } := by
  rw [SaveHistory.step, hsystem, hissued, hqueued, houtcomes, List.append_nil, List.append_nil,
    List.append_nil]

theorem step_save (record : EscrowRecord) :
    history.step sha256 (.save record) =
      { history with
        system := { history.system.setStore (initializeStore history.store) with
          pending := history.system.pending ++ [record] }
        issued := history.issued ++ [record] } := by
  simp [SaveHistory.step, RaceSystem.step, RaceSystem.issuedBy, RaceSystem.queuedBy,
    RaceSystem.outcomeOf, store]

theorem step_enqueue (i : ℕ) :
    history.step sha256 (.enqueue i) =
      match history.system.pending[i]? with
      | some record =>
          { history with
            system := { history.system with
              pending := history.system.pending.eraseIdx i
              queue := history.system.queue ++ [record] }
            queued := history.queued ++ [record] }
      | none => history := by
  cases hrecord : history.system.pending[i]? <;>
    simp [SaveHistory.step, RaceSystem.step, RaceSystem.issuedBy, RaceSystem.queuedBy,
      RaceSystem.outcomeOf, hrecord]

theorem step_acquire {record : EscrowRecord} {queue : List EscrowRecord}
    {stored : List StoredRecord} (hactive : history.system.active = none)
    (hqueue : history.system.queue = record :: queue)
    (hread : readAllRecordsInternal history.store = some stored) :
    history.step sha256 .acquire =
      { history with
        system := { history.system with queue := queue, active := some (record, stored) } } := by
  have hread' : readAllRecordsInternal history.system.auditor.store = some stored := hread
  refine step_of_unseen ?_ rfl rfl ?_
  · simp only [RaceSystem.step, hactive, hqueue, hread', Option.map_some]
  · simp only [RaceSystem.outcomeOf, hactive, hqueue, hread', Option.isSome_some, if_true]

theorem step_acquire_none {record : EscrowRecord} {queue : List EscrowRecord}
    (hactive : history.system.active = none) (hqueue : history.system.queue = record :: queue)
    (hread : readAllRecordsInternal history.store = none) :
    history.step sha256 .acquire =
      { history with
        system := { history.system with queue := queue, active := none }
        outcomes := history.outcomes ++ [(record, false)] } := by
  have hread' : readAllRecordsInternal history.system.auditor.store = none := hread
  simp [SaveHistory.step, RaceSystem.step, RaceSystem.issuedBy, RaceSystem.queuedBy,
    RaceSystem.outcomeOf, hactive, hqueue, hread']

theorem step_acquire_of_busy
    (hidle : ¬ (history.system.active = none ∧ history.system.queue ≠ [])) :
    history.step sha256 .acquire = history := by
  cases hactive : history.system.active with
  | some save =>
      refine step_of_unseen ?_ rfl rfl ?_
      · simp only [RaceSystem.step, hactive]
      · simp only [RaceSystem.outcomeOf, hactive]
  | none =>
      have hqueue : history.system.queue = [] := by
        by_contra hne
        exact hidle ⟨hactive, hne⟩
      refine step_of_unseen ?_ rfl rfl ?_
      · simp only [RaceSystem.step, hactive, hqueue]
      · simp only [RaceSystem.outcomeOf, hactive, hqueue]

theorem step_commit_of_idle {now : IsoTime} (hactive : history.system.active = none) :
    history.step sha256 (.commit now) = history := by
  obtain ⟨⟨auditor, audit, pending, queue, active, anchored⟩, issued, queued, outcomes⟩ := history
  cases hactive
  simp [SaveHistory.step, RaceSystem.step, RaceSystem.issuedBy, RaceSystem.queuedBy,
    RaceSystem.outcomeOf, RaceSystem.committed?]

theorem step_commit_none {now : IsoTime} {record : EscrowRecord} {existing : List StoredRecord}
    (hactive : history.system.active = some (record, existing))
    (hcommit : commitRecord sha256 now existing record.toRow.toJs history.store = none) :
    history.step sha256 (.commit now) =
      { history with
        system := { history.system with active := none }
        outcomes := history.outcomes ++ [(record, false)] } := by
  have hcommitted : history.system.committed? sha256 now = none := by
    rw [RaceSystem.committed?, hactive]
    exact hcommit
  simp [SaveHistory.step, RaceSystem.step, RaceSystem.issuedBy, RaceSystem.queuedBy,
    RaceSystem.outcomeOf, hactive, hcommitted]

theorem step_commit_some {now : IsoTime} {record : EscrowRecord} {existing : List StoredRecord}
    {after : Store} (hactive : history.system.active = some (record, existing))
    (hcommit : commitRecord sha256 now existing record.toRow.toJs history.store = some after) :
    history.step sha256 (.commit now) =
      { history with
        system := { history.system.setStore after with
          active := none
          anchored := history.system.anchored ++
            (history.system.setStore after).currentRoot.toList }
        outcomes := history.outcomes ++ [(record, true)] } := by
  have hcommitted : history.system.committed? sha256 now = some after := by
    rw [RaceSystem.committed?, hactive]
    exact hcommit
  simp [SaveHistory.step, RaceSystem.step, RaceSystem.issuedBy, RaceSystem.queuedBy,
    RaceSystem.outcomeOf, hactive, hcommitted]

theorem step_startAudit :
    history.step sha256 .startAudit =
      match history.system.audit with
      | some _ => history
      | none =>
          { history with
            system := { history.system with
              auditor := (Ledger.startAudit history.system.auditor).1
              audit := some (Ledger.startAudit history.system.auditor).2
              anchored := history.system.currentRoot.toList } } := by
  cases haudit : history.system.audit <;>
    simp [SaveHistory.step, RaceSystem.step, RaceSystem.issuedBy, RaceSystem.queuedBy,
      RaceSystem.outcomeOf, haudit]

theorem step_resumeAudit (reply : NotaryReply) (now : IsoTime) :
    history.step sha256 (.resumeAudit reply now) =
      match history.system.audit with
      | none => history
      | some pc =>
          { history with
            system := { history.system with
              auditor := (Ledger.resumeAudit sha256 now reply history.system.auditor pc).1
              audit :=
                some (Ledger.resumeAudit sha256 now reply history.system.auditor pc).2 } } := by
  cases haudit : history.system.audit <;>
    simp [SaveHistory.step, RaceSystem.step, RaceSystem.issuedBy, RaceSystem.queuedBy,
      RaceSystem.outcomeOf, haudit]

/-! ## The order is kept -/

theorem Ordered.save (h : history.Ordered) (record : EscrowRecord) :
    (history.step sha256 (.save record)).Ordered := by
  rw [step_save]
  refine ⟨h.order, ?_, fun _ => storeInitialized_initializeStore history.store⟩
  refine (h.issued.append_right [record]).trans ?_
  simp only [List.append_assoc]
  exact List.perm_append_comm.append_left _

theorem Ordered.enqueue (h : history.Ordered) (i : ℕ) :
    (history.step sha256 (.enqueue i)).Ordered := by
  rw [step_enqueue]
  split
  · rename_i record hrecord
    refine ⟨?_, ?_, h.initialized⟩
    · simp only [← h.order, List.append_assoc]
    · obtain ⟨hlt, rfl⟩ := List.getElem?_eq_some_iff.1 hrecord
      have hpending := (List.getElem_cons_eraseIdx_perm hlt).symm
      refine h.issued.trans ((hpending.append_right _).trans ?_)
      rw [List.cons_append, ← List.append_assoc]
      exact (List.perm_append_singleton _ _).symm
  · exact h

theorem Ordered.acquire (h : history.Ordered) : (history.step sha256 .acquire).Ordered := by
  by_cases hidle : history.system.active = none ∧ history.system.queue ≠ []
  · obtain ⟨hactive, hqueue⟩ := hidle
    obtain ⟨record, queue, hqueue⟩ := List.exists_cons_of_ne_nil hqueue
    have horder := h.order
    rw [hactive, hqueue] at horder
    cases hread : readAllRecordsInternal history.store with
    | some stored =>
        rw [step_acquire hactive hqueue hread]
        refine ⟨?_, h.issued, h.initialized⟩
        simpa using horder
    | none =>
        rw [step_acquire_none hactive hqueue hread]
        refine ⟨?_, h.issued, h.initialized⟩
        simpa using horder
  · rw [step_acquire_of_busy hidle]
    exact h

theorem Ordered.commit (h : history.Ordered) (now : IsoTime) :
    (history.step sha256 (.commit now)).Ordered := by
  rcases hactive : history.system.active with - | ⟨record, existing⟩
  · rw [step_commit_of_idle hactive]
    exact h
  have horder := h.order
  rw [hactive] at horder
  cases hcommit : commitRecord sha256 now existing record.toRow.toJs history.store with
  | none =>
      rw [step_commit_none hactive hcommit]
      refine ⟨?_, h.issued, h.initialized⟩
      simpa using horder
  | some after =>
      rw [step_commit_some hactive hcommit]
      refine ⟨?_, h.issued, fun hissued => ?_⟩
      · simpa [RaceSystem.setStore] using horder
      · exact (storeInitialized_commitRecord hcommit).trans (h.initialized hissued)

/-- An audit's step changes nothing but the store and the audit. -/
theorem Ordered.audit (h : history.Ordered) {auditor : Auditor} {audit : Option AuditPc}
    {anchored : List String} (heffect : AuditEffect history.store auditor.store) :
    Ordered { history with
      system := { history.system with
        auditor := auditor, audit := audit, anchored := anchored } } where
  order := h.order
  issued := h.issued
  initialized := fun hissued => heffect.storeInitialized (h.initialized hissued)

variable (sha256) in
theorem Ordered.step (h : history.Ordered) (event : RaceEvent) :
    (history.step sha256 event).Ordered := by
  cases event with
  | save record => exact h.save record
  | enqueue i => exact h.enqueue i
  | acquire => exact h.acquire
  | commit now => exact h.commit now
  | startAudit =>
      rw [step_startAudit]
      split
      · exact h
      · exact h.audit (startAudit_effect history.system.auditor)
  | resumeAudit reply now =>
      rw [step_resumeAudit]
      split
      · exact h
      · exact h.audit (resumeAudit_effect now reply history.system.auditor _)

/-! ## The invariant is kept -/

theorem length_of_commitRecord_eq_none {now : IsoTime} {record : EscrowRecord}
    {existing : List StoredRecord} {store : Store}
    (h : commitRecord sha256 now existing record.toRow.toJs store = none) :
    maxArrayLength ≤ existing.length := by
  simp only [commitRecord, normalizeRecord_toRow, Option.bind_eq_bind, Option.bind_some] at h
  by_contra hlen
  have hroom : existing.length < maxArrayLength := by omega
  unfold upsert at h
  dsimp only at h
  split at h
  · simp at h
  · simp [hroom] at h

theorem Invariant.save (h : history.Invariant) (record : EscrowRecord) :
    (history.step sha256 (.save record)).Invariant := by
  have hordered := h.ordered.step sha256 (.save record)
  rw [step_save] at hordered ⊢
  exact ⟨hordered.order, hordered.issued, hordered.initialized, h.ledgerIs.initializeStore,
    h.active, h.full⟩

theorem Invariant.enqueue (h : history.Invariant) (i : ℕ) :
    (history.step sha256 (.enqueue i)).Invariant := by
  have hordered := h.ordered.step sha256 (.enqueue i)
  rw [step_enqueue] at hordered ⊢
  split at hordered
  · rename_i record hrecord
    exact ⟨hordered.order, hordered.issued, h.initialized, h.ledgerIs, h.active, h.full⟩
  · exact h

theorem Invariant.acquire (h : history.Invariant) :
    (history.step sha256 .acquire).Invariant := by
  by_cases hidle : history.system.active = none ∧ history.system.queue ≠ []
  · obtain ⟨hactive, hqueue⟩ := hidle
    obtain ⟨record, queue, hqueue⟩ := List.exists_cons_of_ne_nil hqueue
    obtain ⟨stored, hread, hrecords⟩ := h.ledgerIs
    have hinit := h.ordered.initialized_of_open (.inr (by simp [hqueue]))
    rw [initializeStore_of_initialized hinit] at hread
    have hordered := h.ordered.step sha256 .acquire
    rw [step_acquire hactive hqueue hread] at hordered ⊢
    refine ⟨hordered.order, h.issued, h.initialized, h.ledgerIs, ?_, h.full⟩
    rintro r existing ⟨⟩
    exact hrecords
  · rw [step_acquire_of_busy hidle]
    exact h

theorem Invariant.commit (h : history.Invariant) (now : IsoTime) :
    (history.step sha256 (.commit now)).Invariant := by
  rcases hactive : history.system.active with - | ⟨record, existing⟩
  · rw [step_commit_of_idle hactive]
    exact h
  have hexisting := h.active record existing hactive
  have hinit := h.ordered.initialized_of_open (.inl (by simp [hactive]))
  have hordered := h.ordered.step sha256 (.commit now)
  cases hcommit : commitRecord sha256 now existing record.toRow.toJs history.store with
  | none =>
      rw [step_commit_none hactive hcommit] at hordered ⊢
      have hledger : ({ history with
          system := { history.system with active := none }
          outcomes := history.outcomes ++ [(record, false)] } : SaveHistory).ledger =
            history.ledger := by
        simp [ledger, saved]
      refine ⟨hordered.order, h.issued, h.initialized, ?_, ?_, fun _ => ?_⟩
      · rw [hledger]
        exact h.ledgerIs
      · rintro r es ⟨⟩
      · rw [hledger, ← hexisting, List.length_map]
        exact length_of_commitRecord_eq_none hcommit
  | some after =>
      rw [step_commit_some hactive hcommit] at hordered ⊢
      obtain ⟨stored, hread, hrecords⟩ := commitRecord_records (get_transactionId_toRow record)
        (normalizeRecord_toRow record) hcommit
      have hledger : ∀ system : RaceSystem, ({ history with
          system := system
          outcomes := history.outcomes ++ [(record, true)] } : SaveHistory).ledger =
            upsertBy EscrowRecord.transactionId record history.ledger := by
        intro system
        simp [ledger, saved, upsertAll_singleton]
      rw [hexisting, ← hledger] at hrecords
      have hafter : after.storeInitialized = true :=
        (storeInitialized_commitRecord hcommit).trans hinit
      refine ⟨hordered.order, h.issued, hordered.initialized, ?_, ?_, ?_⟩
      · refine ⟨stored, ?_, hrecords⟩
        exact (congrArg _ (initializeStore_of_initialized hafter)).trans hread
      · rintro r es ⟨⟩
      · rintro ⟨outcome, hmem, hrejected⟩
        rw [hledger]
        have hold : outcome ∈ history.outcomes := by
          rcases List.mem_append.1 hmem with hmem | hmem
          · exact hmem
          · rw [List.mem_singleton] at hmem
            rw [hmem] at hrejected
            cases hrejected
        exact (h.full ⟨outcome, hold, hrejected⟩).trans (length_upsertBy_le record _)

theorem Invariant.step (h : history.Invariant) (event : RaceEvent) :
    (history.step sha256 event).Invariant := by
  cases event with
  | save record => exact h.save record
  | enqueue i => exact h.enqueue i
  | acquire => exact h.acquire
  | commit now => exact h.commit now
  | startAudit =>
      rw [step_startAudit]
      split
      · exact h
      · exact h.audit (startAudit_effect history.system.auditor)
  | resumeAudit reply now =>
      rw [step_resumeAudit]
      split
      · exact h
      · exact h.audit (resumeAudit_effect now reply history.system.auditor _)

/-- The records are those of the resolved saves, one for each id, in the order in which the ids
were first saved and each as last saved, and the proof map has them at their positions. -/
structure Holds (sha256 : Sha256) (history : SaveHistory) (records : List EscrowRecord) : Prop where
  ids : records.map EscrowRecord.transactionId =
    (history.saved.map EscrowRecord.transactionId).eraseDups
  lastSaved : ∀ record ∈ records,
    history.saved.reverse.find? (fun r => r.transactionId = record.transactionId) = some record
  leafIndices : (merkleOfRecords sha256 records).proofByTransactionId.entries.map
      (fun entry => (entry.1, entry.2.1.leafIndex)) =
    (records.map EscrowRecord.transactionId).zipIdx

end SaveHistory

theorem leafIndices_buildMerkleForLedger (sha256 : Sha256) {rows : List LedgerRow}
    (hnodup : (rows.map LedgerRow.transactionId).Nodup) :
    (buildMerkleForLedger sha256 rows).proofByTransactionId.entries.map
        (fun entry => (entry.1, entry.2.1.leafIndex)) =
      (rows.map LedgerRow.transactionId).zipIdx := by
  have hmap : (buildMerkleForLedger sha256 rows).proofByTransactionId = .ofPairs _ :=
    congrArg OrderedMap.ofPairs (filterMap_getProof rows (escrowRecordLeafHash sha256)
      fun row leaf proof => (row.transactionId, (proof, leaf)))
  have hkeys {γ : Type} (value : LedgerRow × ℕ → γ) :
      (rows.zipIdx.map fun entry => (entry.1.transactionId, value entry)).map Prod.fst =
        rows.map LedgerRow.transactionId := by
    calc (rows.zipIdx.map fun entry => (entry.1.transactionId, value entry)).map Prod.fst
        = (rows.zipIdx.map Prod.fst).map LedgerRow.transactionId := by
          rw [List.map_map, List.map_map]
          rfl
      _ = rows.map LedgerRow.transactionId := by rw [List.zipIdx_map_fst]
  rw [hmap, OrderedMap.entries_ofPairs, upsertAll_of_nodup, List.nil_append, List.map_map,
    List.zipIdx_map]
  · rfl
  · rw [List.nil_append]
    exact (hkeys _).symm ▸ hnodup

theorem map_transactionId_toRow (records : List EscrowRecord) :
    (records.map EscrowRecord.toRow).map LedgerRow.transactionId =
      records.map EscrowRecord.transactionId := by
  rw [List.map_map]
  rfl

theorem SaveHistory.Invariant.holds {history : SaveHistory} (h : history.Invariant) :
    history.Holds sha256 ((getAllRecords history.store).1.map StoredRecord.record) := by
  obtain ⟨stored, hread, hrecords⟩ := h.ledgerIs
  have hall : (getAllRecords history.store).1.map StoredRecord.record = history.ledger := by
    rw [← hrecords, getAllRecords, hread, Option.getD_some]
  rw [hall]
  exact ⟨map_key_upsertAll _, fun record hrecord => last_of_mem_upsertAll hrecord,
    by
      rw [← map_transactionId_toRow]
      apply leafIndices_buildMerkleForLedger
      rw [map_transactionId_toRow]
      exact upsertAll_nodup _⟩

theorem SaveHistory.Invariant.quiescent {history : SaveHistory} (h : history.Invariant)
    (hquiescent : history.Quiescent) :
    history.issued.Perm history.queued ∧ history.saved.Sublist history.queued ∧
      (history.saved = history.queued ∨
        maxArrayLength ≤ (getAllRecords history.store).1.length) := by
  obtain ⟨hpending, hqueue, hactive⟩ := hquiescent
  have horder := h.order
  rw [hactive, hqueue] at horder
  simp only [Option.map_none, Option.toList_none, List.append_nil] at horder
  have hissued := h.issued
  rw [hpending, List.nil_append] at hissued
  refine ⟨hissued, ?_, ?_⟩
  · rw [← horder]
    exact List.filter_sublist.map Prod.fst
  · by_cases hrejected : ∃ outcome ∈ history.outcomes, outcome.2 = false
    · right
      obtain ⟨stored, hread, hrecords⟩ := h.ledgerIs
      have hlen := h.full hrejected
      rw [← hrecords, List.length_map] at hlen
      simpa [getAllRecords, hread] using hlen
    · left
      have hall : history.outcomes.filter Prod.snd = history.outcomes := by
        rw [List.filter_eq_self]
        intro outcome hmem
        by_contra hfalse
        exact hrejected ⟨outcome, hmem, by simpa using hfalse⟩
      rw [saved, hall, horder]

/-- Whatever the interleaving, the ledger holds one record for each id ever saved, in the order
of first save in the write queue and each as last saved, and its proof map gives their
positions.  Once no save is under way, all that were issued have left the queue, in its order,
and none was turned away while the array had room. -/
theorem ledger_is_keyed_list (sha256 : Sha256) (store : Store) (events : List RaceEvent)
    (hempty : readAllRecordsInternal (initializeStore store) = some []) :
    (SaveHistory.after sha256 store events).Holds sha256
        ((getAllRecords (SaveHistory.after sha256 store events).store).1.map
          StoredRecord.record) ∧
      ((SaveHistory.after sha256 store events).Quiescent →
        (SaveHistory.after sha256 store events).issued.Perm
            (SaveHistory.after sha256 store events).queued ∧
          (SaveHistory.after sha256 store events).saved.Sublist
            (SaveHistory.after sha256 store events).queued ∧
          ((SaveHistory.after sha256 store events).saved =
              (SaveHistory.after sha256 store events).queued ∨
            maxArrayLength ≤
              (getAllRecords (SaveHistory.after sha256 store events).store).1.length)) := by
  have hinv : (SaveHistory.after sha256 store events).Invariant :=
    run_of_step (fun history event h => h.step event) (SaveHistory.start_invariant hempty)
  exact ⟨hinv.holds, hinv.quiescent⟩

/-! ## Two saves of one id at once -/

def overlappingSaves : List RaceEvent :=
  [.save sampleRecord, .save sampleReleased, .enqueue 1, .enqueue 0, .acquire,
    .commit sampleTime, .acquire, .commit sampleTime]

def overlapped : SaveHistory := .after raceSha256 freshAuditor.store overlappingSaves

theorem ledger_is_keyed_list_overlapping :
    overlapped.Holds raceSha256
        ((getAllRecords overlapped.store).1.map StoredRecord.record) ∧
      (overlapped.Quiescent →
        overlapped.issued.Perm overlapped.queued ∧
          overlapped.saved.Sublist overlapped.queued ∧
          (overlapped.saved = overlapped.queued ∨
            maxArrayLength ≤ (getAllRecords overlapped.store).1.length)) :=
  ledger_is_keyed_list raceSha256 freshAuditor.store overlappingSaves rfl

/-- The save queued last wins. -/
example : overlapped.saved = [sampleReleased, sampleRecord] := by decide +kernel

end UniverEscrow.Ledger
