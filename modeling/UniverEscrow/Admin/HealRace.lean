import UniverEscrow.Admin.HealRestores
import UniverEscrow.Ledger.SaveCoherence
import UniverEscrow.Ledger.WriteQueue

/-!
# A heal among saves

One heal and any number of saves of well-formed records interleave at their awaits.  The heal
reads the ledger, waits, rewrites it, waits once more and writes the checkpoint, all without the
write lock that a save holds from its read to its write.
-/

namespace UniverEscrow.Admin

open UniverEscrow.Js UniverEscrow.Ledger UniverEscrow.Merkle UniverEscrow.Lib.Run
open UniverEscrow.Lib.KeyedList

/-- Where a heal waits. -/
inductive HealPc where
  | notStarted
  | awaitNotary (attempt : ℕ)
  | awaitInit (state : NotaryAuthoritativeState)
  | awaitRecords (state : NotaryAuthoritativeState) (records : List StoredRecord)
  /-- The ledger file is rewritten, its checkpoint is not. -/
  | awaitImport (state : NotaryAuthoritativeState) (root : String) (leafCount : ℕ)
      (quarantineFile : String)
  | done (result : Except HealFailure AdminRecoveryOutcome)

/-- The heal has read the ledger and not yet written its checkpoint. -/
def HealPc.inWindow : HealPc → Bool
  | .awaitRecords _ _ | .awaitImport _ _ _ _ => true
  | _ => false

/-- One call of the heal, with what the platform answers it. -/
structure HealCall where
  env : RecoveryEnv
  clock : HealClock
  replies : ℕ → NotaryReply
  payload : JsValue

def HealCall.requestId (call : HealCall) : JsValue := call.payload.get "requestId"

def healedOutcome (state : NotaryAuthoritativeState) (root : String) (leafCount : ℕ)
    (quarantineFile : String) : AdminRecoveryOutcome where
  ok := true
  authoritativeState := some state
  healedRoot := some root
  healedLeafCount := some leafCount
  quarantineFile := some quarantineFile
  error := none

structure HealSystem where
  saves : SaveHistory
  files : RecoveryFiles
  heal : HealPc

inductive HealEvent where
  | save (record : EscrowRecord)
  | enqueue (i : ℕ)
  | acquire
  | commit (now : IsoTime)
  | startHeal
  | resumeHeal

/-- The event of the saves, if it is one. -/
def HealEvent.saveEvent? : HealEvent → Option RaceEvent
  | .save record => some (.save record)
  | .enqueue i => some (.enqueue i)
  | .acquire => some .acquire
  | .commit now => some (.commit now)
  | _ => none

variable (platform : RecoveryPlatform) (call : HealCall)

/-- Up to the first await: the replay check and the signatures. -/
def startHeal (files : RecoveryFiles) : HealPc :=
  if includesRequest (readRecoveryRequests files.requests) call.requestId then
    .done (.ok duplicateOutcome)
  else
    match verifyMultiSig platform call.env call.clock.verifiedAtMs call.payload with
    | none => .done (.error .platformError)
    | some false => .done (.ok (.failed none "MULTISIG_THRESHOLD_VERIFICATION_FAILED"))
    | some true => .awaitNotary 1

/-- From one await to the next. -/
def resumeHeal (store : Store) (files : RecoveryFiles) : HealPc → Store × RecoveryFiles × HealPc
  | .awaitNotary attempt =>
      match getAuthoritativeState (call.replies attempt) with
      | some state => (initializeStore store, files, .awaitInit state)
      | none =>
          if attempt < maxAttempts then (store, files, .awaitNotary (attempt + 1))
          else (store, files, .done (.error .notaryUnreachable))
  | .awaitInit state =>
      (store, files, .awaitRecords state ((readAllRecordsInternal store).getD []))
  | .awaitRecords state records =>
      match healedPrefixLen platform.sha256 records state.root records.length with
      | none =>
          (store, files,
            .done (.ok (.failed (some state) "NO_PREFIX_MATCHES_AUTHORITATIVE_NOTARY_ROOT")))
      | some prefixLen =>
          match call.requestId.toText with
          | none => (store, files, .done (.error .platformError))
          | some text =>
              let healed := records.take prefixLen
              let merkle := merkleOfStored platform.sha256 healed
              (writeLedger (healed.map StoredRecord.toEntry) store,
                { files with
                  quarantine := files.quarantine ++
                    [⟨quarantineName call.clock text,
                      (quarantineContent call.requestId state records prefixLen).viaJson⟩] },
                .awaitImport state merkle.root merkle.tree.getLeafCount
                  (quarantineName call.clock text))
  | .awaitImport state root leafCount quarantineFile =>
      (writeCheckpoint root leafCount call.clock.updatedAt store,
        { files with requests := appendRecoveryRequest call.requestId files.requests },
        .done (.ok (healedOutcome state root leafCount quarantineFile)))
  | .notStarted => (store, files, .notStarted)
  | .done result => (store, files, .done result)

namespace HealSystem

def start (store : Store) (files : RecoveryFiles) : HealSystem := ⟨.start store, files, .notStarted⟩

def store (sys : HealSystem) : Store := sys.saves.store

def setStore (sys : HealSystem) (store : Store) : SaveHistory :=
  { sys.saves with system := sys.saves.system.setStore store }

def step (sys : HealSystem) (event : HealEvent) : HealSystem :=
  match event.saveEvent? with
  | some saveEvent => { sys with saves := sys.saves.step platform.sha256 saveEvent }
  | none =>
      match event, sys.heal with
      | .startHeal, .notStarted => { sys with heal := startHeal platform call sys.files }
      | .resumeHeal, pc =>
          let (store, files, heal) := resumeHeal platform call sys.store sys.files pc
          { saves := sys.setStore store, files := files, heal := heal }
      | _, _ => sys

/-- No save writes while the heal is between its ledger read and its checkpoint write, and none
is between its own read and write when the heal rewrites the ledger. -/
def noOverlap (sys : HealSystem) (event : HealEvent) : Bool :=
  match event, sys.heal with
  | .commit _, _ => !sys.heal.inWindow || sys.saves.system.active.isNone
  | .resumeHeal, .awaitRecords _ _ => sys.saves.system.active.isNone
  | _, _ => true

end HealSystem

/-! ## One call after another -/

inductive LedgerCall where
  | save (call : SaveCall)
  | heal

structure SerialState where
  store : Store
  files : RecoveryFiles
  result : Option (Except HealFailure AdminRecoveryOutcome)

def serialStep (s : SerialState) : LedgerCall → SerialState
  | .save saveCall => { s with store := saveStep platform.sha256 s.store saveCall }
  | .heal =>
      let (store, files, result) := attemptHealAndReturnOutcome platform call.env call.clock
        call.replies call.payload s.store s.files
      { store := store, files := files, result := some result }

/-- The saves, the heal after the first of them. -/
def serialRun (store : Store) (files : RecoveryFiles) (first second : List SaveCall) :
    SerialState :=
  run (serialStep platform call) ⟨store, files, none⟩
    (first.map LedgerCall.save ++ .heal :: second.map LedgerCall.save)

variable {platform call} {sha256 : Sha256}

/-! ## What an event does to the saves -/

theorem saveStep_of_initializeStore {store : Store} {record : EscrowRecord} (updatedAt : IsoTime) :
    saveStep sha256 (initializeStore store) ⟨record.toRow.toJs, updatedAt⟩ =
      saveStep sha256 store ⟨record.toRow.toJs, updatedAt⟩ := by
  have hobject : record.toRow.toJs.isObject = true := rfl
  simp only [saveStep, saveRecord, hobject, Bool.not_true, Bool.false_eq_true, if_false,
    initializeStore_of_initialized (storeInitialized_initializeStore store)]

/-- The save inside the lock has read the ledger as it still is. -/
def ReadsCurrent (history : SaveHistory) : Prop :=
  ∀ record existing, history.system.active = some (record, existing) →
    readAllRecordsInternal history.store = some existing

/-- What an event of the saves does: none settles and the store is at most initialised, or one
settles as it would alone, by its write or because the ledger cannot be read. -/
inductive SaveEffect (sha256 : Sha256) (event : HealEvent) (history after : SaveHistory) :
    Prop where
  | unseen (houtcomes : after.outcomes = history.outcomes)
      (hstore : after.store = history.store ∨
        after.issued ≠ [] ∧ after.store = initializeStore history.store)
  | settled (record : EscrowRecord) (updatedAt : IsoTime) (resolved : Bool)
      (hcause : (∃ now, event = .commit now ∧ history.system.active ≠ none) ∨
        readAllRecordsInternal history.store = none ∧ after.store = history.store)
      (houtcomes : after.outcomes = history.outcomes ++ [(record, resolved)])
      (hstore : after.store = saveStep sha256 history.store ⟨record.toRow.toJs, updatedAt⟩)
      (hrecords : recordsOf after.store =
        if resolved then upsertBy EscrowRecord.transactionId record (recordsOf history.store)
        else recordsOf history.store)

variable {history : SaveHistory} {event : HealEvent}

theorem saveStep_of_unreadable {store : Store} {record : EscrowRecord} {updatedAt : IsoTime}
    (hinit : store.storeInitialized = true) (hread : readAllRecordsInternal store = none) :
    saveStep sha256 store ⟨record.toRow.toJs, updatedAt⟩ = store := by
  have hobject : record.toRow.toJs.isObject = true := rfl
  simp only [saveStep, saveRecord, hobject, Bool.not_true, Bool.false_eq_true, if_false,
    initializeStore_of_initialized hinit, hread]

theorem saveStep_of_commit {store : Store} {record : EscrowRecord} {updatedAt : IsoTime}
    {existing : List StoredRecord} (hinit : store.storeInitialized = true)
    (hread : readAllRecordsInternal store = some existing) :
    saveStep sha256 store ⟨record.toRow.toJs, updatedAt⟩ =
      (commitRecord sha256 updatedAt existing record.toRow.toJs store).getD store := by
  have hobject : record.toRow.toJs.isObject = true := rfl
  simp only [saveStep, saveRecord, hobject, Bool.not_true, Bool.false_eq_true, if_false,
    initializeStore_of_initialized hinit, hread]
  cases commitRecord sha256 updatedAt existing record.toRow.toJs store <;> rfl

theorem recordsOf_of_read {store : Store} {stored : List StoredRecord}
    (hinit : store.storeInitialized = true) (hread : readAllRecordsInternal store = some stored) :
    recordsOf store = stored.map StoredRecord.record := by
  rw [recordsOf, getAllRecords, initializeStore_of_initialized hinit, hread, Option.getD_some]

theorem storeInitialized_saveStep (store : Store) (record : EscrowRecord) (updatedAt : IsoTime) :
    (saveStep sha256 store ⟨record.toRow.toJs, updatedAt⟩).storeInitialized = true := by
  have hinit := storeInitialized_initializeStore store
  rw [← saveStep_of_initializeStore]
  cases hread : readAllRecordsInternal (initializeStore store) with
  | none => rw [saveStep_of_unreadable hinit hread, hinit]
  | some existing =>
      rw [saveStep_of_commit hinit hread]
      cases hcommit : commitRecord sha256 updatedAt existing record.toRow.toJs
          (initializeStore store) with
      | none => exact hinit
      | some saved => exact (storeInitialized_commitRecord hcommit).trans hinit

theorem saveEffect_save (record : EscrowRecord) (hordered : history.Ordered)
    (hreads : ReadsCurrent history) :
    SaveEffect sha256 (.save record) history (history.step sha256 (.save record)) ∧
      ReadsCurrent (history.step sha256 (.save record)) := by
  rw [SaveHistory.step_save]
  refine ⟨.unseen rfl (.inr ⟨by simp, rfl⟩), fun active existing hactive => ?_⟩
  have hactive' : history.system.active = some (active, existing) := hactive
  have hstore := initializeStore_of_initialized
    (hordered.initialized_of_open (.inl (by simp [hactive'])))
  rw [hstore]
  exact hreads active existing hactive'

theorem saveEffect_acquire (hordered : history.Ordered) (hreads : ReadsCurrent history) :
    SaveEffect sha256 .acquire history (history.step sha256 .acquire) ∧
      ReadsCurrent (history.step sha256 .acquire) := by
  by_cases hidle : history.system.active = none ∧ history.system.queue ≠ []
  · obtain ⟨hactive, hqueue⟩ := hidle
    have hstore := hordered.initialized_of_open (.inr hqueue)
    obtain ⟨record, queue, hqueue⟩ := List.exists_cons_of_ne_nil hqueue
    cases hread : readAllRecordsInternal history.store with
    | some stored =>
        rw [SaveHistory.step_acquire hactive hqueue hread]
        refine ⟨.unseen rfl (.inl rfl), ?_⟩
        rintro active existing ⟨⟩
        exact hread
    | none =>
        rw [SaveHistory.step_acquire_none hactive hqueue hread]
        refine ⟨.settled record sampleTime false (.inr ⟨hread, rfl⟩) rfl
          (saveStep_of_unreadable hstore hread).symm rfl, ?_⟩
        rintro active existing ⟨⟩
  · rw [SaveHistory.step_acquire_of_busy hidle]
    exact ⟨.unseen rfl (.inl rfl), hreads⟩

theorem saveEffect_commit (now : IsoTime) (hordered : history.Ordered)
    (hreads : ReadsCurrent history) :
    SaveEffect sha256 (.commit now) history (history.step sha256 (.commit now)) ∧
      ReadsCurrent (history.step sha256 (.commit now)) := by
  rcases hactive : history.system.active with - | ⟨record, existing⟩
  · rw [SaveHistory.step_commit_of_idle hactive]
    exact ⟨.unseen rfl (.inl rfl), hreads⟩
  have hcause : ∃ now', HealEvent.commit now = .commit now' ∧ history.system.active ≠ none :=
    ⟨now, rfl, by simp [hactive]⟩
  have hstore := hordered.initialized_of_open (.inl (by simp [hactive]))
  have hread := hreads record existing hactive
  have hsave : saveStep sha256 history.store ⟨record.toRow.toJs, now⟩ = _ :=
    saveStep_of_commit hstore hread
  cases hcommit : commitRecord sha256 now existing record.toRow.toJs history.store with
  | none =>
      rw [SaveHistory.step_commit_none hactive hcommit]
      rw [hcommit, Option.getD_none] at hsave
      refine ⟨.settled record now false (.inl hcause) rfl hsave.symm rfl, ?_⟩
      rintro active held ⟨⟩
  | some after =>
      rw [SaveHistory.step_commit_some hactive hcommit]
      rw [hcommit, Option.getD_some] at hsave
      obtain ⟨stored, hstored, hrecords⟩ := commitRecord_records
        (get_transactionId_toRow record) (normalizeRecord_toRow record) hcommit
      have hafter := (storeInitialized_commitRecord hcommit).trans hstore
      refine ⟨.settled record now true (.inl hcause) rfl hsave.symm ?_, ?_⟩
      · rw [if_pos rfl, recordsOf_of_read hstore hread, ← hrecords]
        exact recordsOf_of_read hafter hstored
      · rintro active held ⟨⟩

theorem saveEffect_step (hordered : history.Ordered) (hreads : ReadsCurrent history)
    {saveEvent : RaceEvent} (hevent : event.saveEvent? = some saveEvent) :
    SaveEffect sha256 event history (history.step sha256 saveEvent) ∧
      ReadsCurrent (history.step sha256 saveEvent) := by
  cases event with
  | save record =>
      cases hevent
      exact saveEffect_save record hordered hreads
  | enqueue i =>
      cases hevent
      rw [SaveHistory.step_enqueue]
      split <;> exact ⟨.unseen rfl (.inl rfl), hreads⟩
  | acquire =>
      cases hevent
      exact saveEffect_acquire hordered hreads
  | commit now =>
      cases hevent
      exact saveEffect_commit now hordered hreads
  | startHeal => cases hevent
  | resumeHeal => cases hevent

/-- The calls are those of the saves that have left the queue, in its order. -/
def SavedAs (calls : List SaveCall) (history : SaveHistory) : Prop :=
  calls.map SaveCall.record = history.outcomes.map fun outcome => outcome.1.toRow.toJs

/-- The store is as the calls leave it, one after another, or a save has initialised it. -/
def Reaches (sha256 : Sha256) (base : Store) (calls : List SaveCall) (history : SaveHistory) :
    Prop :=
  history.store = run (saveStep sha256) base calls ∨
    history.issued ≠ [] ∧ history.store = initializeStore (run (saveStep sha256) base calls)

theorem run_saveStep_concat (base : Store) (calls : List SaveCall) (saveCall : SaveCall) :
    run (saveStep sha256) base (calls ++ [saveCall]) =
      saveStep sha256 (run (saveStep sha256) base calls) saveCall := by
  rw [run_append, run_cons, run_nil]

theorem SavedAs.concat {calls : List SaveCall} {after : SaveHistory} (h : SavedAs calls history)
    {record : EscrowRecord} {resolved : Bool} (updatedAt : IsoTime)
    (houtcomes : after.outcomes = history.outcomes ++ [(record, resolved)]) :
    SavedAs (calls ++ [⟨record.toRow.toJs, updatedAt⟩]) after := by
  unfold SavedAs at h ⊢
  rw [houtcomes, List.map_append, List.map_append, h, List.map_singleton, List.map_singleton]

theorem SavedAs.of_outcomes {calls : List SaveCall} {after : SaveHistory}
    (h : SavedAs calls history) (houtcomes : after.outcomes = history.outcomes) :
    SavedAs calls after := by
  unfold SavedAs at h ⊢
  rw [houtcomes, h]

/-- What the saves do, they do one after another, wherever the heal stands in between. -/
theorem Reaches.step {base : Store} {second : List SaveCall} {after : SaveHistory}
    (h : Reaches sha256 base second history) (first : List SaveCall)
    (hsaved : SavedAs (first ++ second) history)
    (heffect : SaveEffect sha256 event history after)
    (hissued : history.issued ≠ [] → after.issued ≠ []) :
    ∃ second', SavedAs (first ++ second') after ∧ Reaches sha256 base second' after := by
  cases heffect with
  | unseen houtcomes hstore =>
      refine ⟨second, hsaved.of_outcomes houtcomes, ?_⟩
      rcases hstore with hstore | ⟨hcalled, hstore⟩
      · rcases h with h | ⟨hcalled, h⟩
        · exact .inl (hstore.trans h)
        · exact .inr ⟨hissued hcalled, hstore.trans h⟩
      · right
        rcases h with h | ⟨-, h⟩
        · exact ⟨hcalled, hstore.trans (congrArg _ h)⟩
        · refine ⟨hcalled, hstore.trans ?_⟩
          rw [h, initializeStore_of_initialized (storeInitialized_initializeStore _)]
  | settled record updatedAt resolved _ houtcomes hstore _ =>
      refine ⟨second ++ [⟨record.toRow.toJs, updatedAt⟩], ?_, .inl ?_⟩
      · rw [← List.append_assoc]
        exact hsaved.concat updatedAt houtcomes
      · rw [hstore, run_saveStep_concat]
        rcases h with h | ⟨-, h⟩
        · rw [h]
        · rw [h, saveStep_of_initializeStore]

/-! ## What a heal relies on -/

/-- The request is new and its signatures suffice. -/
structure HealCall.Verified (platform : RecoveryPlatform) (call : HealCall)
    (files : RecoveryFiles) : Prop where
  fresh : includesRequest (readRecoveryRequests files.requests) call.requestId = false
  verified : verifyMultiSig platform call.env call.clock.verifiedAtMs call.payload = some true

/-- The heal alone, on the store the saves have led to. -/
def HealCall.alone (platform : RecoveryPlatform) (call : HealCall) (store : Store)
    (files : RecoveryFiles) : Store × RecoveryFiles × Except HealFailure AdminRecoveryOutcome :=
  attemptHealAndReturnOutcome platform call.env call.clock call.replies call.payload store files

variable (platform call) in
/-- What is known where the heal waits, of the store and the files it was called on. -/
def HealOnCourse (base : Store) (before : RecoveryFiles) (saves : SaveHistory)
    (files : RecoveryFiles) : HealPc → Prop
  | .notStarted =>
      files = before ∧ ∃ first, SavedAs first saves ∧ Reaches platform.sha256 base first saves
  | .awaitNotary attempt =>
      files = before ∧ call.Verified platform before ∧
        (attempt ≤ maxAttempts ∧ fetchAuthoritativeState call.replies =
          fetchFrom call.replies attempt (maxAttempts + 1 - attempt)) ∧
        ∃ first, SavedAs first saves ∧ Reaches platform.sha256 base first saves
  | .awaitInit state =>
      files = before ∧ call.Verified platform before ∧
        fetchAuthoritativeState call.replies = some state ∧
        ∃ first, SavedAs first saves ∧
          saves.store = initializeStore (run (saveStep platform.sha256) base first)
  | .awaitRecords state records =>
      files = before ∧ call.Verified platform before ∧
        fetchAuthoritativeState call.replies = some state ∧
        (∃ first, SavedAs first saves ∧
          saves.store = initializeStore (run (saveStep platform.sha256) base first)) ∧
        records = (readAllRecordsInternal saves.store).getD []
  | .awaitImport state root leafCount quarantineFile =>
      (readAllRecordsInternal saves.store).isSome = true ∧ saves.store.storeInitialized = true ∧
        ∃ first, SavedAs first saves ∧
          call.alone platform (run (saveStep platform.sha256) base first) before =
            (writeCheckpoint root leafCount call.clock.updatedAt saves.store,
              { files with requests := appendRecoveryRequest call.requestId files.requests },
              .ok (healedOutcome state root leafCount quarantineFile))
  | .done result =>
      ∃ first second, SavedAs (first ++ second) saves ∧
        (call.alone platform (run (saveStep platform.sha256) base first) before).2 =
          (files, result) ∧
        Reaches platform.sha256
          (call.alone platform (run (saveStep platform.sha256) base first) before).1 second saves

/-- Every record there was or that was saved is, as last saved, in the ledger or in a quarantine
file. -/
def NothingLost (initial : List EscrowRecord) (sys : HealSystem) : Prop :=
  ∀ record, record ∈ initial ∨ record ∈ sys.saves.saved →
    let last := (sys.saves.saved.reverse.find?
      fun r => r.transactionId = record.transactionId).getD record
    last ∈ recordsOf sys.store ∨ last ∈ quarantinedRecords sys.files

variable (platform call) in
structure HealSystem.Invariant (base : Store) (before : RecoveryFiles) (sys : HealSystem) :
    Prop where
  ordered : sys.saves.Ordered
  reads : ReadsCurrent sys.saves
  course : HealOnCourse platform call base before sys.saves sys.files sys.heal
  kept : NothingLost (recordsOf base) sys

variable {base : Store} {before : RecoveryFiles} {sys : HealSystem}

theorem HealSystem.start_invariant (base : Store) (before : RecoveryFiles) :
    (HealSystem.start base before).Invariant platform call base before where
  ordered := SaveHistory.start_ordered base
  reads := by rintro record existing ⟨⟩
  course := ⟨rfl, [], rfl, .inl rfl⟩
  kept := by
    rintro record (hrecord | hrecord)
    · exact .inl hrecord
    · cases hrecord

/-! ## The steps of the saves -/

/-- `record` as last saved. -/
theorem transactionId_lastSaved (saved : List EscrowRecord) (record : EscrowRecord) :
    ((saved.reverse.find? fun r => r.transactionId = record.transactionId).getD
      record).transactionId = record.transactionId := by
  cases hfind : saved.reverse.find? fun r => r.transactionId = record.transactionId with
  | none => rfl
  | some last => simpa using List.find?_some hfind

theorem nothingLost_of_saved {initial : List EscrowRecord} {after : HealSystem}
    {record : EscrowRecord} (h : NothingLost initial sys)
    (hsaved : after.saves.saved = sys.saves.saved ++ [record])
    (hrecords : recordsOf after.store =
      upsertBy EscrowRecord.transactionId record (recordsOf sys.store))
    (hfiles : after.files = sys.files) : NothingLost initial after := by
  intro other hother
  rw [hsaved, List.reverse_append, List.reverse_singleton, List.singleton_append, List.find?_cons]
  by_cases hid : record.transactionId = other.transactionId
  · simp only [hid, decide_true, Option.getD_some]
    left
    rw [hrecords]
    exact mem_upsertBy_self record _
  · simp only [hid, decide_false]
    have hknown : other ∈ initial ∨ other ∈ sys.saves.saved := by
      rcases hother with hother | hother
      · exact .inl hother
      · rw [hsaved] at hother
        rcases List.mem_append.1 hother with hother | hother
        · exact .inr hother
        · exact absurd (congrArg EscrowRecord.transactionId (List.mem_singleton.1 hother).symm) hid
    rw [hrecords, hfiles]
    rcases h other hknown with hledger | hquarantined
    · left
      apply mem_upsertBy_of_ne hledger
      rw [transactionId_lastSaved]
      exact fun hsame => hid hsame.symm
    · exact .inr hquarantined

theorem nothingLost_of_same {initial : List EscrowRecord} {after : HealSystem}
    (h : NothingLost initial sys) (hsaved : after.saves.saved = sys.saves.saved)
    (hrecords : recordsOf after.store = recordsOf sys.store)
    (hfiles : after.files.quarantine = sys.files.quarantine) : NothingLost initial after := by
  intro record hrecord
  have hkept := h record (hsaved ▸ hrecord)
  have hquarantined : quarantinedRecords after.files = quarantinedRecords sys.files := by
    rw [quarantinedRecords, hfiles]
    rfl
  simp only [hsaved, hrecords, hquarantined] at hkept ⊢
  exact hkept

theorem nothingLost_of_effect {initial : List EscrowRecord} {after : SaveHistory}
    (h : NothingLost initial sys) (heffect : SaveEffect sha256 event sys.saves after) :
    NothingLost initial { sys with saves := after } := by
  cases heffect with
  | unseen houtcomes hstore =>
      refine nothingLost_of_same h (by simp only [SaveHistory.saved, houtcomes]) ?_ rfl
      rcases hstore with hstore | ⟨-, hstore⟩
      · exact congrArg recordsOf hstore
      · exact (congrArg recordsOf hstore).trans (recordsOf_initializeStore _)
  | settled record updatedAt resolved _ houtcomes hstore hrecords =>
      cases resolved with
      | false => exact nothingLost_of_same h (by simp [SaveHistory.saved, houtcomes]) hrecords rfl
      | true =>
          exact nothingLost_of_saved h (by simp [SaveHistory.saved, houtcomes]) hrecords rfl

theorem run_saveStep_initialized {base : Store} {first : List SaveCall} {record : EscrowRecord}
    {updatedAt : IsoTime} {store : Store}
    (h : store = initializeStore (run (saveStep sha256) base first)) :
    saveStep sha256 store ⟨record.toRow.toJs, updatedAt⟩ =
      initializeStore (run (saveStep sha256) base (first ++ [⟨record.toRow.toJs, updatedAt⟩])) := by
  rw [run_saveStep_concat, h, saveStep_of_initializeStore,
    initializeStore_of_initialized (storeInitialized_saveStep _ record updatedAt)]

/-- Once the heal has initialised the store, the saves reach what they reach initialised. -/
theorem initialized_step {first : List SaveCall} {after : SaveHistory}
    (hsaved : SavedAs first history)
    (hstore : history.store = initializeStore (run (saveStep sha256) base first))
    (heffect : SaveEffect sha256 event history after) :
    ∃ first', SavedAs first' after ∧
      after.store = initializeStore (run (saveStep sha256) base first') := by
  cases heffect with
  | unseen houtcomes hafter =>
      refine ⟨first, hsaved.of_outcomes houtcomes, ?_⟩
      rcases hafter with hafter | ⟨-, hafter⟩
      · exact hafter.trans hstore
      · rw [hafter, hstore, initializeStore_of_initialized (storeInitialized_initializeStore _)]
  | settled record updatedAt resolved _ houtcomes hafter _ =>
      exact ⟨_, hsaved.concat updatedAt houtcomes,
        hafter.trans (run_saveStep_initialized hstore)⟩

/-- No event of the saves that keeps out of the heal's window changes an initialised store. -/
theorem store_of_noOverlap {after : SaveHistory}
    (heffect : SaveEffect sha256 event history after)
    (hinit : history.store.storeInitialized = true)
    (hquiet : ∀ now, event = .commit now → history.system.active = none) :
    after.store = history.store ∧
      (after.outcomes = history.outcomes ∨ readAllRecordsInternal history.store = none) := by
  cases heffect with
  | unseen houtcomes hafter =>
      refine ⟨?_, .inl houtcomes⟩
      rcases hafter with hafter | ⟨-, hafter⟩
      · exact hafter
      · rw [hafter, initializeStore_of_initialized hinit]
  | settled record updatedAt resolved hcause _ _ _ =>
      rcases hcause with ⟨now, hcommit, hactive⟩ | ⟨hread, hafter⟩
      · exact absurd (hquiet now hcommit) hactive
      · exact ⟨hafter, .inr hread⟩

/-- The course of the heal is kept by the events of the saves. -/
theorem course_of_effect {files : RecoveryFiles} {pc : HealPc} {after : SaveHistory}
    (hcourse : HealOnCourse platform call base before history files pc)
    (heffect : SaveEffect platform.sha256 event history after)
    (hissued : history.issued ≠ [] → after.issued ≠ [])
    (hquiet : pc.inWindow = true → ∀ now, event = .commit now → history.system.active = none) :
    HealOnCourse platform call base before after files pc := by
  cases pc with
  | notStarted =>
      obtain ⟨hfiles, first, hsaved, hreaches⟩ := hcourse
      exact ⟨hfiles, hreaches.step [] hsaved heffect hissued⟩
  | awaitNotary attempt =>
      obtain ⟨hfiles, hverified, hfetch, first, hsaved, hreaches⟩ := hcourse
      exact ⟨hfiles, hverified, hfetch, hreaches.step [] hsaved heffect hissued⟩
  | awaitInit state =>
      obtain ⟨hfiles, hverified, hfetch, first, hsaved, hstore⟩ := hcourse
      exact ⟨hfiles, hverified, hfetch, initialized_step hsaved hstore heffect⟩
  | awaitRecords state records =>
      obtain ⟨hfiles, hverified, hfetch, ⟨first, hsaved, hstore⟩, hrecords⟩ := hcourse
      have hinit : history.store.storeInitialized = true := by
        rw [hstore]
        exact storeInitialized_initializeStore _
      obtain ⟨hsame, -⟩ := store_of_noOverlap heffect hinit (hquiet rfl)
      refine ⟨hfiles, hverified, hfetch, initialized_step hsaved hstore heffect, ?_⟩
      rw [hrecords, hsame]
  | awaitImport state root leafCount quarantineFile =>
      obtain ⟨hread, hinit, first, hsaved, halone⟩ := hcourse
      obtain ⟨hsame, houtcomes⟩ := store_of_noOverlap heffect hinit (hquiet rfl)
      simp only [HealOnCourse, hsame]
      refine ⟨hread, hinit, first, hsaved.of_outcomes ?_, halone⟩
      rcases houtcomes with houtcomes | hnone
      · exact houtcomes
      · rw [hnone] at hread
        cases hread
  | done result =>
      obtain ⟨first, second, hsaved, halone, hreaches⟩ := hcourse
      obtain ⟨second', hsaved', hreaches'⟩ := hreaches.step first hsaved heffect hissued
      exact ⟨first, second', hsaved', halone, hreaches'⟩

/-! ## The steps of the heal -/

theorem HealCall.Verified.alone_eq {files : RecoveryFiles} (h : call.Verified platform files)
    (store : Store) :
    call.alone platform store files =
      healLedger platform call.clock call.replies call.requestId store files := by
  have hfresh := h.fresh
  unfold HealCall.requestId at hfresh ⊢
  simp only [HealCall.alone, attemptHealAndReturnOutcome, hfresh, h.verified, Bool.false_eq_true,
    if_false]

/-- The saves so far taken for the store the heal is called on. -/
theorem Reaches.rebase {first : List SaveCall} (h : Reaches sha256 base first history) :
    Reaches sha256 (run (saveStep sha256) base first) [] history := h

/-- Where the heal alone leaves the store it finds here, it is done here as it is alone. -/
theorem course_of_alone {files : RecoveryFiles} {store : Store} {first : List SaveCall}
    {result : Except HealFailure AdminRecoveryOutcome} (hsaved : SavedAs first history)
    (hreaches : Reaches platform.sha256 store [] history)
    (halone : call.alone platform (run (saveStep platform.sha256) base first) before =
      (store, files, result)) :
    HealOnCourse platform call base before history files (.done result) := by
  refine ⟨first, [], ?_, ?_, ?_⟩
  · rw [List.append_nil]
    exact hsaved
  · rw [halone]
  · rw [halone]
    exact hreaches

theorem course_startHeal {files : RecoveryFiles}
    (hcourse : HealOnCourse platform call base before history files .notStarted) :
    HealOnCourse platform call base before history files (startHeal platform call files) := by
  obtain ⟨rfl, first, hsaved, hreaches⟩ := hcourse
  unfold startHeal
  cases hrecorded : includesRequest (readRecoveryRequests files.requests) call.requestId with
  | true =>
      refine course_of_alone hsaved hreaches.rebase ?_
      unfold HealCall.requestId at hrecorded
      simp only [HealCall.alone, attemptHealAndReturnOutcome, hrecorded, if_true]
      rfl
  | false =>
      rw [if_neg Bool.false_ne_true]
      cases hverified : verifyMultiSig platform call.env call.clock.verifiedAtMs call.payload with
      | none =>
          refine course_of_alone hsaved hreaches.rebase ?_
          unfold HealCall.requestId at hrecorded
          simp only [HealCall.alone, attemptHealAndReturnOutcome, hrecorded, hverified,
            Bool.false_eq_true, if_false]
      | some verified =>
          cases verified with
          | false =>
              refine course_of_alone hsaved hreaches.rebase ?_
              unfold HealCall.requestId at hrecorded
              simp only [HealCall.alone, attemptHealAndReturnOutcome, hrecorded, hverified,
                Bool.false_eq_true, if_false]
          | true =>
              exact ⟨rfl, ⟨hrecorded, hverified⟩, ⟨by decide, rfl⟩, first, hsaved, hreaches⟩

/-- The history with another store. -/
def withStore (history : SaveHistory) (store : Store) : SaveHistory :=
  { history with system := history.system.setStore store }

theorem course_awaitNotary {files : RecoveryFiles} {attempt : ℕ}
    (hcourse : HealOnCourse platform call base before history files (.awaitNotary attempt)) :
    let resumed := resumeHeal platform call history.store files (.awaitNotary attempt)
    HealOnCourse platform call base before (withStore history resumed.1) resumed.2.1
      resumed.2.2 := by
  obtain ⟨rfl, hverified, ⟨hle, hfetch⟩, first, hsaved, hreaches⟩ := hcourse
  have hmore : maxAttempts + 1 - attempt = (maxAttempts - attempt) + 1 := by omega
  rw [hmore, fetchFrom] at hfetch
  simp only [resumeHeal]
  cases hreply : getAuthoritativeState (call.replies attempt) with
  | some state =>
      simp only [hreply] at hfetch
      refine ⟨rfl, hverified, hfetch, first, hsaved, ?_⟩
      rcases hreaches with hstore | ⟨-, hstore⟩
      · exact congrArg initializeStore hstore
      · exact (congrArg initializeStore hstore).trans
          (initializeStore_of_initialized (storeInitialized_initializeStore _))
  | none =>
      simp only [hreply] at hfetch
      dsimp only
      split_ifs with hlt
      · have hnext : maxAttempts - attempt = maxAttempts + 1 - (attempt + 1) := by omega
        rw [hnext] at hfetch
        exact ⟨rfl, hverified, ⟨hlt, hfetch⟩, first, hsaved, hreaches⟩
      · have hlast : maxAttempts - attempt = 0 := by omega
        rw [hlast, fetchFrom] at hfetch
        refine course_of_alone hsaved hreaches.rebase ?_
        rw [hverified.alone_eq, healLedger, hfetch]

theorem course_awaitRecords {files : RecoveryFiles} {state : NotaryAuthoritativeState}
    {records : List StoredRecord}
    (hcourse : HealOnCourse platform call base before history files (.awaitRecords state records)) :
    let resumed := resumeHeal platform call history.store files (.awaitRecords state records)
    HealOnCourse platform call base before (withStore history resumed.1) resumed.2.1
      resumed.2.2 := by
  obtain ⟨rfl, hverified, hfetch, ⟨first, hsaved, hstore⟩, hrecords⟩ := hcourse
  have hread : getAllRecords (run (saveStep platform.sha256) base first) =
      (records, history.store) := by
    rw [hrecords, hstore]
    rfl
  have halone := hverified.alone_eq (run (saveStep platform.sha256) base first)
  simp only [healLedger, hfetch, hread] at halone
  simp only [resumeHeal]
  cases hfound : healedPrefixLen platform.sha256 records state.root records.length with
  | none =>
      simp only [hfound] at halone
      exact course_of_alone hsaved (.inl rfl) halone
  | some prefixLen =>
      cases htext : call.requestId.toText with
      | none =>
          simp only [hfound, htext] at halone
          exact course_of_alone hsaved (.inl rfl) halone
      | some text =>
          simp only [hfound, htext] at halone
          refine ⟨?_, ?_, first, hsaved, halone⟩
          · rfl
          · exact (congrArg Store.storeInitialized hstore).trans
              (storeInitialized_initializeStore _)

theorem course_resumeHeal {files : RecoveryFiles} {pc : HealPc}
    (hcourse : HealOnCourse platform call base before history files pc) :
    let resumed := resumeHeal platform call history.store files pc
    HealOnCourse platform call base before (withStore history resumed.1) resumed.2.1
      resumed.2.2 := by
  cases pc with
  | notStarted => exact hcourse
  | awaitNotary attempt => exact course_awaitNotary hcourse
  | awaitInit state =>
      obtain ⟨hfiles, hverified, hfetch, hsaves⟩ := hcourse
      exact ⟨hfiles, hverified, hfetch, hsaves, rfl⟩
  | awaitRecords state records => exact course_awaitRecords hcourse
  | awaitImport state root leafCount quarantineFile =>
      obtain ⟨-, -, first, hsaved, halone⟩ := hcourse
      exact course_of_alone hsaved (.inl rfl) halone
  | done result => exact hcourse

theorem storeInitialized_resumeHeal {store : Store} (files : RecoveryFiles) (pc : HealPc)
    (hinit : store.storeInitialized = true) :
    (resumeHeal platform call store files pc).1.storeInitialized = true := by
  cases pc with
  | awaitNotary attempt =>
      simp only [resumeHeal]
      split
      · exact storeInitialized_initializeStore store
      · split_ifs <;> exact hinit
  | awaitRecords state records =>
      simp only [resumeHeal]
      split
      · exact hinit
      · split <;> exact hinit
  | notStarted => exact hinit
  | awaitInit state => exact hinit
  | awaitImport state root leafCount quarantineFile => exact hinit
  | done result => exact hinit

/-- Only the step that truncates changes what the ledger file says. -/
theorem read_resumeHeal {store : Store} (files : RecoveryFiles) {pc : HealPc}
    (hinit : store.storeInitialized = true)
    (hpc : ∀ state records, pc ≠ .awaitRecords state records) :
    readAllRecordsInternal (resumeHeal platform call store files pc).1 =
      readAllRecordsInternal store := by
  cases pc with
  | awaitNotary attempt =>
      simp only [resumeHeal]
      split
      · rw [initializeStore_of_initialized hinit]
      · split_ifs <;> rfl
  | awaitRecords state records => exact absurd rfl (hpc state records)
  | notStarted => rfl
  | awaitInit state => rfl
  | awaitImport state root leafCount quarantineFile => rfl
  | done result => rfl

theorem nothingLost_truncate {initial : List EscrowRecord} {after : HealSystem}
    (records : List StoredRecord) (k : ℕ) (hkept : NothingLost initial sys)
    (hsaved : after.saves.saved = sys.saves.saved)
    (hbefore : recordsOf sys.store = records.map StoredRecord.record)
    (hledger : recordsOf after.store = (records.take k).map StoredRecord.record)
    (hquarantined : quarantinedRecords after.files =
      quarantinedRecords sys.files ++ (records.drop k).map StoredRecord.record) :
    NothingLost initial after := by
  intro record hrecord
  have hlast := hkept record (hsaved ▸ hrecord)
  simp only [hsaved, hledger, hquarantined, hbefore] at hlast ⊢
  generalize (sys.saves.saved.reverse.find?
    fun r => r.transactionId = record.transactionId).getD record = last at hlast
  rcases hlast with hmem | hmem
  · rw [← List.take_append_drop k records, List.map_append] at hmem
    rcases List.mem_append.1 hmem with hmem | hmem
    · exact .inl hmem
    · exact .inr (List.mem_append_right _ hmem)
  · exact .inr (List.mem_append_left _ hmem)

/-- A step of the heal keeps what is stored, the truncation between ledger and quarantine. -/
theorem nothingLost_resumeHeal {initial : List EscrowRecord} {files : RecoveryFiles} {pc : HealPc}
    (hcourse : HealOnCourse platform call base before history files pc)
    (hkept : NothingLost initial ⟨history, files, pc⟩) :
    let resumed := resumeHeal platform call history.store files pc
    NothingLost initial ⟨withStore history resumed.1, resumed.2.1, resumed.2.2⟩ := by
  cases pc with
  | notStarted => exact hkept
  | awaitNotary attempt =>
      simp only [resumeHeal]
      split
      · exact nothingLost_of_same hkept rfl (recordsOf_initializeStore history.store) rfl
      · split_ifs <;> exact nothingLost_of_same hkept rfl rfl rfl
  | awaitInit state => exact nothingLost_of_same hkept rfl rfl rfl
  | awaitRecords state records =>
      obtain ⟨-, -, -, ⟨first, -, hstore⟩, hrecords⟩ := hcourse
      simp only [resumeHeal]
      split
      · exact nothingLost_of_same hkept rfl rfl rfl
      · split
        · exact nothingLost_of_same hkept rfl rfl rfl
        · refine nothingLost_truncate records _ hkept rfl ?_ (recordsOf_writeLedger rfl) ?_
          · rw [hrecords, ← readAllRecordsInternal_initializeStore]
            rfl
          · simp only [quarantinedRecords, List.flatMap_append, List.flatMap_singleton,
              records_quarantineContent, List.map_map]
            rfl
  | awaitImport state root leafCount quarantineFile =>
      exact nothingLost_of_same hkept rfl (recordsOf_congr rfl) rfl
  | done result => exact hkept

namespace HealSystem

theorem step_saveEvent {saveEvent : RaceEvent} (hevent : event.saveEvent? = some saveEvent) :
    sys.step platform call event =
      { sys with saves := sys.saves.step platform.sha256 saveEvent } := by
  simp only [step, hevent]

theorem Invariant.saveEvent (h : sys.Invariant platform call base before)
    (hno : sys.noOverlap event = true) {saveEvent : RaceEvent}
    (hevent : event.saveEvent? = some saveEvent) :
    (sys.step platform call event).Invariant platform call base before := by
  obtain ⟨heffect, hreads⟩ := saveEffect_step h.ordered h.reads hevent
  rw [step_saveEvent hevent]
  refine ⟨h.ordered.step platform.sha256 saveEvent, hreads, ?_,
    nothingLost_of_effect h.kept heffect⟩
  refine course_of_effect h.course heffect ?_ ?_
  · intro hissued
    exact List.append_ne_nil_of_left_ne_nil hissued _
  · rintro hwindow now rfl
    simpa [noOverlap, hwindow] using hno

theorem Invariant.startHeal (h : sys.Invariant platform call base before) :
    (sys.step platform call .startHeal).Invariant platform call base before := by
  obtain ⟨saves, files, heal⟩ := sys
  cases heal with
  | notStarted =>
      exact ⟨h.ordered, h.reads, course_startHeal h.course, nothingLost_of_same h.kept rfl rfl rfl⟩
  | awaitNotary attempt => exact h
  | awaitInit state => exact h
  | awaitRecords state records => exact h
  | awaitImport state root leafCount quarantineFile => exact h
  | done result => exact h

theorem step_resumeHeal (saves : SaveHistory) (files : RecoveryFiles) (heal : HealPc) :
    step platform call ⟨saves, files, heal⟩ .resumeHeal =
      ⟨withStore saves (Admin.resumeHeal platform call saves.store files heal).1,
        (Admin.resumeHeal platform call saves.store files heal).2.1,
        (Admin.resumeHeal platform call saves.store files heal).2.2⟩ := by
  cases heal <;> rfl

theorem Invariant.resumeHeal (h : sys.Invariant platform call base before)
    (hno : sys.noOverlap .resumeHeal = true) :
    (sys.step platform call .resumeHeal).Invariant platform call base before := by
  obtain ⟨saves, files, heal⟩ := sys
  rw [step_resumeHeal]
  refine ⟨⟨h.ordered.order, h.ordered.issued, fun hissued => ?_⟩, ?_, course_resumeHeal h.course,
    nothingLost_resumeHeal h.course h.kept⟩
  · exact storeInitialized_resumeHeal files heal (h.ordered.initialized hissued)
  · intro record existing hactive
    have hactive' : saves.system.active = some (record, existing) := hactive
    have hinit := h.ordered.initialized_of_open (.inl (by simp [hactive']))
    refine (read_resumeHeal files hinit ?_).trans (h.reads record existing hactive')
    rintro state records rfl
    simp [noOverlap, hactive'] at hno

/-- Every step that keeps saves and heal apart keeps the invariant. -/
theorem Invariant.step (h : sys.Invariant platform call base before) (event : HealEvent)
    (hno : sys.noOverlap event = true) :
    (sys.step platform call event).Invariant platform call base before := by
  cases event with
  | save record => exact h.saveEvent hno rfl
  | enqueue i => exact h.saveEvent hno rfl
  | acquire => exact h.saveEvent hno rfl
  | commit now => exact h.saveEvent hno rfl
  | startHeal => exact h.startHeal
  | resumeHeal => exact h.resumeHeal hno

end HealSystem

/-! ## The order of the calls -/

theorem storeInitialized_saveStep_of_initialized {store : Store} (saveCall : SaveCall)
    (hinit : store.storeInitialized = true) :
    (saveStep sha256 store saveCall).storeInitialized = true := by
  by_cases hresolves : Resolves sha256 store saveCall
  · rw [← hresolves.initializeStore_saveStep]
    exact storeInitialized_initializeStore _
  · rcases saveStep_of_not_resolves hresolves with hsame | hsame
    · rw [hsame, hinit]
    · rw [hsame]
      exact storeInitialized_initializeStore store

theorem storeInitialized_run_saveStep {store : Store} {calls : List SaveCall}
    (hinit : store.storeInitialized = true) :
    (run (saveStep sha256) store calls).storeInitialized = true := by
  induction calls generalizing store with
  | nil => exact hinit
  | cons saveCall calls ih => exact ih (storeInitialized_saveStep_of_initialized saveCall hinit)

theorem storeInitialized_alone {store : Store} {files : RecoveryFiles}
    (hinit : store.storeInitialized = true) :
    (call.alone platform store files).1.storeInitialized = true := by
  have hends := attemptHeal_ends platform call.env call.clock call.replies call.payload store files
  unfold HealCall.alone
  generalize attemptHealAndReturnOutcome platform call.env call.clock call.replies call.payload
    store files = healed at hends ⊢
  cases hends with
  | recorded _ => exact hinit
  | stopped _ _ hstore _ =>
      rcases List.mem_pair.1 hstore with rfl | rfl
      · exact hinit
      · exact storeInitialized_initializeStore store
  | healed _ _ => exact storeInitialized_initializeStore store

/-- A first save leaves the store initialised, and so do the calls after it. -/
theorem storeInitialized_of_savedAs {first second : List SaveCall}
    (hsaved : SavedAs (first ++ second) history) (hne : first ++ second ≠ []) :
    (run (saveStep platform.sha256)
      (call.alone platform (run (saveStep platform.sha256) base first) before).1
      second).storeInitialized = true := by
  have hfirst : ∀ (store : Store) (saveCall : SaveCall), saveCall ∈ first ++ second →
      (saveStep platform.sha256 store saveCall).storeInitialized = true := by
    intro store saveCall hmem
    have hrecord := List.mem_map_of_mem (f := SaveCall.record) hmem
    rw [hsaved] at hrecord
    obtain ⟨outcome, -, houtcome⟩ := List.mem_map.1 hrecord
    obtain ⟨record, updatedAt⟩ := saveCall
    cases houtcome
    exact storeInitialized_saveStep store outcome.1 updatedAt
  cases first with
  | nil =>
      obtain ⟨saveCall, rest, rfl⟩ := List.exists_cons_of_ne_nil hne
      rw [run_cons]
      exact storeInitialized_run_saveStep (hfirst _ saveCall (by simp))
  | cons saveCall rest =>
      apply storeInitialized_run_saveStep
      apply storeInitialized_alone
      rw [run_cons]
      exact storeInitialized_run_saveStep (hfirst base saveCall (by simp))

theorem run_serialStep_saves (s : SerialState) (calls : List SaveCall) :
    run (serialStep platform call) s (calls.map LedgerCall.save) =
      { s with store := run (saveStep platform.sha256) s.store calls } := by
  induction calls generalizing s with
  | nil => rfl
  | cons saveCall calls ih => exact ih _

theorem serialRun_eq (first second : List SaveCall) :
    serialRun platform call base before first second =
      let healed := call.alone platform (run (saveStep platform.sha256) base first) before
      ⟨run (saveStep platform.sha256) healed.1 second, healed.2.1, some healed.2.2⟩ := by
  have happend : serialRun platform call base before first second =
      run (serialStep platform call)
        (serialStep platform call
          (run (serialStep platform call) ⟨base, before, none⟩ (first.map LedgerCall.save)) .heal)
        (second.map LedgerCall.save) := by
    rw [serialRun, run_append, run_cons]
  rw [happend, run_serialStep_saves, run_serialStep_saves]
  rfl

/-- The run ends as some order of the calls, one after another, would, and has lost nothing. -/
structure Serialised (platform : RecoveryPlatform) (call : HealCall) (base : Store)
    (before : RecoveryFiles) (final : HealSystem)
    (result : Except HealFailure AdminRecoveryOutcome) : Prop where
  order : ∃ first second : List SaveCall,
    ((first ++ second).map SaveCall.record).Perm
        (final.saves.issued.map fun record => record.toRow.toJs) ∧
      serialRun platform call base before first second = ⟨final.store, final.files, some result⟩
  kept : NothingLost (recordsOf base) final

theorem HealSystem.Invariant.serialised {result : Except HealFailure AdminRecoveryOutcome}
    (h : sys.Invariant platform call base before) (hquiescent : sys.saves.Quiescent)
    (hdone : sys.heal = .done result) : Serialised platform call base before sys result := by
  refine ⟨?_, h.kept⟩
  have hcourse := h.course
  rw [hdone] at hcourse
  obtain ⟨first, second, hsaved, halone, hreaches⟩ := hcourse
  obtain ⟨hpending, hqueue, hactive⟩ := hquiescent
  have horder := h.ordered.order
  have hissued := h.ordered.issued
  simp only [hactive, hqueue, Option.map_none, Option.toList_none, List.append_nil] at horder
  rw [hpending, List.nil_append, ← horder] at hissued
  have hperm : ((first ++ second).map SaveCall.record).Perm
      (sys.saves.issued.map fun record => record.toRow.toJs) := by
    rw [hsaved]
    simpa [List.map_map, Function.comp_def] using
      (hissued.map fun record => record.toRow.toJs).symm
  refine ⟨first, second, hperm, ?_⟩
  rw [serialRun_eq]
  simp only [halone]
  have hstore : sys.store = run (saveStep platform.sha256)
      (call.alone platform (run (saveStep platform.sha256) base first) before).1 second := by
    rcases hreaches with hstore | ⟨hcalled, hstore⟩
    · exact hstore
    -- some save was called, so the calls in their order have initialised the store too
    · have hne : first ++ second ≠ [] := by
        intro hnil
        rw [hnil, List.map_nil] at hperm
        exact hcalled (List.map_eq_nil_iff.1 hperm.symm.eq_nil)
      exact hstore.trans (initializeStore_of_initialized (storeInitialized_of_savedAs hsaved hne))
  rw [hstore]

/-- In every run in which no save writes between the heal's ledger read and its checkpoint write,
and none is between its own read and write when the heal rewrites the ledger, the end is that of
the calls one after another, the heal among them, and every record is still there as last
saved. -/
theorem heal_serialised_of_noOverlap (platform : RecoveryPlatform) (call : HealCall)
    (base : Store) (before : RecoveryFiles) (events : List HealEvent)
    (result : Except HealFailure AdminRecoveryOutcome)
    (hapart : EachStep (HealSystem.step platform call)
      (fun sys event => sys.noOverlap event = true) (.start base before) events)
    (hquiescent : (run (HealSystem.step platform call) (.start base before)
      events).saves.Quiescent)
    (hdone : (run (HealSystem.step platform call) (.start base before) events).heal =
      .done result) :
    Serialised platform call base before
      (run (HealSystem.step platform call) (.start base before) events) result := by
  have hthroughout : Throughout (HealSystem.step platform call)
      (HealSystem.Invariant platform call base before) (.start base before) events :=
    throughout_of_step (fun sys event h hno => HealSystem.Invariant.step h event hno)
      (HealSystem.start_invariant base before) hapart
  exact hthroughout.run.serialised hquiescent hdone

/-! ## A save beside a heal -/

/-- The heal of two records, the second not anchored, and then a save of the first. -/
def healThenSave : List HealEvent :=
  [.startHeal, .resumeHeal, .resumeHeal, .resumeHeal, .resumeHeal,
    .save sampleRecord, .enqueue 0, .acquire, .commit sampleTime]

def healToFirst : HealCall := ⟨oneOfficer, healClock, notaryWithRoot sampleRoot.text, signedRequest⟩

/-- Where the system stands after the events. -/
def healedWith (events : List HealEvent) : HealSystem :=
  run (HealSystem.step healPlatform healToFirst) (.start twoRecords ⟨none, []⟩) events

/-- No save is under way and the heal has truncated the ledger. -/
def HealSystem.settled (sys : HealSystem) : Bool :=
  sys.saves.system.pending.isEmpty && sys.saves.system.queue.isEmpty &&
    sys.saves.system.active.isNone &&
    match sys.heal with
    | .done (.ok outcome) => outcome.healed
    | _ => false

theorem HealSystem.exists_of_settled (h : sys.settled = true) :
    sys.saves.Quiescent ∧
      ∃ outcome, sys.heal = .done (.ok outcome) ∧ outcome.healed = true := by
  simp only [settled, Bool.and_eq_true, List.isEmpty_iff, Option.isNone_iff_eq_none] at h
  obtain ⟨⟨⟨hpending, hqueue⟩, hactive⟩, hheal⟩ := h
  refine ⟨⟨hpending, hqueue, hactive⟩, ?_⟩
  split at hheal
  case h_1 outcome hdone => exact ⟨outcome, hdone, hheal⟩
  case h_2 => cases hheal

theorem heal_serialised_of_noOverlap_sample :
    ∃ outcome, (healedWith healThenSave).heal = .done (.ok outcome) ∧ outcome.healed = true ∧
      Serialised healPlatform healToFirst twoRecords ⟨none, []⟩ (healedWith healThenSave)
        (.ok outcome) := by
  have hruns : EachStep (HealSystem.step healPlatform healToFirst)
        (fun sys event => sys.noOverlap event = true) (.start twoRecords ⟨none, []⟩) healThenSave ∧
      (healedWith healThenSave).settled = true := by
    decide +kernel
  obtain ⟨hquiescent, outcome, hdone, hhealed⟩ := HealSystem.exists_of_settled hruns.2
  exact ⟨outcome, hdone, hhealed, heal_serialised_of_noOverlap healPlatform healToFirst
    twoRecords ⟨none, []⟩ healThenSave (.ok outcome) hruns.1 hquiescent hdone⟩

/-! ### A save lost in the heal's window -/

/-- Two records that are both anchored. -/
def anchoredTwo : List EscrowRecord := [sampleRecord, sampleSecond]

def anyPlatform (sha256 : Sha256) : RecoveryPlatform := { healPlatform with sha256 := sha256 }

def healAnchored (sha256 : Sha256) : HealCall :=
  ⟨oneOfficer, healClock, notaryWithRoot (merkleOfRecords sha256 anchoredTwo).root, signedRequest⟩

/-- The system of the two records after the events. -/
def besideHeal (sha256 : Sha256) (events : List HealEvent) : HealSystem :=
  run (HealSystem.step (anyPlatform sha256) (healAnchored sha256))
    (.start (storeOf anchoredTwo) ⟨none, []⟩) events

/-- The heal reads the ledger while a save of a third record waits for the lock. -/
def thirdWaits : List HealEvent :=
  [.save sampleThird, .enqueue 0, .startHeal, .resumeHeal, .resumeHeal]

/-- The save writes the ledger that the heal has read and then rewrites. -/
def thirdLost : List HealEvent :=
  thirdWaits ++ [.acquire, .commit sampleTime, .resumeHeal, .resumeHeal]

def thirdQueued : SaveHistory where
  system := { RaceSystem.start (storeOf anchoredTwo) with queue := [sampleThird] }
  issued := [sampleThird]
  queued := [sampleThird]
  outcomes := []

theorem startHeal_healAnchored (sha256 : Sha256) :
    startHeal (anyPlatform sha256) (healAnchored sha256) ⟨none, []⟩ = .awaitNotary 1 := by
  have hfresh : includesRequest (readRecoveryRequests none) (healAnchored sha256).requestId =
      false := rfl
  have hverified : verifyMultiSig (anyPlatform sha256) (healAnchored sha256).env
      (healAnchored sha256).clock.verifiedAtMs (healAnchored sha256).payload = some true :=
    verifyMultiSig_signedRequest sha256
  simp only [startHeal, hfresh, hverified, Bool.false_eq_true, if_false]

theorem besideHeal_thirdWaits (sha256 : Sha256) :
    ∃ state stored, state.root = (merkleOfRecords sha256 anchoredTwo).root ∧
      readAllRecordsInternal (storeOf anchoredTwo) = some stored ∧
      stored.map StoredRecord.record = anchoredTwo ∧
      besideHeal sha256 thirdWaits = ⟨thirdQueued, ⟨none, []⟩, .awaitRecords state stored⟩ := by
  obtain ⟨state, hanswer, hroot⟩ := getAuthoritativeState_notaryWithRoot
    (root_merkleOfRecords_ne_empty sha256 anchoredTwo)
  obtain ⟨stored, hread, hrecords⟩ := readAllRecordsInternal_storeOf anchoredTwo
  refine ⟨state, stored, hroot, hread, hrecords, ?_⟩
  have hreply : getAuthoritativeState ((healAnchored sha256).replies 1) = some state := hanswer 1
  have hinit : initializeStore (storeOf anchoredTwo) = storeOf anchoredTwo := rfl
  have hstarted : besideHeal sha256 [.save sampleThird, .enqueue 0, .startHeal] =
      ⟨thirdQueued, ⟨none, []⟩, .awaitNotary 1⟩ :=
    congrArg (HealSystem.mk thirdQueued ⟨none, []⟩) (startHeal_healAnchored sha256)
  have hrun : besideHeal sha256 thirdWaits =
      run (HealSystem.step (anyPlatform sha256) (healAnchored sha256))
        (besideHeal sha256 [.save sampleThird, .enqueue 0, .startHeal])
        [.resumeHeal, .resumeHeal] := rfl
  have hnotary : resumeHeal (anyPlatform sha256) (healAnchored sha256) thirdQueued.store
      ⟨none, []⟩ (.awaitNotary 1) = (storeOf anchoredTwo, ⟨none, []⟩, .awaitInit state) := by
    simp only [resumeHeal, hreply]
    rfl
  have hledger : resumeHeal (anyPlatform sha256) (healAnchored sha256)
      (withStore thirdQueued (storeOf anchoredTwo)).store ⟨none, []⟩ (.awaitInit state) =
        (storeOf anchoredTwo, ⟨none, []⟩, .awaitRecords state stored) := by
    have hstored : (readAllRecordsInternal
        (withStore thirdQueued (storeOf anchoredTwo)).store).getD [] = stored := by
      show (readAllRecordsInternal (storeOf anchoredTwo)).getD [] = stored
      rw [hread, Option.getD_some]
    simp only [resumeHeal, hstored]
    rfl
  rw [hrun, hstarted, run_cons, HealSystem.step_resumeHeal, hnotary, run_cons,
    HealSystem.step_resumeHeal, hledger, run_nil]
  rfl

/-- The save that waits is written and resolves. -/
theorem run_thirdQueued (sha256 : Sha256) {stored : List StoredRecord}
    (hread : readAllRecordsInternal (storeOf anchoredTwo) = some stored)
    (hlength : stored.length < maxArrayLength) :
    let written := run (SaveHistory.step sha256) thirdQueued [.acquire, .commit sampleTime]
    written.Quiescent ∧ written.saved = [sampleThird] := by
  have hacquire : thirdQueued.step sha256 .acquire =
      { thirdQueued with
        system := { thirdQueued.system with
          queue := []
          active := some (sampleThird, stored) } } :=
    SaveHistory.step_acquire rfl rfl hread
  rw [run_cons, hacquire, run_cons, run_nil]
  cases hcommit : commitRecord sha256 sampleTime stored sampleThird.toRow.toJs
      (storeOf anchoredTwo) with
  | none => exact absurd (SaveHistory.length_of_commitRecord_eq_none hcommit) (by omega)
  | some after =>
      rw [SaveHistory.step_commit_some rfl hcommit]
      exact ⟨⟨rfl, rfl, rfl⟩, rfl⟩

theorem healedPrefixLen_anchoredTwo {sha256 : Sha256} {stored : List StoredRecord}
    (hrecords : stored.map StoredRecord.record = anchoredTwo) (hlength : stored.length = 2) :
    healedPrefixLen sha256 stored (merkleOfRecords sha256 anchoredTwo).root stored.length =
      some 2 := by
  rw [hlength, healedPrefixLen_eq_some]
  refine ⟨le_refl 2, (prefixMatches_iff hlength.ge).2 ?_, fun j hj hj' => by omega⟩
  rw [merkleOfStored, List.map_take, hrecords]
  rfl

/-- Once the save has left the lock, the heal rewrites the ledger and the checkpoint. -/
theorem besideHeal_thirdLost_eq {sha256 : Sha256} {state : NotaryAuthoritativeState}
    {stored : List StoredRecord}
    (hwaits : besideHeal sha256 thirdWaits =
      ⟨thirdQueued, ⟨none, []⟩, .awaitRecords state stored⟩) :
    besideHeal sha256 thirdLost =
      run (HealSystem.step (anyPlatform sha256) (healAnchored sha256))
        ⟨run (SaveHistory.step sha256) thirdQueued [.acquire, .commit sampleTime], ⟨none, []⟩,
          .awaitRecords state stored⟩ [.resumeHeal, .resumeHeal] := by
  have happend : besideHeal sha256 thirdLost =
      run (HealSystem.step (anyPlatform sha256) (healAnchored sha256))
        (besideHeal sha256 thirdWaits) [.acquire, .commit sampleTime, .resumeHeal, .resumeHeal] :=
    run_append _ _ _ _
  rw [happend, hwaits]
  rfl

/-- Whatever the hash, the heal keeps all it has read, and that is without the save. -/
theorem besideHeal_thirdLost (sha256 : Sha256) :
    ∃ outcome, (besideHeal sha256 thirdLost).saves.Quiescent ∧
      (besideHeal sha256 thirdLost).heal = .done (.ok outcome) ∧ outcome.healed = true ∧
      (besideHeal sha256 thirdLost).saves.saved = [sampleThird] ∧
      recordsOf (besideHeal sha256 thirdLost).store = anchoredTwo ∧
      quarantinedRecords (besideHeal sha256 thirdLost).files = [] := by
  obtain ⟨state, stored, hroot, hread, hrecords, hwaits⟩ := besideHeal_thirdWaits sha256
  have hlength : stored.length = 2 := by
    rw [← List.length_map StoredRecord.record, hrecords]
    rfl
  obtain ⟨hquiescent, hsaved⟩ := run_thirdQueued sha256 hread (by rw [hlength]; decide)
  have hfound : healedPrefixLen (anyPlatform sha256).sha256 stored state.root stored.length =
      some 2 := by
    rw [hroot]
    exact healedPrefixLen_anchoredTwo hrecords hlength
  have htext : (healAnchored sha256).requestId.toText = some "r1" := rfl
  have hrun := besideHeal_thirdLost_eq hwaits
  generalize run (SaveHistory.step sha256) thirdQueued [.acquire, .commit sampleTime] = written
    at hquiescent hsaved hrun
  rw [hrun, run_cons, HealSystem.step_resumeHeal, run_cons, HealSystem.step_resumeHeal, run_nil]
  simp only [resumeHeal, hfound, htext]
  refine ⟨_, hquiescent, rfl, rfl, hsaved, ?_, ?_⟩
  · have hledger : recordsOf (writeCheckpoint (merkleOfStored sha256 (stored.take 2)).root
        (merkleOfStored sha256 (stored.take 2)).tree.getLeafCount sampleTime
        (writeLedger ((stored.take 2).map StoredRecord.toEntry) written.store)) =
          (stored.take 2).map StoredRecord.record :=
      @recordsOf_writeLedger written.store _ _ rfl
    refine hledger.trans ?_
    rw [List.map_take, hrecords]
    rfl
  · show ([_] : List QuarantineFile).flatMap _ = []
    rw [List.flatMap_singleton, records_quarantineContent, ← hlength, List.drop_length]
    rfl

theorem save_within_heal_is_lost :
    sampleThird ∉ anchoredTwo ∧
      ∀ sha256 : Sha256, ∃ outcome, (besideHeal sha256 thirdLost).saves.Quiescent ∧
        (besideHeal sha256 thirdLost).heal = .done (.ok outcome) ∧ outcome.healed = true ∧
        ¬ Serialised (anyPlatform sha256) (healAnchored sha256) (storeOf anchoredTwo) ⟨none, []⟩
          (besideHeal sha256 thirdLost) (.ok outcome) := by
  have hnew : sampleThird ∉ anchoredTwo := by decide
  refine ⟨hnew, fun sha256 => ?_⟩
  obtain ⟨outcome, hquiescent, hdone, hhealed, hsaved, hledger, hquarantined⟩ :=
    besideHeal_thirdLost sha256
  refine ⟨outcome, hquiescent, hdone, hhealed, fun hserialised => ?_⟩
  have hkept := hserialised.kept sampleThird (.inr (by simp [hsaved]))
  have hlast : ([sampleThird].reverse.find?
      fun r => r.transactionId = sampleThird.transactionId).getD sampleThird = sampleThird := rfl
  rw [hsaved, hlast, hledger, hquarantined] at hkept
  rcases hkept with hkept | hkept
  · exact hnew hkept
  · cases hkept

end UniverEscrow.Admin
