import UniverEscrow.Ledger.LedgerAuditor
import UniverEscrow.Lib.Run

/-!
# Checkpoint and ledger after a save

A save hashes the records it holds in memory, a reader parses the file and skips what its type
guard rejects.  The two agree exactly when the saved record passes that guard.
-/

namespace UniverEscrow.Ledger

open UniverEscrow.Js UniverEscrow.Merkle UniverEscrow.Lib.Run UniverEscrow.Lib.KeyedList

structure SaveCall where
  record : JsValue
  updatedAt : IsoTime

/-- The ledger can be read once the store is initialised; no array is longer. -/
def Readable (store : Store) : Prop :=
  ∃ existing, readAllRecordsInternal (initializeStore store) = some existing ∧
    existing.length ≤ maxArrayLength

/-- What the reader's guard asks of the members a save passes on as they are, and of the id a
save compares and a reader looks up. -/
def passesGuard (record : JsValue) : Bool :=
  (record.get "transactionId").asString?.isSome &&
    ((record.get "status").asString?.bind EscrowStatus.ofText?).isSome &&
    (finiteNumber? (record.get "validAfterMs")).isSome &&
    (finiteNumber? (record.get "validUntilMs")).isSome

variable (sha256 : Sha256)

def saveStep (store : Store) (call : SaveCall) : Store :=
  (saveRecord sha256 call.updatedAt call.record store).1

/-- The call does not throw. -/
def Resolves (store : Store) (call : SaveCall) : Prop :=
  (saveRecord sha256 call.updatedAt call.record store).2 = none

/-- The checkpoint in the store is that of the records a reader gets. -/
def CheckpointAgrees (store : Store) : Prop :=
  ∃ checkpoint, readCheckpoint store = some checkpoint ∧
    checkpoint.root = (merkleOfStored sha256 (getAllRecords store).1).root ∧
    checkpoint.leafCount =
      .ofInt (merkleOfStored sha256 (getAllRecords store).1).tree.getLeafCount

/-- Looking the record up by its id gives what was saved. -/
def ReturnsSaved (record : JsValue) (store : Store) : Prop :=
  ∃ stored, (getRecord (record.get "transactionId") store).1 = some stored ∧
    normalizeRecord record = some stored.record.toRow

variable {sha256}

/-! ## The guard -/

/-- A record that passes the guard is saved as one of the declared type. -/
theorem exists_toRow_of_passesGuard {record : JsValue} {normalized : LedgerRow}
    (hguard : passesGuard record = true) (hnormal : normalizeRecord record = some normalized) :
    ∃ r : EscrowRecord, record.get "transactionId" = .str r.transactionId ∧
      normalized = r.toRow := by
  simp only [passesGuard, Bool.and_eq_true, Option.isSome_iff_exists, Option.bind_eq_some_iff,
    JsValue.asString?_eq_some, EscrowStatus.ofText?_eq_some, finiteNumber?_eq_some] at hguard
  obtain ⟨⟨⟨⟨id, hid⟩, status, _, hstatus, rfl⟩, after, hafter⟩, til, huntil⟩ := hguard
  simp only [normalizeRecord, Option.bind_eq_bind, Option.bind_eq_some_iff] at hnormal
  obtain ⟨text, htext, leaf, -, sig, -, time, -, hreturn⟩ := hnormal
  cases hreturn
  rw [hid, JsValue.toText] at htext
  cases htext
  refine ⟨⟨id, leaf, sig, status, after, til, time⟩, hid, ?_⟩
  rw [hstatus, hafter, huntil]
  rfl

theorem passesGuard_of_toRow {record : JsValue} {r : EscrowRecord} {id : String}
    (hid : record.get "transactionId" = .str id)
    (hnormal : normalizeRecord record = some r.toRow) : passesGuard record = true := by
  simp only [normalizeRecord, Option.bind_eq_bind, Option.bind_eq_some_iff] at hnormal
  obtain ⟨_, -, _, -, _, -, _, -, hreturn⟩ := hnormal
  have hrow := Option.some.inj hreturn
  have hstatus : record.get "status" = .str r.status.text := congrArg LedgerRow.status hrow
  have hafter : record.get "validAfterMs" = .num (.fin r.validAfterMs) :=
    congrArg LedgerRow.validAfterMs hrow
  have huntil : record.get "validUntilMs" = .num (.fin r.validUntilMs) :=
    congrArg LedgerRow.validUntilMs hrow
  simp [passesGuard, hid, hstatus, hafter, huntil, finiteNumber?]

/-! ## One save -/

theorem length_upsert_le {existing : List StoredRecord} {record : JsValue}
    {normalized : LedgerRow} {entries : List LedgerEntry}
    (hexisting : existing.length ≤ maxArrayLength)
    (h : upsert existing record normalized = some entries) : entries.length ≤ maxArrayLength := by
  unfold upsert at h
  dsimp only at h
  split at h
  · cases h
    simpa using hexisting
  · split_ifs at h with hlen
    cases h
    simp only [List.length_append, List.length_map, List.length_singleton]
    omega

theorem readable_persist {entries : List LedgerEntry} {store : Store} (updatedAt : IsoTime)
    (hinit : store.storeInitialized = true) (hlen : entries.length ≤ maxArrayLength) :
    Readable (persist sha256 updatedAt entries store) := by
  have hkept : initializeStore (persist sha256 updatedAt entries store) =
      persist sha256 updatedAt entries store := initializeStore_of_initialized hinit
  refine ⟨_, by rw [hkept]; rfl, ?_⟩
  simp only [JsValue.viaJson, itemsViaJson_eq_map]
  refine (List.length_filterMap_le _ _).trans ?_
  simpa using hlen

/-- A resolved save, written out. -/
theorem Resolves.eq_persist {store : Store} {call : SaveCall} (h : Resolves sha256 store call) :
    ∃ existing normalized entries,
      readAllRecordsInternal (initializeStore store) = some existing ∧
      normalizeRecord call.record = some normalized ∧
      upsert existing call.record normalized = some entries ∧
      saveStep sha256 store call =
        persist sha256 call.updatedAt entries (initializeStore store) := by
  obtain ⟨hobject, existing, normalized, entries, hread, hnormal, hupsert⟩ :=
    saveRecord_succeeds_iff.1 h
  refine ⟨existing, normalized, entries, hread, hnormal, hupsert, ?_⟩
  simp [saveStep, saveRecord, hobject, hread, commitRecord, hnormal, hupsert]

theorem Resolves.eq_commitRecord {store : Store} {call : SaveCall}
    (h : Resolves sha256 store call) :
    ∃ existing normalized, readAllRecordsInternal (initializeStore store) = some existing ∧
      normalizeRecord call.record = some normalized ∧
      commitRecord sha256 call.updatedAt existing call.record (initializeStore store) =
        some (saveStep sha256 store call) := by
  obtain ⟨existing, normalized, entries, hread, hnormal, hupsert, hsave⟩ := h.eq_persist
  refine ⟨existing, normalized, hread, hnormal, ?_⟩
  rw [hsave]
  simp [commitRecord, hnormal, hupsert]

theorem Resolves.initializeStore_saveStep {store : Store} {call : SaveCall}
    (h : Resolves sha256 store call) :
    initializeStore (saveStep sha256 store call) = saveStep sha256 store call := by
  obtain ⟨existing, normalized, entries, -, -, -, hsave⟩ := h.eq_persist
  apply initializeStore_of_initialized
  rw [hsave]
  simp

/-- A save that throws leaves the files as initialising the store does. -/
theorem saveStep_of_not_resolves {store : Store} {call : SaveCall}
    (h : ¬ Resolves sha256 store call) :
    saveStep sha256 store call = store ∨ saveStep sha256 store call = initializeStore store := by
  unfold Resolves at h
  unfold saveStep
  unfold saveRecord at h ⊢
  dsimp only at h ⊢
  split_ifs at h ⊢
  · exact .inl rfl
  · split at h
    · exact .inr rfl
    · split at h
      · exact .inr rfl
      · exact absurd rfl h

/-- What looking an id up gives. -/
def storedUnder (transactionId : JsValue) (store : Store) : Option EscrowRecord :=
  (getRecord transactionId store).1.map StoredRecord.record

@[simp] theorem storedUnder_initializeStore (transactionId : JsValue) (store : Store) :
    storedUnder transactionId (initializeStore store) = storedUnder transactionId store := by
  simp only [storedUnder, getRecord,
    initializeStore_of_initialized (storeInitialized_initializeStore store)]

theorem storedUnder_eq_find? {transactionId : String} {store : Store}
    {stored : List StoredRecord}
    (hread : readAllRecordsInternal (initializeStore store) = some stored) :
    storedUnder (.str transactionId) store =
      (stored.map StoredRecord.record).find? (fun r => r.transactionId = transactionId) := by
  rw [List.find?_map, storedUnder, getRecord, hread, Option.bind_some]
  simp only [Function.comp_def]
  simp [JsValue.isStr, eq_comm]

/-- A save of a well-formed record leaves what is stored under other ids. -/
theorem storedUnder_saveStep (sha256 : Sha256) (store : Store) (updatedAt : IsoTime)
    {record : EscrowRecord} {transactionId : String} (hne : transactionId ≠ record.transactionId) :
    storedUnder (.str transactionId) (saveStep sha256 store ⟨record.toRow.toJs, updatedAt⟩) =
      storedUnder (.str transactionId) store := by
  by_cases hresolves : Resolves sha256 store ⟨record.toRow.toJs, updatedAt⟩
  · obtain ⟨existing, normalized, hread, -, hcommit⟩ := hresolves.eq_commitRecord
    obtain ⟨stored, hstored, hmap⟩ := commitRecord_records (get_transactionId_toRow record)
      (normalizeRecord_toRow record) hcommit
    have hinit := hresolves.initializeStore_saveStep
    rw [storedUnder_eq_find? (hinit.symm ▸ hstored), storedUnder_eq_find? hread, hmap,
      find?_upsertBy, if_neg hne]
  · rcases saveStep_of_not_resolves hresolves with hsame | hsame
    · rw [hsame]
    · rw [hsame, storedUnder_initializeStore]

theorem Readable.initializeStore {store : Store} (h : Readable store) :
    Readable (initializeStore store) := by
  unfold Readable
  rw [initializeStore_of_initialized (storeInitialized_initializeStore store)]
  exact h

theorem Readable.saveStep {store : Store} (h : Readable store) (call : SaveCall) :
    Readable (saveStep sha256 store call) := by
  by_cases hresolves : Resolves sha256 store call
  · obtain ⟨existing, normalized, entries, hread, -, hupsert, hsave⟩ := hresolves.eq_persist
    obtain ⟨stored, hstored, hlen⟩ := h
    cases hread.symm.trans hstored
    rw [hsave]
    exact readable_persist _ (storeInitialized_initializeStore store)
      (length_upsert_le hlen hupsert)
  · rcases saveStep_of_not_resolves hresolves with hsame | hsame
    · rw [hsame]
      exact h
    · rw [hsame]
      exact h.initializeStore

/-- After the save of a record that passes the guard, checkpoint and ledger agree and the
record can be looked up. -/
theorem agrees_of_passesGuard {store : Store} {call : SaveCall} (hstore : Readable store)
    (hresolves : Resolves sha256 store call) (hguard : passesGuard call.record = true) :
    CheckpointAgrees sha256 (saveStep sha256 store call) ∧
      ReturnsSaved call.record (saveStep sha256 store call) := by
  obtain ⟨existing, normalized, hread, hnormal, hcommit⟩ := hresolves.eq_commitRecord
  obtain ⟨stored, hstored, hlen⟩ := hstore
  cases hread.symm.trans hstored
  obtain ⟨record, hid, rfl⟩ := exists_toRow_of_passesGuard hguard hnormal
  obtain ⟨checkpoint, hcoherent⟩ :=
    commitRecord_coherent hid hnormal (isInteger_of_le_maxArrayLength hlen) hcommit
  obtain ⟨records, hrecords, hmap⟩ := commitRecord_records hid hnormal hcommit
  have hinit := hresolves.initializeStore_saveStep
  constructor
  · obtain ⟨agreed, hagreed, hroot, hcount⟩ := hcoherent.agrees
    refine ⟨checkpoint, hcoherent.checkpoint_eq, ?_, ?_⟩
    · simpa [getAllRecords, hinit, hagreed] using hroot
    · simpa [getAllRecords, hinit, hagreed] using hcount
  · have hfind : storedUnder (.str record.transactionId) (saveStep sha256 store call) =
        some record := by
      rw [storedUnder_eq_find? (hinit.symm ▸ hrecords), hmap, find?_upsertBy, if_pos rfl]
    obtain ⟨found, hfound, rfl⟩ := Option.map_eq_some_iff.1 hfind
    exact ⟨found, hid.symm ▸ hfound, hnormal⟩

theorem passesGuard_of_returnsSaved {record : JsValue} {store : Store}
    (h : ReturnsSaved record store) : passesGuard record = true := by
  obtain ⟨stored, hget, hnormal⟩ := h
  obtain ⟨records, -, hfind⟩ := Option.bind_eq_some_iff.1 hget
  have hid := List.find?_some hfind
  rw [JsValue.isStr, decide_eq_true_eq, JsValue.asString?_eq_some] at hid
  exact passesGuard_of_toRow hid hnormal

/-! ## Any number of saves -/

/-- Every resolved save leaves checkpoint and ledger in agreement and its record in the store
exactly when every record that can be saved passes the reader's guard. -/
theorem saves_agree_iff (sha256 : Sha256) (store : Store) (calls : List SaveCall)
    (hstore : Readable store) :
    EachStep (saveStep sha256)
        (fun store call => Resolves sha256 store call →
          CheckpointAgrees sha256 (saveStep sha256 store call) ∧
            ReturnsSaved call.record (saveStep sha256 store call)) store calls ↔
      EachStep (saveStep sha256)
        (fun store call => Storable call.record store → passesGuard call.record = true)
        store calls := by
  constructor
  · refine eachStep_of_invariant Readable (fun store call h => h.saveStep call) ?_ hstore
    intro store call hreadable hagrees hstorable
    exact passesGuard_of_returnsSaved (hagrees (saveRecord_succeeds_iff.2 hstorable)).2
  · refine eachStep_of_invariant Readable (fun store call h => h.saveStep call) ?_ hstore
    intro store call hreadable hguard hresolves
    exact agrees_of_passesGuard hreadable hresolves (hguard (saveRecord_succeeds_iff.1 hresolves))

/-! ## A record without an end -/

theorem readable_freshAuditor : Readable freshAuditor.store :=
  ⟨[], rfl, Nat.zero_le _⟩

theorem saves_agree_iff_sample :
    EachStep (saveStep fun _ => sampleRoot)
        (fun store call => Resolves (fun _ => sampleRoot) store call →
          CheckpointAgrees (fun _ => sampleRoot) (saveStep (fun _ => sampleRoot) store call) ∧
            ReturnsSaved call.record (saveStep (fun _ => sampleRoot) store call))
        freshAuditor.store [⟨sampleRecord.toRow.toJs, sampleTime⟩] ↔
      EachStep (saveStep fun _ => sampleRoot)
        (fun store call => Storable call.record store → passesGuard call.record = true)
        freshAuditor.store [⟨sampleRecord.toRow.toJs, sampleTime⟩] :=
  saves_agree_iff (fun _ => sampleRoot) freshAuditor.store [⟨sampleRecord.toRow.toJs, sampleTime⟩]
    readable_freshAuditor

/-- `validUntilMs` as `1e999` in a request body is parsed. -/
def endlessRow : LedgerRow := { sampleRecord.toRow with validUntilMs := .num .posInf }

/-- The save of a record that never ends resolves, under any hash, but no reader finds the
record and the checkpoint does not describe what readers get. -/
theorem endless_record_dropped :
    Readable freshAuditor.store ∧
      ∀ sha256 : Sha256,
        Resolves sha256 freshAuditor.store ⟨endlessRow.toJs, sampleTime⟩ ∧
          (getAllRecords (saveStep sha256 freshAuditor.store ⟨endlessRow.toJs, sampleTime⟩)).1 =
            [] ∧
          ¬ CheckpointAgrees sha256
            (saveStep sha256 freshAuditor.store ⟨endlessRow.toJs, sampleTime⟩) ∧
          ¬ ReturnsSaved endlessRow.toJs
            (saveStep sha256 freshAuditor.store ⟨endlessRow.toJs, sampleTime⟩) := by
  refine ⟨readable_freshAuditor, fun sha256 => ?_⟩
  have hall : (getAllRecords
      (saveStep sha256 freshAuditor.store ⟨endlessRow.toJs, sampleTime⟩)).1 = [] := rfl
  refine ⟨rfl, hall, ?_, fun hsaved => ?_⟩
  · rintro ⟨checkpoint, hread, -, hcount⟩
    have hone : checkpoint.leafCount = .ofInt 1 := leafCount_of_readCheckpoint hread
    have hnone : (merkleOfStored sha256 []).tree.getLeafCount = 0 := rfl
    rw [hall, hone, hnone] at hcount
    exact absurd hcount (by decide +kernel)
  · exact absurd (passesGuard_of_returnsSaved hsaved) (by decide)

end UniverEscrow.Ledger
