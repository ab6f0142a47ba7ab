import UniverEscrow.Ledger.InitFaults

/-!
# What a save leaves of the ledger

A save of any value with nothing else running, in a process that may still have to initialise the
store, while any of its file operations may throw.
-/

namespace UniverEscrow.Ledger

open UniverEscrow.Js UniverEscrow.Merkle

/-- The records a reader gets from a ledger file; none where it cannot be read. -/
def recordsOf (file : Option FileText) : List EscrowRecord := (recordsIn? file).getD []

/-- `existsSync` answers as documented, and a failing write of an empty array leaves no records. -/
structure InitFaults.Truthful (init : InitFaults) : Prop where
  exists_eq : init.existsFails = false
  write : ∀ left, init.write = some left → recordsOf left = []
  rewrite : ∀ left, init.rewrite = some left → recordsOf left = []

theorem InitFaults.none_truthful : InitFaults.none.Truthful where
  exists_eq := rfl
  write := by intro left h; cases h
  rewrite := by intro left h; cases h

theorem recordsOf_writeEmptyLedger {fault : Option (Option FileText)}
    (h : ∀ left, fault = some left → recordsOf left = []) (store : Store) :
    recordsOf (writeEmptyLedger fault store).1.ledger = [] := by
  cases fault with
  | none => rfl
  | some left => exact h left rfl

theorem recordsOf_ensureLedgerFile {init : InitFaults} (h : init.Truthful) (store : Store) :
    recordsOf (ensureLedgerFile init store).1.ledger = recordsOf store.ledger := by
  unfold ensureLedgerFile
  simp only [h.exists_eq, Bool.false_eq_true, if_false]
  cases hfile : store.ledger with
  | none => exact recordsOf_writeEmptyLedger h.write store
  | some text =>
      dsimp only
      split_ifs
      · rw [hfile]
      · cases text with
        | json v =>
            cases v with
            | arr items => rw [hfile]
            | _ =>
                simp only [replaceNonArray]
                split_ifs
                · exact recordsOf_writeEmptyLedger h.write store
                · exact recordsOf_writeEmptyLedger h.rewrite _
        | _ => exact recordsOf_writeEmptyLedger h.write store

variable (sha256 : Sha256)

/-- A save from its turn in the write queue on. -/
def readAndCommit (faults : SaveFaults) (updatedAt : IsoTime) (record : JsValue) (dir : DataDir) :
    DataDir × Option SaveFailure :=
  match readWithFaults faults dir.store with
  | none => (dir.removeTemp faults, some .unreadableStore)
  | some existing => commitWithFaults sha256 faults updatedAt existing record dir

/-- A save with nothing else running. -/
def LedgerProcess.saveRecord (init : InitFaults) (faults : SaveFaults) (updatedAt : IsoTime)
    (record : JsValue) (sys : LedgerProcess) : LedgerProcess × Option SaveFailure :=
  if !record.isObject then (sys, some .notAnObject)
  else
    let (sys, fulfilled) := sys.initializeStore init
    if fulfilled then
      let (dir, failure) := readAndCommit sha256 faults updatedAt record sys.chain.dir
      ({ sys with chain := { sys.chain with dir := dir } }, failure)
    else (sys, some .platformError)

/-- The records in the ledger file. -/
def LedgerProcess.records (sys : LedgerProcess) : List EscrowRecord :=
  recordsOf sys.chain.dir.store.ledger

variable {sha256} {sys : LedgerProcess} {init : InitFaults} {faults : SaveFaults}
  {updatedAt : IsoTime} {record : JsValue} {dir : DataDir}

theorem saveRecordWithFaults_of_initialized (hobject : record.isObject = true)
    (hinit : dir.store.storeInitialized = true) :
    saveRecordWithFaults sha256 faults updatedAt record dir =
      readAndCommit sha256 faults updatedAt record dir := by
  simp only [saveRecordWithFaults, hobject, Bool.not_true, Bool.false_eq_true, if_false,
    initializeStore_of_initialized hinit]
  rfl

theorem store_of_readAndCommit_failed
    (hthrows : (readAndCommit sha256 faults updatedAt record dir).2 ≠ none) :
    (readAndCommit sha256 faults updatedAt record dir).1.store = dir.store := by
  unfold readAndCommit at hthrows ⊢
  cases hread : readWithFaults faults dir.store with
  | none => exact dir.removeTemp_store faults
  | some existing =>
      simp only [hread] at hthrows
      obtain ⟨failure, hfailure⟩ := Option.ne_none_iff_exists'.1 hthrows
      exact store_of_commitWithFaults_failed hfailure

/-! ## The array a save writes -/

/-- Only a record of the row's own id is read back from an entry. -/
theorem transactionId_of_ofJs? {row : LedgerRow} {r : EscrowRecord}
    (h : EscrowRecord.ofJs? row.toEntry.item.viaJson = some r) :
    r.transactionId = row.transactionId := by
  have hmember : row.toJs.get "transactionId" = .str row.transactionId := rfl
  have hget : row.toJs.viaJson.get "transactionId" = .str row.transactionId :=
    get_viaJson ⟨_, rfl⟩ hmember (by simp)
  have hid := (EscrowRecord.ofJs?_eq_some.1 h).1
  rw [LedgerRow.toEntry, hget] at hid
  exact (JsValue.str.inj hid).symm

/-- What a reader gets from the entries of the array a save writes. -/
def readEntries (entries : List LedgerEntry) : List EscrowRecord :=
  entries.filterMap fun entry => EscrowRecord.ofJs? entry.item.viaJson

theorem readEntries_toEntry (existing : List StoredRecord) :
    readEntries (existing.map StoredRecord.toEntry) = existing.map StoredRecord.record := by
  induction existing with
  | nil => rfl
  | cons stored existing ih =>
      rw [List.map_cons, List.map_cons, readEntries, List.filterMap_cons,
        stored.toEntry_holds.2, ← ih]
      rfl

theorem record_ofItem? (item : JsValue) :
    (StoredRecord.ofItem? item).map StoredRecord.record = EscrowRecord.ofJs? item := by
  cases hitem : EscrowRecord.ofJs? item with
  | some record =>
      rw [StoredRecord.ofItem?_eq hitem]
      rfl
  | none =>
      unfold StoredRecord.ofItem?
      split
      · rename_i record hsome
        rw [hitem] at hsome
        cases hsome
      · rfl

theorem recordsOf_writeLedger (entries : List LedgerEntry) (store : Store) :
    recordsOf (writeLedger entries store).ledger = readEntries entries := by
  have hread : recordsIn? (writeLedger entries store).ledger =
      some ((((entries.map LedgerEntry.item).map JsValue.viaJson).filterMap
        StoredRecord.ofItem?).map StoredRecord.record) := by
    rw [← itemsViaJson_eq_map]
    rfl
  rw [recordsOf, hread, Option.getD_some, List.map_filterMap, List.map_map, List.filterMap_map]
  simp only [record_ofItem?]
  rfl

theorem readEntries_append (before after : List LedgerEntry) :
    readEntries (before ++ after) = readEntries before ++ readEntries after :=
  List.filterMap_append

/-- The records of other ids. -/
def others (transactionId : String) (records : List EscrowRecord) : List EscrowRecord :=
  records.filter fun r => r.transactionId ≠ transactionId

theorem others_append (transactionId : String) (before after : List EscrowRecord) :
    others transactionId (before ++ after) =
      others transactionId before ++ others transactionId after :=
  List.filter_append ..

/-- The row a save writes is read back as a record of its id or not at all. -/
theorem others_readEntries_toEntry (row : LedgerRow) :
    others row.transactionId (readEntries [row.toEntry]) = [] := by
  rw [others, List.filter_eq_nil_iff]
  intro r hr
  obtain ⟨entry, hentry, hread⟩ := List.mem_filterMap.1 hr
  rw [List.mem_singleton.1 hentry] at hread
  simp [transactionId_of_ofJs? hread]

/-- The update of the array leaves the records of other ids, and their order. -/
theorem others_upsert {existing : List StoredRecord} {normalized : LedgerRow}
    {entries : List LedgerEntry}
    (hid : (record.get "transactionId").toText = some normalized.transactionId)
    (h : upsert existing record normalized = some entries) :
    others normalized.transactionId (readEntries entries) =
      others normalized.transactionId (existing.map StoredRecord.record) := by
  unfold upsert at h
  dsimp only at h
  cases hidx : existing.findIdx? (sameTransactionId record) with
  | some i =>
      simp only [hidx, Option.some.injEq] at h
      obtain ⟨hi, hsame, -⟩ := List.findIdx?_eq_some_iff_getElem.1 hidx
      have hold : existing[i].record.transactionId = normalized.transactionId := by
        rw [sameTransactionId, JsValue.isStr_iff] at hsame
        rw [hsame] at hid
        exact Option.some.inj hid
      have hexisting : existing = existing.take i ++ [existing[i]] ++ existing.drop (i + 1) := by
        rw [List.append_assoc, List.singleton_append, ← List.drop_eq_getElem_cons hi,
          List.take_append_drop]
      have hentries : entries = (existing.take i).map StoredRecord.toEntry ++
          [normalized.toEntry] ++ (existing.drop (i + 1)).map StoredRecord.toEntry := by
        rw [← h, List.set_eq_take_append_cons_drop, if_pos (by simpa using hi), List.map_take,
          List.map_drop, List.append_assoc, List.singleton_append]
      have hreplaced : others normalized.transactionId [existing[i].record] = [] := by
        simp [others, hold]
      rw [hentries, readEntries_append, readEntries_append, readEntries_toEntry,
        readEntries_toEntry, others_append, others_append, others_readEntries_toEntry]
      conv_rhs => rw [hexisting]
      rw [List.map_append, List.map_append, others_append, others_append, List.map_singleton,
        hreplaced]
  | none =>
      simp only [hidx] at h
      split_ifs at h
      cases h
      rw [readEntries_append, readEntries_toEntry, others_append, others_readEntries_toEntry,
        List.append_nil]

theorem readAndCommit_resolves
    (hresolves : (readAndCommit sha256 faults updatedAt record dir).2 = none) :
    ∃ transactionId, (record.get "transactionId").toText = some transactionId ∧
      others transactionId
          (recordsOf (readAndCommit sha256 faults updatedAt record dir).1.store.ledger) =
        others transactionId (recordsOf dir.store.ledger) := by
  unfold readAndCommit at hresolves ⊢
  cases hread : readWithFaults faults dir.store with
  | none => simp [hread] at hresolves
  | some existing =>
      simp only [hread] at hresolves ⊢
      rcases commitWithFaults_cases sha256 faults updatedAt existing record dir with
        ⟨hthrows, -⟩ | ⟨entries, checkpoint, hentries, -, hstore⟩
      · rw [hresolves] at hthrows
        cases hthrows
      · obtain ⟨normalized, hnormal, hupsert⟩ := Option.bind_eq_some_iff.1 hentries
        have hid : (record.get "transactionId").toText = some normalized.transactionId := by
          simp only [normalizeRecord, Option.bind_eq_bind, Option.bind_eq_some_iff] at hnormal
          obtain ⟨id, hid, _, -, _, -, _, -, hreturn⟩ := hnormal
          cases hreturn
          exact hid
        have hexisting : recordsOf dir.store.ledger = existing.map StoredRecord.record := by
          unfold readWithFaults at hread
          split_ifs at hread
          rw [recordsOf, ← map_readAllRecordsInternal, hread]
          rfl
        refine ⟨normalized.transactionId, hid, ?_⟩
        rw [hstore, hexisting, ← others_upsert hid hupsert]
        exact congrArg _ (recordsOf_writeLedger entries dir.store)

/-! ## A save in its process -/

namespace LedgerProcess

theorem records_initializeStore (h : init.Truthful) (sys : LedgerProcess) :
    (sys.initializeStore init).1.records = sys.records := by
  unfold initializeStore
  split_ifs
  · rfl
  · split
    · rfl
    · simp only [records, setStore, initializeOnce]
      split_ifs
      · rfl
      · exact recordsOf_ensureLedgerFile h _

/-- The saves of a queue in which all have settled go like one alone. -/
theorem saveAlone_dir (hsettled : sys.chain.Settled)
    (hinit : sys.chain.dir.store.storeInitialized = true) (call : FaultySave) :
    (sys.saveAlone sha256 call).chain.dir =
      (sys.saveRecord sha256 .none call.faults call.updatedAt call.record.toRow.toJs).1.chain.dir
      := by
  have hobject : call.record.toRow.toJs.isObject = true := rfl
  rw [saveAlone_of_initialized sha256 hinit]
  simp only [(SaveChain.run_alone sha256 hsettled call).1, saveRecord, hobject, Bool.not_true,
    Bool.false_eq_true, if_false, initializeStore_of_initialized hinit, if_true,
    saveRecordWithFaults_of_initialized hobject hinit]

/-- A save that throws leaves the records as they were, and both files once the store is
initialised. -/
theorem saveRecord_throws (h : init.Truthful)
    (hthrows : (sys.saveRecord sha256 init faults updatedAt record).2 ≠ none) :
    (sys.saveRecord sha256 init faults updatedAt record).1.records = sys.records ∧
      (sys.chain.dir.store.storeInitialized = true →
        (sys.saveRecord sha256 init faults updatedAt record).1.chain.dir.store.dataFiles =
          sys.chain.dir.store.dataFiles) := by
  have hrecords := records_initializeStore h sys
  unfold saveRecord at hthrows ⊢
  cases hobject : record.isObject with
  | false => exact ⟨rfl, fun _ => rfl⟩
  | true =>
      simp only [hobject, Bool.not_true, Bool.false_eq_true, if_false] at hthrows ⊢
      cases hfulfilled : (sys.initializeStore init).2 with
      | false =>
          simp only [Bool.false_eq_true, if_false]
          refine ⟨hrecords, fun hinit => ?_⟩
          rw [initializeStore_of_initialized hinit] at hfulfilled
          cases hfulfilled
      | true =>
          simp only [hfulfilled, if_true] at hthrows ⊢
          have hstore := store_of_readAndCommit_failed hthrows
          refine ⟨?_, fun hinit => ?_⟩
          · rw [records, hstore]
            exact hrecords
          · rw [hstore, initializeStore_of_initialized hinit]

/-- A save that resolves leaves the records of other ids. -/
theorem saveRecord_resolves (h : init.Truthful)
    (hresolves : (sys.saveRecord sha256 init faults updatedAt record).2 = none) :
    ∃ transactionId, (record.get "transactionId").toText = some transactionId ∧
      others transactionId (sys.saveRecord sha256 init faults updatedAt record).1.records =
        others transactionId sys.records := by
  have hrecords := records_initializeStore h sys
  unfold saveRecord at hresolves ⊢
  cases hobject : record.isObject with
  | false => simp [hobject] at hresolves
  | true =>
      simp only [hobject, Bool.not_true, Bool.false_eq_true, if_false] at hresolves ⊢
      cases hfulfilled : (sys.initializeStore init).2 with
      | false => simp [hfulfilled] at hresolves
      | true =>
          simp only [hfulfilled, if_true] at hresolves ⊢
          rw [← hrecords]
          generalize (sys.initializeStore init).1 = sys' at hresolves ⊢
          exact readAndCommit_resolves hresolves

end LedgerProcess

end UniverEscrow.Ledger
