import UniverEscrow.Ledger.Store

/-!
# The ledger store

A save checks its argument, initialises the store, waits for its turn in the write queue,
reads the ledger, and then writes ledger and checkpoint without another await.  File
operations succeed here; what can still throw is a coercion, an unreadable ledger file or an
array at its length limit.
-/

namespace UniverEscrow.Ledger

open UniverEscrow.Js UniverEscrow.Merkle UniverEscrow.Lib.KeyedList

/-- `push` throws on an array of this length. -/
def maxArrayLength : ℕ := 2 ^ 32 - 1

/-- Why a save throws.  The message of the first is the service's own, the other two come
from the platform. -/
inductive SaveFailure where
  | notAnObject
  | unreadableStore
  | platformError
deriving DecidableEq

def recordTypeError : String := "record must be an EscrowRecord object"

/-- The object a save persists; `none` where `String(..)` throws. -/
def normalizeRecord (record : JsValue) : Option LedgerRow := do
  let transactionId ← (record.get "transactionId").toText
  let escrowRecordLeafHash ← (record.get "escrowRecordLeafHash").toText
  let signature ← (record.get "signature").toText
  let timestamp ← (record.get "timestamp").toText
  return {
    transactionId, escrowRecordLeafHash, signature
    status := record.get "status"
    validAfterMs := record.get "validAfterMs"
    validUntilMs := record.get "validUntilMs"
    timestamp }

/-- `r.transactionId === record.transactionId`, on the id as passed. -/
def sameTransactionId (record : JsValue) (r : StoredRecord) : Bool :=
  (record.get "transactionId").isStr r.record.transactionId

/-- The array after the update; `none` where `push` throws. -/
def upsert (existing : List StoredRecord) (record : JsValue) (normalized : LedgerRow) :
    Option (List LedgerEntry) :=
  let entries := existing.map StoredRecord.toEntry
  match existing.findIdx? (sameTransactionId record) with
  | some idx => some (entries.set idx normalized.toEntry)
  | none =>
      if existing.length < maxArrayLength then some (entries ++ [normalized.toEntry]) else none

variable (sha256 : Sha256)

/-- Write the array and the checkpoint of its tree. -/
def persist (updatedAt : IsoTime) (entries : List LedgerEntry) (store : Store) : Store :=
  let merkle := buildMerkleForLedger sha256 (entries.map LedgerEntry.row)
  writeCheckpoint merkle.root merkle.tree.getLeafCount updatedAt (writeLedger entries store)

/-- The part of a save after it has read the ledger. -/
def commitRecord (updatedAt : IsoTime) (existing : List StoredRecord) (record : JsValue)
    (store : Store) : Option Store := do
  let normalized ← normalizeRecord record
  let entries ← upsert existing record normalized
  return persist sha256 updatedAt entries store

/-- The state after a save with nothing else running, and why it throws, if it does. -/
def saveRecord (updatedAt : IsoTime) (record : JsValue) (store : Store) :
    Store × Option SaveFailure :=
  if !record.isObject then (store, some .notAnObject)
  else
    let store := initializeStore store
    match readAllRecordsInternal store with
    | none => (store, some .unreadableStore)
    | some existing =>
        match commitRecord sha256 updatedAt existing record store with
        | none => (store, some .platformError)
        | some saved => (saved, none)

/-- The record is an object whose texts can be taken, the ledger can be read, and the array has
room for the record. -/
def Storable (record : JsValue) (store : Store) : Prop :=
  record.isObject = true ∧
    ∃ existing normalized entries, readAllRecordsInternal (initializeStore store) = some existing ∧
      normalizeRecord record = some normalized ∧ upsert existing record normalized = some entries

/-- `getRecord` answers an unreadable store, like an unknown id, with no record. -/
def getRecord (transactionId : JsValue) (store : Store) : Option StoredRecord × Store :=
  let store := initializeStore store
  ((readAllRecordsInternal store).bind fun records =>
    records.find? fun r => transactionId.isStr r.record.transactionId, store)

/-- `getAllRecords` answers an unreadable store with no records. -/
def getAllRecords (store : Store) : List StoredRecord × Store :=
  let store := initializeStore store
  ((readAllRecordsInternal store).getD [], store)

def merkleOfStored (records : List StoredRecord) : LedgerMerkle :=
  merkleOfRecords sha256 (records.map StoredRecord.record)

variable {sha256}

@[simp] theorem storeInitialized_persist (updatedAt : IsoTime) (entries : List LedgerEntry)
    (store : Store) :
    (persist sha256 updatedAt entries store).storeInitialized = store.storeInitialized := rfl

theorem storeInitialized_commitRecord {updatedAt : IsoTime} {existing : List StoredRecord}
    {record : JsValue} {store saved : Store}
    (h : commitRecord sha256 updatedAt existing record store = some saved) :
    saved.storeInitialized = store.storeInitialized := by
  simp only [commitRecord, Option.bind_eq_bind, Option.bind_eq_some_iff] at h
  obtain ⟨normalized, -, entries, -, hreturn⟩ := h
  cases hreturn
  exact storeInitialized_persist updatedAt entries store

theorem saveRecord_succeeds_iff {updatedAt : IsoTime} {record : JsValue} {store : Store} :
    (saveRecord sha256 updatedAt record store).2 = none ↔ Storable record store := by
  unfold saveRecord Storable
  cases record.isObject with
  | false => simp
  | true =>
      simp only [Bool.not_true, Bool.false_eq_true, if_false, true_and]
      cases readAllRecordsInternal (initializeStore store) with
      | none => simp
      | some existing =>
          simp only [commitRecord, Option.bind_eq_bind, Option.some.injEq]
          cases normalizeRecord record with
          | none => simp
          | some normalized =>
              simp only [Option.bind_some]
              cases hupsert : upsert existing record normalized with
              | none => simp [hupsert]
              | some entries => simp [hupsert]

/-! ## Saving well-formed records -/

/-- Members the guard reads survive the file; a member that is `undefined` fails the guard. -/
theorem find?_membersViaJson {key : String} {members : List (String × JsValue)} {v : JsValue}
    (hfind : members.find? (fun m => m.1 = key) = some (key, v)) (hv : v ≠ .undefined) :
    (JsValue.membersViaJson members).find? (fun m => m.1 = key) = some (key, v.viaJson) := by
  induction members with
  | nil => simp at hfind
  | cons m members ih =>
      obtain ⟨k, w⟩ := m
      rw [List.find?_cons] at hfind
      by_cases hk : k = key
      · simp only [hk, decide_true, Option.some.injEq, Prod.mk.injEq, true_and] at hfind
        subst hfind
        cases w <;> simp_all [JsValue.membersViaJson]
      · simp only [hk, decide_false] at hfind
        have htail := ih hfind
        cases w <;> simp [JsValue.membersViaJson, hk, htail]

theorem get_viaJson {item v : JsValue} {key : String} (hitem : ∃ members, item = .obj members)
    (hget : item.get key = v) (hv : v ≠ .undefined) : item.viaJson.get key = v.viaJson := by
  obtain ⟨members, rfl⟩ := hitem
  simp only [JsValue.get] at hget
  rcases hfind : members.find? (fun m => m.1 = key) with - | ⟨k, w⟩
  · rw [hfind] at hget
    exact absurd hget.symm hv
  · rw [hfind] at hget
    have hk : k = key := by simpa using List.find?_some hfind
    simp only [Option.map_some, Option.getD_some] at hget
    subst hk hget
    simp [JsValue.viaJson, JsValue.get, find?_membersViaJson hfind hv]

theorem EscrowRecord.ofJs?_viaJson {item : JsValue} {record : EscrowRecord}
    (h : EscrowRecord.ofJs? item = some record) :
    EscrowRecord.ofJs? item.viaJson = some record := by
  rw [EscrowRecord.ofJs?_eq_some] at h ⊢
  obtain ⟨htx, hleaf, hsig, hstatus, hafter, huntil, htime⟩ := h
  have hitem : ∃ members, item = .obj members := by
    cases item <;> simp_all [JsValue.get]
  have hstr {key s : String} (hget : item.get key = .str s) : item.viaJson.get key = .str s :=
    get_viaJson hitem hget (by simp)
  have hnum {key : String} {x : Binary64} (hget : item.get key = .num (.fin x)) :
      item.viaJson.get key = .num (.fin x) :=
    get_viaJson hitem hget (by simp)
  exact ⟨hstr htx, hstr hleaf, hstr hsig, hstr hstatus, hnum hafter, hnum huntil, hstr htime⟩

/-- The entry reads back as the record its leaf is computed from. -/
def LedgerEntry.Holds (entry : LedgerEntry) (record : EscrowRecord) : Prop :=
  entry.row = record.toRow ∧ EscrowRecord.ofJs? entry.item.viaJson = some record

theorem StoredRecord.toEntry_holds (stored : StoredRecord) :
    stored.toEntry.Holds stored.record :=
  ⟨rfl, EscrowRecord.ofJs?_viaJson stored.guard⟩

theorem toEntry_toRow_holds (record : EscrowRecord) : record.toRow.toEntry.Holds record :=
  ⟨rfl, EscrowRecord.ofJs?_viaJson_toRow record⟩

theorem StoredRecord.ofItem?_eq {item : JsValue} {record : EscrowRecord}
    (h : EscrowRecord.ofJs? item = some record) :
    StoredRecord.ofItem? item = some ⟨item, record, h⟩ := by
  unfold StoredRecord.ofItem?
  split
  · rename_i found hfound
    cases h.symm.trans hfound
    rfl
  · rename_i hnone
    rw [h] at hnone
    cases hnone

theorem itemsViaJson_eq_map (items : List JsValue) :
    JsValue.itemsViaJson items = items.map JsValue.viaJson := by
  induction items with
  | nil => rfl
  | cons item items ih => rw [JsValue.itemsViaJson, ih, List.map_cons]

/-- What a save writes reads back as the records its tree is built from. -/
theorem readAllRecordsInternal_writeLedger {entries : List LedgerEntry}
    {records : List EscrowRecord} (h : List.Forall₂ LedgerEntry.Holds entries records)
    (store : Store) :
    ∃ stored, readAllRecordsInternal (writeLedger entries store) = some stored ∧
      stored.map StoredRecord.record = records := by
  refine ⟨_, rfl, ?_⟩
  simp only [JsValue.viaJson, itemsViaJson_eq_map]
  induction h with
  | nil => rfl
  | cons hhead _ ih =>
      simp only [List.map_cons, List.filterMap_cons, StoredRecord.ofItem?_eq hhead.2, ih]

theorem rows_of_holds {entries : List LedgerEntry} {records : List EscrowRecord}
    (h : List.Forall₂ LedgerEntry.Holds entries records) :
    entries.map LedgerEntry.row = records.map EscrowRecord.toRow := by
  induction h with
  | nil => rfl
  | cons hhead _ ih => rw [List.map_cons, List.map_cons, hhead.1, ih]

theorem forall₂_toEntry (existing : List StoredRecord) :
    List.Forall₂ LedgerEntry.Holds (existing.map StoredRecord.toEntry)
      (existing.map StoredRecord.record) := by
  induction existing with
  | nil => exact .nil
  | cons stored existing ih => exact .cons stored.toEntry_holds ih

theorem normalizeRecord_toRow (record : EscrowRecord) :
    normalizeRecord record.toRow.toJs = some record.toRow := by
  simp [normalizeRecord, EscrowRecord.toRow, LedgerRow.toJs, JsValue.get, JsValue.toText]

theorem forall₂_set {existing : List StoredRecord} {record : EscrowRecord} {i : ℕ} :
    List.Forall₂ LedgerEntry.Holds
      ((existing.map StoredRecord.toEntry).set i record.toRow.toEntry)
      ((existing.map StoredRecord.record).set i record) := by
  induction existing generalizing i with
  | nil => exact .nil
  | cons stored existing ih =>
      cases i with
      | zero => exact .cons (toEntry_toRow_holds record) (forall₂_toEntry existing)
      | succ i => exact .cons stored.toEntry_holds ih

theorem sameTransactionId_eq {passed : JsValue} {id : String}
    (hid : passed.get "transactionId" = .str id) :
    sameTransactionId passed = fun r : StoredRecord => decide (r.record.transactionId = id) := by
  funext r
  simp [sameTransactionId, hid, JsValue.isStr, eq_comm]

/-- The update of a ledger by a well-formed record: in place of the first one with its id, or
at the end while the array may grow. -/
theorem upsert_wellFormed {existing : List StoredRecord} {passed : JsValue}
    {record : EscrowRecord} {entries : List LedgerEntry}
    (hid : passed.get "transactionId" = .str record.transactionId)
    (h : upsert existing passed record.toRow = some entries) :
    List.Forall₂ LedgerEntry.Holds entries
        (upsertBy EscrowRecord.transactionId record (existing.map StoredRecord.record)) ∧
      (entries.length = existing.length ∨ entries.length ≤ maxArrayLength) := by
  unfold upsert at h
  rw [upsertBy_eq_findIdx?, List.findIdx?_map]
  simp only [sameTransactionId_eq hid] at h
  simp only [Function.comp_def]
  cases hidx : existing.findIdx?
      (fun stored => decide (stored.record.transactionId = record.transactionId)) with
  | some i =>
      simp only [hidx, Option.some.injEq] at h
      subst h
      exact ⟨forall₂_set, .inl (by simp)⟩
  | none =>
      simp only [hidx] at h
      split_ifs at h with hlen
      cases h
      refine ⟨?_, .inr ?_⟩
      · exact List.rel_append (forall₂_toEntry existing)
          (.cons (toEntry_toRow_holds record) .nil)
      · simp only [List.length_append, List.length_map, List.length_singleton]
        omega

/-- Ledger and checkpoint describe the same records. -/
structure Coherent (sha256 : Sha256) (store : Store) (checkpoint : LedgerCheckpoint) : Prop where
  isArrayFile : IsArrayFile store
  checkpoint_eq : readCheckpoint store = some checkpoint
  agrees : ∃ stored, readAllRecordsInternal store = some stored ∧
    checkpoint.root = (merkleOfStored sha256 stored).root ∧
    checkpoint.leafCount = .ofInt (merkleOfStored sha256 stored).tree.getLeafCount

theorem Coherent.initializeStore {store : Store} {checkpoint : LedgerCheckpoint}
    (h : Coherent sha256 store checkpoint) :
    Coherent sha256 (initializeStore store) checkpoint where
  isArrayFile := h.isArrayFile.initializeStore.1
  checkpoint_eq := by rw [readCheckpoint_initializeStore, h.checkpoint_eq]
  agrees := by rw [h.isArrayFile.initializeStore.2]; exact h.agrees

theorem isInteger_ofInt {n : ℤ} (h : |n| ≤ 2 ^ 53) : (JsNumber.ofInt n).isInteger = true := by
  simp [JsNumber.ofInt_eq_fin h, JsNumber.isInteger]

theorem isInteger_of_le_maxArrayLength {n : ℕ} (h : n ≤ maxArrayLength) :
    (JsNumber.ofInt n).isInteger = true := by
  apply isInteger_ofInt
  simp only [maxArrayLength] at h
  rw [abs_le]
  omega

theorem coherent_persist {entries : List LedgerEntry} {records : List EscrowRecord}
    (h : List.Forall₂ LedgerEntry.Holds entries records)
    (hcount : (JsNumber.ofInt records.length).isInteger = true) (updatedAt : IsoTime)
    (store : Store) :
    ∃ checkpoint, Coherent sha256 (persist sha256 updatedAt entries store) checkpoint ∧
      checkpoint.root = (merkleOfRecords sha256 records).root ∧
      checkpoint.leafCount = .ofInt records.length := by
  have hmerkle : buildMerkleForLedger sha256 (entries.map LedgerEntry.row) =
      merkleOfRecords sha256 records := by
    rw [rows_of_holds h]
    rfl
  have hpersist : persist sha256 updatedAt entries store =
      writeCheckpoint (merkleOfRecords sha256 records).root records.length updatedAt
        (writeLedger entries store) := by
    simp only [persist, hmerkle, getLeafCount_merkleOfRecords]
  obtain ⟨checkpoint, hread, hroot, hleaf⟩ := readCheckpoint_writeCheckpoint _ _
    updatedAt (writeLedger entries store) (root_merkleOfRecords_ne_empty sha256 records) hcount
  obtain ⟨stored, hstored, hrecords⟩ := readAllRecordsInternal_writeLedger h store
  refine ⟨checkpoint, ⟨?_, by rw [hpersist, hread], stored, ?_, ?_, ?_⟩, hroot, hleaf⟩
  · rw [hpersist]
    refine ⟨JsValue.itemsViaJson (entries.map LedgerEntry.item), ?_⟩
    simp only [parseLedgerFile, writeCheckpoint_ledger, writeLedger, FileText.ofJson,
      JsValue.viaJson]
  · rw [hpersist, readAllRecordsInternal_writeCheckpoint, hstored]
  · rw [hroot, merkleOfStored, hrecords]
  · rw [hleaf, merkleOfStored, hrecords, getLeafCount_merkleOfRecords]

/-- What a commit of a well-formed record writes, whatever the state the save had read
before. -/
theorem commitRecord_eq_some {updatedAt : IsoTime} {existing : List StoredRecord}
    {passed : JsValue} {record : EscrowRecord} {store saved : Store}
    (hid : passed.get "transactionId" = .str record.transactionId)
    (hnormal : normalizeRecord passed = some record.toRow)
    (h : commitRecord sha256 updatedAt existing passed store = some saved) :
    ∃ entries, saved = persist sha256 updatedAt entries store ∧
      List.Forall₂ LedgerEntry.Holds entries
        (upsertBy EscrowRecord.transactionId record (existing.map StoredRecord.record)) ∧
      (entries.length = existing.length ∨ entries.length ≤ maxArrayLength) := by
  simp only [commitRecord, hnormal, Option.bind_eq_bind, Option.bind_some,
    Option.bind_eq_some_iff] at h
  obtain ⟨entries, hentries, hreturn⟩ := h
  cases hreturn
  exact ⟨entries, rfl, upsert_wellFormed hid hentries⟩

theorem get_transactionId_toRow (record : EscrowRecord) :
    record.toRow.toJs.get "transactionId" = .str record.transactionId := rfl

/-- Saving a well-formed record leaves ledger and checkpoint coherent. -/
theorem commitRecord_coherent {updatedAt : IsoTime} {existing : List StoredRecord}
    {passed : JsValue} {record : EscrowRecord} {store saved : Store}
    (hid : passed.get "transactionId" = .str record.transactionId)
    (hnormal : normalizeRecord passed = some record.toRow)
    (hexisting : (JsNumber.ofInt existing.length).isInteger = true)
    (h : commitRecord sha256 updatedAt existing passed store = some saved) :
    ∃ checkpoint, Coherent sha256 saved checkpoint := by
  obtain ⟨entries, rfl, hholds, hlen⟩ := commitRecord_eq_some hid hnormal h
  have hcount : (JsNumber.ofInt entries.length).isInteger = true := by
    rcases hlen with hlen | hlen
    · rwa [hlen]
    · exact isInteger_of_le_maxArrayLength hlen
  rw [hholds.length_eq] at hcount
  obtain ⟨checkpoint, hcoherent, -, -⟩ :=
    coherent_persist hholds hcount updatedAt store
  exact ⟨checkpoint, hcoherent⟩

/-- A commit upserts the records a reader finds. -/
theorem commitRecord_records {updatedAt : IsoTime} {existing : List StoredRecord}
    {passed : JsValue} {record : EscrowRecord} {store saved : Store}
    (hid : passed.get "transactionId" = .str record.transactionId)
    (hnormal : normalizeRecord passed = some record.toRow)
    (h : commitRecord sha256 updatedAt existing passed store = some saved) :
    ∃ stored, readAllRecordsInternal saved = some stored ∧
      stored.map StoredRecord.record =
        upsertBy EscrowRecord.transactionId record (existing.map StoredRecord.record) := by
  obtain ⟨entries, rfl, hholds, -⟩ := commitRecord_eq_some hid hnormal h
  exact readAllRecordsInternal_writeLedger hholds store

end UniverEscrow.Ledger
