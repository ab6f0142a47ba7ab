import UniverEscrow.Merkle.LedgerMerkle

/-!
# The data files

A file is kept as what its readers can tell apart: missing, the empty text, only white space,
no JSON, or a JSON value.  The ledger store remembers whether it has been initialised.
-/

namespace UniverEscrow.Ledger

open UniverEscrow.Js UniverEscrow.Merkle

inductive FileText where
  | empty
  | blank
  | malformed
  | json (v : JsValue)

/-- The file written by `JSON.stringify(v)`. -/
def FileText.ofJson (v : JsValue) : FileText := .json v.viaJson

/-- `new Date().toISOString()`. -/
structure IsoTime where
  text : String
  ne_empty : text ≠ ""

structure Store where
  ledger : Option FileText
  checkpoint : Option FileText
  storeInitialized : Bool

/-- A record read from the store; members the guard does not look at stay with it. -/
structure StoredRecord where
  item : JsValue
  record : EscrowRecord
  guard : EscrowRecord.ofJs? item = some record

/-- An element of the array a save writes, with the row its leaf is computed from. -/
structure LedgerEntry where
  item : JsValue
  row : LedgerRow

def StoredRecord.toEntry (stored : StoredRecord) : LedgerEntry :=
  ⟨stored.item, stored.record.toRow⟩

def LedgerRow.toEntry (row : LedgerRow) : LedgerEntry := ⟨row.toJs, row⟩

def StoredRecord.ofItem? (item : JsValue) : Option StoredRecord :=
  match h : EscrowRecord.ofJs? item with
  | some record => some ⟨item, record, h⟩
  | none => none

/-- `JSON.parse(raw)` for a non-empty text, an empty array for the empty one; `none` where the
read or the parse throws. -/
def parseLedgerFile (file : Option FileText) : Option JsValue :=
  match file with
  | some .empty => some (.arr [])
  | some (.json v) => some v
  | _ => none

def readAllRecordsInternal (store : Store) : Option (List StoredRecord) :=
  (parseLedgerFile store.ledger).map fun parsed =>
    match parsed with
    | .arr items => items.filterMap StoredRecord.ofItem?
    | _ => []

/-- The first call writes an empty array unless the file holds a JSON array. -/
def initializeStore (store : Store) : Store :=
  if store.storeInitialized then store
  else
    match store.ledger with
    | some (.json (.arr _)) => { store with storeInitialized := true }
    | _ => { store with ledger := some (.ofJson (.arr [])), storeInitialized := true }

def Store.dataFiles (store : Store) : Option FileText × Option FileText :=
  (store.ledger, store.checkpoint)

/-- The store is initialised, or its file is a JSON array. -/
def Store.Settled (store : Store) : Prop :=
  store.storeInitialized = true ∨ ∃ items, store.ledger = some (.json (.arr items))

def writeLedger (entries : List LedgerEntry) (store : Store) : Store :=
  { store with ledger := some (.ofJson (.arr (entries.map LedgerEntry.item))) }

/-! ## The checkpoint file -/

structure LedgerCheckpoint where
  root : String
  leafCount : JsNumber
  updatedAt : String
  root_ne : root ≠ ""
  leafCount_isInteger : leafCount.isInteger = true
  updatedAt_ne : updatedAt ≠ ""

def LedgerCheckpoint.ofJs? (parsed : JsValue) : Option LedgerCheckpoint :=
  match parsed.get "root", parsed.get "leafCount", parsed.get "updatedAt" with
  | .str root, .num leafCount, .str updatedAt =>
      if h : root ≠ "" ∧ leafCount.isInteger = true ∧ updatedAt ≠ "" then
        some ⟨root, leafCount, updatedAt, h.1, h.2.1, h.2.2⟩
      else none
  | _, _, _ => none

def readCheckpoint (store : Store) : Option LedgerCheckpoint :=
  match store.checkpoint with
  | some (.json parsed) => if parsed.isObject then LedgerCheckpoint.ofJs? parsed else none
  | _ => none

def writeCheckpoint (root : String) (leafCount : ℕ) (updatedAt : IsoTime) (store : Store) :
    Store :=
  { store with
    checkpoint := some (.ofJson (.obj [("root", root), ("leafCount", .num (.ofInt leafCount)),
      ("updatedAt", updatedAt.text)])) }

/-! ## What reading gives back -/

@[simp] theorem writeLedger_checkpoint (entries : List LedgerEntry) (store : Store) :
    (writeLedger entries store).checkpoint = store.checkpoint := rfl

@[simp] theorem writeCheckpoint_ledger (root : String) (leafCount : ℕ) (updatedAt : IsoTime)
    (store : Store) : (writeCheckpoint root leafCount updatedAt store).ledger = store.ledger := rfl

@[simp] theorem initializeStore_checkpoint (store : Store) :
    (initializeStore store).checkpoint = store.checkpoint := by
  unfold initializeStore
  split_ifs
  · rfl
  · split <;> rfl

theorem initializeStore_of_initialized {store : Store} (h : store.storeInitialized = true) :
    initializeStore store = store := if_pos h

@[simp] theorem storeInitialized_initializeStore (store : Store) :
    (initializeStore store).storeInitialized = true := by
  unfold initializeStore
  split_ifs with h
  · exact h
  · split <;> rfl

theorem Store.settled_initializeStore (store : Store) : (initializeStore store).Settled := by
  exact .inl (storeInitialized_initializeStore store)

theorem Store.Settled.initializeStore {store : Store} (h : store.Settled) :
    (initializeStore store).dataFiles = store.dataFiles := by
  unfold Ledger.initializeStore
  rcases h with h | ⟨items, hitems⟩
  · rw [if_pos h]
  · split_ifs
    · rfl
    · rw [hitems]
      simp only [dataFiles, hitems]

@[simp] theorem readCheckpoint_initializeStore (store : Store) :
    readCheckpoint (initializeStore store) = readCheckpoint store := by
  simp [readCheckpoint]

@[simp] theorem readCheckpoint_writeLedger (entries : List LedgerEntry) (store : Store) :
    readCheckpoint (writeLedger entries store) = readCheckpoint store := rfl

@[simp] theorem readAllRecordsInternal_writeCheckpoint (root : String) (leafCount : ℕ)
    (updatedAt : IsoTime) (store : Store) :
    readAllRecordsInternal (writeCheckpoint root leafCount updatedAt store) =
      readAllRecordsInternal store := rfl

/-- The file holds a JSON array, or nothing, which reads as one. -/
def IsArrayFile (store : Store) : Prop := ∃ items, parseLedgerFile store.ledger = some (.arr items)

theorem IsArrayFile.initializeStore {store : Store} (h : IsArrayFile store) :
    IsArrayFile (initializeStore store) ∧
      readAllRecordsInternal (Ledger.initializeStore store) = readAllRecordsInternal store := by
  obtain ⟨items, hitems⟩ := h
  unfold Ledger.initializeStore
  split_ifs
  · exact ⟨⟨items, hitems⟩, rfl⟩
  · split
    · exact ⟨⟨items, hitems⟩, rfl⟩
    · rename_i hne
      -- an uninitialised array file other than a JSON array is the empty text
      have hempty : store.ledger = some .empty := by
        rcases hfile : store.ledger with - | (- | - | - | v)
        · simp [parseLedgerFile, hfile] at hitems
        · rfl
        · simp [parseLedgerFile, hfile] at hitems
        · simp [parseLedgerFile, hfile] at hitems
        · simp only [parseLedgerFile, hfile, Option.some.injEq] at hitems
          exact absurd (hitems ▸ hfile) (hne items)
      constructor
      · exact ⟨[], rfl⟩
      · simp [readAllRecordsInternal, hempty, parseLedgerFile, FileText.ofJson, JsValue.viaJson,
          JsValue.itemsViaJson]

theorem readCheckpoint_writeCheckpoint (root : String) (leafCount : ℕ) (updatedAt : IsoTime)
    (store : Store) (hroot : root ≠ "") (hcount : (JsNumber.ofInt leafCount).isInteger = true) :
    ∃ checkpoint, readCheckpoint (writeCheckpoint root leafCount updatedAt store) =
        some checkpoint ∧ checkpoint.root = root ∧ checkpoint.leafCount = .ofInt leafCount := by
  have hfinite : (JsNumber.ofInt leafCount).isFinite = true := by
    cases hn : JsNumber.ofInt leafCount <;> simp_all [JsNumber.isInteger, JsNumber.isFinite]
  refine ⟨⟨root, .ofInt leafCount, updatedAt.text, hroot, hcount, updatedAt.ne_empty⟩, ?_, rfl, rfl⟩
  simp [readCheckpoint, writeCheckpoint, FileText.ofJson, JsValue.viaJson, JsValue.membersViaJson,
    JsValue.isObject, LedgerCheckpoint.ofJs?, JsValue.get, hfinite, hroot, hcount,
    updatedAt.ne_empty]

theorem leafCount_of_readCheckpoint {root : String} {leafCount : ℕ} {updatedAt : IsoTime}
    {store : Store} {checkpoint : LedgerCheckpoint}
    (h : readCheckpoint (writeCheckpoint root leafCount updatedAt store) = some checkpoint) :
    checkpoint.leafCount = .ofInt leafCount := by
  simp only [readCheckpoint, writeCheckpoint, FileText.ofJson, JsValue.viaJson,
    JsValue.isObject, if_true] at h
  by_cases hfinite : (JsNumber.ofInt leafCount).isFinite = true
  · simp [JsValue.membersViaJson, JsValue.viaJson, hfinite, LedgerCheckpoint.ofJs?,
      JsValue.get] at h
    obtain ⟨-, rfl⟩ := h
    rfl
  · simp [JsValue.membersViaJson, JsValue.viaJson, hfinite, LedgerCheckpoint.ofJs?,
      JsValue.get] at h

end UniverEscrow.Ledger
